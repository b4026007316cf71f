namespace StructGen

def spaces (n : Nat) : String :=
  String.ofList (List.replicate n ' ')

/-- Fills a text with spaces behind it up to a number of characters; longer texts stay whole. -/
def padRight (width : Nat) (s : String) : String :=
  s ++ spaces (width - s.length)

/-- Fills a text with spaces before it up to a number of characters; longer texts stay whole. -/
def padLeft (width : Nat) (s : String) : String :=
  spaces (width - s.length) ++ s

/-- The characters with the White_Space property. -/
def isBlank (c : Char) : Bool :=
  let n := c.toNat
  decide ((9 ≤ n ∧ n ≤ 13) ∨ n = 0x20 ∨ n = 0x85 ∨ n = 0xA0 ∨ n = 0x1680 ∨
    (0x2000 ≤ n ∧ n ≤ 0x200A) ∨ n = 0x2028 ∨ n = 0x2029 ∨ n = 0x202F ∨ n = 0x205F ∨ n = 0x3000)

def trimRight (s : String) : String :=
  String.ofList (s.toList.reverse.dropWhile isBlank).reverse

@[simp] theorem length_spaces (n : Nat) : (spaces n).length = n := by
  simp [spaces]

theorem spaces_succ (n : Nat) : spaces (n + 1) = " " ++ spaces n := by
  apply String.toList_inj.mp
  simp [spaces, List.replicate_succ]

theorem length_padRight (width : Nat) (s : String) :
    (padRight width s).length = max width s.length := by
  simp only [padRight, String.length_append, length_spaces]
  omega

theorem length_padLeft (width : Nat) (s : String) :
    (padLeft width s).length = max width s.length := by
  simp only [padLeft, String.length_append, length_spaces]
  omega

end StructGen
