import StructGen.Identifier

namespace StructGen

/-- The letters of Go within ASCII, of which the underscore is one. -/
def IsLetter (c : Char) : Prop :=
  ('A' ≤ c ∧ c ≤ 'Z') ∨ ('a' ≤ c ∧ c ≤ 'z') ∨ c = '_'

def IsDigit (c : Char) : Prop :=
  '0' ≤ c ∧ c ≤ '9'

/-- The identifiers of Go within ASCII. -/
inductive IsWord : List Char → Prop
  | letter {c : Char} (hc : IsLetter c) : IsWord [c]
  | append {cs : List Char} {c : Char} (hcs : IsWord cs) (hc : IsLetter c ∨ IsDigit c) :
    IsWord (cs ++ [c])

/-- The words that Go reserves for declarations, for types and for statements. -/
def reservedWords : List String :=
  ["const", "func", "import", "package", "type", "var"] ++
  ["chan", "interface", "map", "struct"] ++
  ["break", "case", "continue", "default", "defer", "else", "fallthrough", "for", "go", "goto",
   "if", "range", "return", "select", "switch"]

/-- Whether a package clause of ASCII characters can have a name: an identifier that is neither
reserved nor blank. -/
structure IsPackageName (name : String) : Prop where
  word : IsWord name.toList
  free : name ∉ reservedWords
  notBlank : name ≠ "_"

theorem isAlpha_iff {c : Char} :
    c.isAlpha = true ↔ ('A' ≤ c ∧ c ≤ 'Z') ∨ ('a' ≤ c ∧ c ≤ 'z') := by
  have hupper : c.isUpper = true ↔ 'A' ≤ c ∧ c ≤ 'Z' := decide_eq_true_iff
  have hlower : c.isLower = true ↔ 'a' ≤ c ∧ c ≤ 'z' :=
    Bool.and_eq_true_iff.trans (and_congr decide_eq_true_iff decide_eq_true_iff)
  exact Bool.or_eq_true_iff.trans (or_congr hupper hlower)

theorem isDigit_iff {c : Char} : c.isDigit = true ↔ IsDigit c :=
  Bool.and_eq_true_iff.trans (and_congr decide_eq_true_iff decide_eq_true_iff)

theorem isWordStart_iff {c : Char} : isWordStart c = true ↔ IsLetter c := by
  rw [isWordStart, IsLetter, Bool.or_eq_true_iff, isAlpha_iff, beq_iff_eq, or_assoc]

theorem isWordChar_iff {c : Char} : isWordChar c = true ↔ IsLetter c ∨ IsDigit c := by
  have halnum : c.isAlphanum = true ↔ c.isAlpha = true ∨ IsDigit c :=
    Bool.or_eq_true_iff.trans (or_congr_right isDigit_iff)
  rw [← isWordStart_iff, isWordStart, isWordChar, Bool.or_eq_true_iff, Bool.or_eq_true_iff,
    halnum, or_right_comm]

theorem IsWord.exists_cons {cs : List Char} (h : IsWord cs) :
    ∃ first rest, cs = first :: rest ∧ isWordStart first = true ∧ rest.all isWordChar = true := by
  induction h with
  | letter hc => exact ⟨_, [], rfl, isWordStart_iff.mpr hc, rfl⟩
  | @append _ c _ hc ih =>
    obtain ⟨first, rest, rfl, hfirst, hrest⟩ := ih
    refine ⟨first, rest ++ [c], rfl, hfirst, ?_⟩
    rw [List.all_append, hrest, List.all_cons, isWordChar_iff.mpr hc]
    rfl

theorem IsWord.append_of_all {cs ds : List Char} (h : IsWord cs)
    (hds : ds.all isWordChar = true) : IsWord (cs ++ ds) := by
  induction ds generalizing cs with
  | nil => rwa [List.append_nil]
  | cons d ds ih =>
    rw [List.all_cons, Bool.and_eq_true] at hds
    have hnext := ih (h.append (isWordChar_iff.mp hds.1)) hds.2
    rwa [List.append_assoc] at hnext

/-- One pass over the characters tells identifiers. -/
theorem isWord_cons_iff {c : Char} {cs : List Char} :
    IsWord (c :: cs) ↔ isWordStart c = true ∧ cs.all isWordChar = true := by
  constructor
  · intro h
    obtain ⟨first, rest, heq, hfirst, hrest⟩ := h.exists_cons
    obtain ⟨rfl, rfl⟩ := List.cons_eq_cons.mp heq
    exact ⟨hfirst, hrest⟩
  · rintro ⟨hfirst, hrest⟩
    exact (IsWord.letter (isWordStart_iff.mp hfirst)).append_of_all hrest

theorem not_isWord_nil : ¬ IsWord [] := by
  intro h
  obtain ⟨_, _, heq, _⟩ := h.exists_cons
  cases heq

theorem mem_goKeywords_iff {name : String} : name ∈ goKeywords ↔ name ∈ reservedWords := by
  have hperm : goKeywords.Perm reservedWords := by decide +kernel
  exact hperm.mem_iff

theorem isValidPackage_iff_isWord {name : String} :
    isValidPackage name = true ↔ IsWord name.toList ∧ name ∉ reservedWords := by
  unfold isValidPackage
  cases name.toList with
  | nil => simp [not_isWord_nil]
  | cons c cs =>
    rw [isWord_cons_iff, ← mem_goKeywords_iff]
    simp

/-- What is accepted as the name of a package is one, but for the blank identifier. -/
theorem isValidPackage_iff (name : String) :
    isValidPackage name = true ↔ IsPackageName name ∨ name = "_" := by
  rw [isValidPackage_iff_isWord]
  constructor
  · rintro ⟨hword, hfree⟩
    by_cases hblank : name = "_"
    · exact Or.inr hblank
    · exact Or.inl ⟨hword, hfree, hblank⟩
  · rintro (h | rfl)
    · exact ⟨h.word, h.free⟩
    · exact ⟨.letter (Or.inr (Or.inr rfl)), by decide +kernel⟩

theorem isValidPackage_blank : isValidPackage "_" = true ∧ ¬ IsPackageName "_" :=
  ⟨by decide +kernel, fun h => h.notBlank rfl⟩

end StructGen
