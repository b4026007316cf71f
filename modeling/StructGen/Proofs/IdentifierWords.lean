import Mathlib.Data.List.Basic
import StructGen.Identifier
import StructGen.Proofs.Words

namespace StructGen

/-- The words of a name: what stands between its underscores, where that is not empty. -/
def nameWords (name : String) : List (List Char) :=
  (name.toList.splitOn '_').filter (!·.isEmpty)

/-- The words of a name, each as it is respelled, written without anything between them. -/
def respellWords (respell : List Char → List Char) (name : String) : String :=
  String.ofList ((nameWords name).flatMap respell)

/-- A word with its first character in upper case, if that is an ASCII letter. -/
def capitalize : List Char → List Char
  | [] => []
  | c :: cs => c.toUpper :: cs

/-- Whether respelled words keep their characters, but for the case of ASCII letters, and begin
in upper case. -/
structure Capitalizes (respell : List Char → List Char) : Prop where
  letters : ∀ word, (respell word).map Char.toLower = word.map Char.toLower
  first : ∀ word, (respell word).head? = word.head?.map Char.toUpper

/-! ### The case of ASCII letters -/

/-- Only ASCII letters have cases, so a fact about the cases of a character is checked for ASCII,
code by code, and for the characters that are no letters and stay as they are. -/
theorem forall_of_ascii {P : Char → Prop} (hascii : ∀ n, n < 128 → P (Char.ofNat n))
    (hother : ∀ c : Char, c.isAlpha = false → c.toUpper = c → c.toLower = c → P c) (c : Char) :
    P c := by
  by_cases h : c.toNat < 128
  · have hcode := hascii c.toNat h
    rwa [Char.ofNat_toNat] at hcode
  · have hpast : ∀ last : Char, last.toNat < 128 → ¬ c.val ≤ last.val := fun last hlast hle =>
      h (Nat.lt_of_le_of_lt (UInt32.le_iff_toNat_le.mp hle) hlast)
    have hupper : ¬ c.val ≤ 'Z'.val := hpast 'Z' (by decide)
    have hlower : ¬ c.val ≤ 'z'.val := hpast 'z' (by decide)
    apply hother c
    · exact Bool.or_eq_false_iff.mpr ⟨decide_eq_false fun hrange => hupper hrange.2,
        Bool.and_eq_false_iff.mpr (Or.inr (decide_eq_false hlower))⟩
    · exact dif_neg fun hrange => hlower hrange.2
    · exact dif_neg fun hrange => hupper hrange.2

@[simp] theorem toLower_toUpper (c : Char) : c.toUpper.toLower = c.toLower :=
  forall_of_ascii (P := fun c => c.toUpper.toLower = c.toLower) (by decide +kernel)
    (fun c _ hupper _ => by rw [hupper]) c

@[simp] theorem toUpper_toUpper (c : Char) : c.toUpper.toUpper = c.toUpper :=
  forall_of_ascii (P := fun c => c.toUpper.toUpper = c.toUpper) (by decide +kernel)
    (fun c _ hupper _ => by rw [hupper, hupper]) c

@[simp] theorem toUpper_toLower (c : Char) : c.toLower.toUpper = c.toUpper :=
  forall_of_ascii (P := fun c => c.toLower.toUpper = c.toUpper) (by decide +kernel)
    (fun c _ _ hlower => by rw [hlower]) c

@[simp] theorem toLower_toLower (c : Char) : c.toLower.toLower = c.toLower :=
  forall_of_ascii (P := fun c => c.toLower.toLower = c.toLower) (by decide +kernel)
    (fun c _ _ hlower => by rw [hlower, hlower]) c

theorem isUpper_toUpper (c : Char) : c.toUpper.isUpper = c.isAlpha :=
  forall_of_ascii (P := fun c => c.toUpper.isUpper = c.isAlpha) (by decide +kernel)
    (fun c halpha hupper _ => by rw [hupper, halpha, (Bool.or_eq_false_iff.mp halpha).1]) c

theorem isAlphanum_toLower (c : Char) : c.toLower.isAlphanum = c.isAlphanum :=
  forall_of_ascii (P := fun c => c.toLower.isAlphanum = c.isAlphanum) (by decide +kernel)
    (fun c _ _ hlower => by rw [hlower]) c

theorem toLower_eq_underscore_iff {c : Char} : c.toLower = '_' ↔ c = '_' :=
  forall_of_ascii (P := fun c => c.toLower = '_' ↔ c = '_') (by decide +kernel)
    (fun c _ _ hlower => by rw [hlower]) c

/-! ### The words of a name -/

theorem underscorePieces_eq_splitOn (cs : List Char) : underscorePieces cs = cs.splitOn '_' := by
  induction cs with
  | nil => rfl
  | cons c cs ih =>
    obtain ⟨w, ws, hs⟩ := List.exists_cons_of_ne_nil (List.splitOn_ne_nil '_' cs)
    rw [underscorePieces, ih]
    by_cases hc : c = '_'
    · rw [if_pos hc, hc, splitOn_cons_self]
    · rw [if_neg hc, splitOn_cons_of_ne hc hs, hs]

theorem nameWords_append_underscore (s t : String) :
    nameWords (s ++ "_" ++ t) = nameWords s ++ nameWords t := by
  have hchars : (s ++ "_" ++ t).toList = s.toList ++ '_' :: t.toList := by simp
  rw [nameWords, hchars, List.splitOn_append_cons_self, List.filter_append]
  rfl

theorem flatten_splitOn_underscore (cs : List Char) :
    (cs.splitOn '_').flatten = cs.filter (· ≠ '_') := by
  induction cs with
  | nil => rfl
  | cons c cs ih =>
    obtain ⟨w, ws, hs⟩ := List.exists_cons_of_ne_nil (List.splitOn_ne_nil '_' cs)
    by_cases hc : c = '_'
    · rw [hc, splitOn_cons_self, List.filter_cons_of_neg (by simp), ← ih]
      rfl
    · rw [splitOn_cons_of_ne hc hs, List.filter_cons_of_pos (by simpa using hc), ← ih, hs]
      rfl

/-- The words of a name have all its characters but the underscores, in their order. -/
theorem flatten_nameWords (name : String) :
    (nameWords name).flatten = name.toList.filter (· ≠ '_') := by
  rw [nameWords, List.flatten_filter_not_isEmpty, flatten_splitOn_underscore]

theorem nameWords_of_no_underscore {name : String} (h : '_' ∉ name.toList) :
    nameWords name = [name.toList].filter (!·.isEmpty) := by
  rw [nameWords, List.splitOn_eq_singleton h]

/-! ### Respelled words -/

theorem respellWords_append_underscore (respell : List Char → List Char) (s t : String) :
    respellWords respell (s ++ "_" ++ t) = respellWords respell s ++ respellWords respell t := by
  rw [respellWords, nameWords_append_underscore, List.flatMap_append, String.ofList_append]
  rfl

namespace Capitalizes

variable {respell : List Char → List Char}

theorem nil (h : Capitalizes respell) : respell [] = [] :=
  List.map_eq_nil_iff.mp (h.letters [])

theorem map_toLower_flatMap (h : Capitalizes respell) (words : List (List Char)) :
    (words.flatMap respell).map Char.toLower = words.flatten.map Char.toLower := by
  induction words with
  | nil => rfl
  | cons word words ih =>
    rw [List.flatMap_cons, List.flatten_cons, List.map_append, List.map_append, h.letters, ih]

theorem head?_flatMap (h : Capitalizes respell) (words : List (List Char)) :
    (words.flatMap respell).head? = words.flatten.head?.map Char.toUpper := by
  induction words with
  | nil => rfl
  | cons word words ih =>
    rw [List.flatMap_cons, List.flatten_cons, List.head?_append, List.head?_append, h.first, ih]
    cases word.head? <;> rfl

/-- Respelled words have the characters of the name but the underscores, up to the case of ASCII
letters. -/
theorem map_toLower_respellWords (h : Capitalizes respell) (name : String) :
    (respellWords respell name).toList.map Char.toLower =
      (name.toList.filter (· ≠ '_')).map Char.toLower := by
  rw [respellWords, String.toList_ofList, h.map_toLower_flatMap, flatten_nameWords]

theorem head?_respellWords (h : Capitalizes respell) (name : String) :
    (respellWords respell name).toList.head? =
      (name.toList.find? (· ≠ '_')).map Char.toUpper := by
  rw [respellWords, String.toList_ofList, h.head?_flatMap, flatten_nameWords, List.head?_filter]

end Capitalizes

theorem Capitalizes.underscore_not_mem_respellWords {respell : List Char → List Char}
    (h : Capitalizes respell) (name : String) : '_' ∉ (respellWords respell name).toList := by
  intro hmem
  have hlower : '_' ∈ (respellWords respell name).toList.map Char.toLower :=
    List.mem_map.mpr ⟨'_', hmem, rfl⟩
  rw [h.map_toLower_respellWords] at hlower
  obtain ⟨c, hc, heq⟩ := List.mem_map.mp hlower
  have hne : c ≠ '_' := by simpa using (List.mem_filter.mp hc).2
  exact hne (toLower_eq_underscore_iff.mp heq)

theorem Capitalizes.respellWords_of_no_underscore {respell : List Char → List Char}
    (h : Capitalizes respell) {name : String} (hname : '_' ∉ name.toList) :
    respellWords respell name = String.ofList (respell name.toList) := by
  rw [respellWords, nameWords_of_no_underscore hname]
  cases hchars : name.toList with
  | nil => simp [h.nil]
  | cons c cs => simp

/-! ### Snake style -/

theorem capitalizes_capitalize : Capitalizes capitalize where
  letters word := by cases word <;> simp [capitalize]
  first word := by cases word <;> rfl

/-- The loop over a name capitalizes the piece that it is in if it is at its start, and every
piece after it. -/
theorem capitalizeWords_of_splitOn {cs w : List Char} {ws : List (List Char)} (capital : Bool)
    (h : cs.splitOn '_' = w :: ws) :
    capitalizeWords capital cs =
      (if capital then capitalize w else w) ++ ws.flatMap capitalize := by
  -- Over the characters, for both flags at once: the loop goes on with either of them.
  induction cs generalizing capital w ws with
  | nil =>
    obtain ⟨rfl, rfl⟩ := List.cons_eq_cons.mp h
    cases capital <;> rfl
  | cons c cs ih =>
    obtain ⟨v, vs, hs⟩ := List.exists_cons_of_ne_nil (List.splitOn_ne_nil '_' cs)
    by_cases hc : c = '_'
    · rw [hc, splitOn_cons_self, hs] at h
      obtain ⟨rfl, rfl⟩ := List.cons_eq_cons.mp h
      rw [capitalizeWords, if_pos hc, ih true hs]
      cases capital <;> rfl
    · rw [splitOn_cons_of_ne hc hs] at h
      obtain ⟨rfl, rfl⟩ := List.cons_eq_cons.mp h
      rw [capitalizeWords, if_neg hc, ih false hs]
      cases capital <;> rfl

theorem flatMap_capitalize_filter (words : List (List Char)) :
    (words.filter (!·.isEmpty)).flatMap capitalize = words.flatMap capitalize := by
  induction words with
  | nil => rfl
  | cons word words ih => cases word <;> simp [ih, capitalize]

theorem snakeIdentifier_eq_respellWords : snakeIdentifier = respellWords capitalize := by
  funext name
  obtain ⟨w, ws, hs⟩ := List.exists_cons_of_ne_nil (List.splitOn_ne_nil '_' name.toList)
  rw [snakeIdentifier, capitalizeWords_of_splitOn true hs, respellWords, nameWords,
    flatMap_capitalize_filter, hs]
  rfl

theorem capitalize_eq_self {cs : List Char} (h : ∀ c ∈ cs.head?, c.toUpper = c) :
    capitalize cs = cs := by
  cases cs with
  | nil => rfl
  | cons c cs => rw [capitalize, h c rfl]

/-- In snake style a name keeps its words, each with its first character in upper case, and
nothing else: parts joined by an underscore are written one by one, and an identifier is written as
it is. -/
theorem snakeIdentifier_word_by_word (name name' : String) :
    snakeIdentifier name = respellWords capitalize name ∧
      snakeIdentifier (name ++ "_" ++ name') = snakeIdentifier name ++ snakeIdentifier name' ∧
      '_' ∉ (snakeIdentifier name).toList ∧
      snakeIdentifier (snakeIdentifier name) = snakeIdentifier name := by
  have hplain := capitalizes_capitalize.underscore_not_mem_respellWords name
  have hfirst : ∀ c ∈ (respellWords capitalize name).toList.head?, c.toUpper = c := by
    rw [capitalizes_capitalize.head?_respellWords]
    intro c hc
    obtain ⟨d, _, rfl⟩ := Option.map_eq_some_iff.mp hc
    exact toUpper_toUpper d
  rw [snakeIdentifier_eq_respellWords]
  refine ⟨rfl, respellWords_append_underscore capitalize name name', hplain, ?_⟩
  rw [capitalizes_capitalize.respellWords_of_no_underscore hplain, capitalize_eq_self hfirst,
    String.ofList_toList]

/-- Digits and accented letters after an underscore stay as they are. -/
example : snakeIdentifier "__user_id_2fa_éta_" = "UserId2faéta" := by decide +kernel

end StructGen
