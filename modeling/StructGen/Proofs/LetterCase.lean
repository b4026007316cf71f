import StructGen.Proofs.IdentifierWords
import StructGen.Text.LowerCase

namespace StructGen

/-- A name without its underscores. -/
def withoutUnderscores (name : String) : String :=
  String.ofList (name.toList.filter (· ≠ '_'))

theorem equalIgnoringCase_iff {s t : String} :
    equalIgnoringCase s t = true ↔ s.toList.map Char.toLower = t.toList.map Char.toLower := by
  rw [equalIgnoringCase, beq_iff_eq, ← String.toList_inj, asciiLower, asciiLower,
    String.toList_map, String.toList_map]

theorem Capitalizes.equalIgnoringCase_withoutUnderscores {respell : List Char → List Char}
    (h : Capitalizes respell) (name : String) :
    equalIgnoringCase (respellWords respell name) (withoutUnderscores name) = true := by
  rw [equalIgnoringCase_iff, h.map_toLower_respellWords, withoutUnderscores, String.toList_ofList]

/-- Two ways to respell words differ at most in the case of the letters that they write. -/
theorem Capitalizes.equalIgnoringCase_respellWords {respell respell' : List Char → List Char}
    (h : Capitalizes respell) (h' : Capitalizes respell') (name : String) :
    equalIgnoringCase (respellWords respell name) (respellWords respell' name) = true := by
  rw [equalIgnoringCase_iff, h.map_toLower_respellWords, h'.map_toLower_respellWords]

/-! ### Gonic style -/

theorem gonicWord_nil : gonicWord [] = [] := by
  simp [gonicWord]

/-- Whether it is an initialism or not, a word begins with its first character in upper case, and
its other characters are all in one case. -/
theorem gonicWord_cons (c : Char) (cs : List Char) :
    gonicWord (c :: cs) = c.toUpper :: cs.map Char.toUpper ∨
      gonicWord (c :: cs) = c.toUpper :: cs.map Char.toLower := by
  unfold gonicWord
  dsimp only
  split
  · exact Or.inl rfl
  · exact Or.inr rfl

theorem capitalizes_gonicWord : Capitalizes gonicWord where
  letters word := by
    cases word with
    | nil => rw [gonicWord_nil]
    | cons c cs => rcases gonicWord_cons c cs with h | h <;> simp [h]
  first word := by
    cases word with
    | nil => rw [gonicWord_nil]; rfl
    | cons c cs => rcases gonicWord_cons c cs with h | h <;> rw [h] <;> rfl

theorem underscoreWords_eq_nameWords (name : String) :
    underscoreWords name.toList = nameWords name := by
  rw [underscoreWords, underscorePieces_eq_splitOn, nameWords]

theorem gonicIdentifier_eq_respellWords : gonicIdentifier = respellWords gonicWord := by
  funext name
  rw [gonicIdentifier, underscoreWords_eq_nameWords, respellWords]

theorem gonicWord_map_toLower (word : List Char) :
    gonicWord (word.map Char.toLower) = gonicWord word := by
  have hupper : (word.map Char.toLower).map Char.toUpper = word.map Char.toUpper := by simp
  unfold gonicWord
  rw [hupper]
  cases word with
  | nil => rfl
  | cons c cs =>
    have hlower : (cs.map Char.toLower).map Char.toLower = cs.map Char.toLower := by simp
    simp only [List.map_cons, toUpper_toLower, hlower]

theorem splitOn_map_toLower (cs : List Char) :
    (cs.map Char.toLower).splitOn '_' = (cs.splitOn '_').map (·.map Char.toLower) := by
  induction cs with
  | nil => rfl
  | cons c cs ih =>
    obtain ⟨w, ws, hs⟩ := List.exists_cons_of_ne_nil (List.splitOn_ne_nil '_' cs)
    rw [hs, List.map_cons] at ih
    by_cases hc : c = '_'
    · have hlower : c.toLower = '_' := toLower_eq_underscore_iff.mpr hc
      rw [List.map_cons, hlower, hc, splitOn_cons_self, splitOn_cons_self, hs, ih]
      rfl
    · have hlower : c.toLower ≠ '_' := fun h => hc (toLower_eq_underscore_iff.mp h)
      rw [List.map_cons, splitOn_cons_of_ne hlower ih, splitOn_cons_of_ne hc hs]
      rfl

theorem nameWords_asciiLower (name : String) :
    nameWords (asciiLower name) = (nameWords name).map (·.map Char.toLower) := by
  rw [nameWords, asciiLower, String.toList_map, splitOn_map_toLower, List.filter_map, nameWords]
  congr 1
  refine List.filter_congr fun word _ => ?_
  simp

theorem gonicIdentifier_asciiLower (name : String) :
    gonicIdentifier (asciiLower name) = gonicIdentifier name := by
  rw [gonicIdentifier_eq_respellWords, respellWords, nameWords_asciiLower, List.flatMap_map,
    respellWords]
  simp only [gonicWord_map_toLower]

theorem gonicIdentifier_eq_of_equalIgnoringCase {name name' : String}
    (h : equalIgnoringCase name name' = true) : gonicIdentifier name = gonicIdentifier name' := by
  rw [← gonicIdentifier_asciiLower name, beq_iff_eq.mp h, gonicIdentifier_asciiLower]

/-- Whether the identifiers of a name have its characters but the underscores, up to the case of
ASCII letters. -/
structure KeepsLetters (name : String) : Prop where
  styles : equalIgnoringCase (gonicIdentifier name) (snakeIdentifier name) = true
  gonic : equalIgnoringCase (gonicIdentifier name) (withoutUnderscores name) = true
  snake : equalIgnoringCase (snakeIdentifier name) (withoutUnderscores name) = true

theorem keepsLetters (name : String) : KeepsLetters name where
  styles := by
    rw [gonicIdentifier_eq_respellWords, snakeIdentifier_eq_respellWords]
    exact capitalizes_gonicWord.equalIgnoringCase_respellWords capitalizes_capitalize name
  gonic := by
    rw [gonicIdentifier_eq_respellWords]
    exact capitalizes_gonicWord.equalIgnoringCase_withoutUnderscores name
  snake := by
    rw [snakeIdentifier_eq_respellWords]
    exact capitalizes_capitalize.equalIgnoringCase_withoutUnderscores name

/-- In gonic style the case of the letters of a name does not matter; the identifier has the
characters of the name as in snake style, and parts joined by an underscore are written one by
one. -/
theorem gonicIdentifier_up_to_case :
    (∀ name name', equalIgnoringCase name name' = true →
      gonicIdentifier name = gonicIdentifier name') ∧
    (∀ name, KeepsLetters name) ∧
    ∀ name name',
      gonicIdentifier (name ++ "_" ++ name') = gonicIdentifier name ++ gonicIdentifier name' := by
  refine ⟨fun _ _ h => gonicIdentifier_eq_of_equalIgnoringCase h, keepsLetters,
    fun name name' => ?_⟩
  rw [gonicIdentifier_eq_respellWords, respellWords_append_underscore]

/-- Initialisms are told in any case of their letters, and accented letters keep theirs. -/
theorem gonicIdentifier_up_to_case_of_mixed_initialisms :
    equalIgnoringCase "api_URL_größe_Id" "API_url_GRößE_iD" = true ∧
      gonicIdentifier "api_URL_größe_Id" = "APIURLGrößeID" ∧
      gonicIdentifier "API_url_GRößE_iD" = "APIURLGrößeID" ∧
      KeepsLetters "api_URL_größe_Id" := by
  have hcase : equalIgnoringCase "api_URL_größe_Id" "API_url_GRößE_iD" = true :=
    equalIgnoringCase_iff.mpr (by decide +kernel)
  have hfirst : gonicIdentifier "api_URL_größe_Id" = "APIURLGrößeID" := by decide +kernel
  have hsame := gonicIdentifier_up_to_case.1 _ _ hcase
  exact ⟨hcase, hfirst, hsame.symm.trans hfirst, gonicIdentifier_up_to_case.2.1 _⟩

end StructGen
