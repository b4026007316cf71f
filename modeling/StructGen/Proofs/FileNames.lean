import StructGen.Proofs.Overwriting

namespace StructGen

/-- Whether a name lacks the ending of source files and another one is the same name with it. -/
structure GainsEnding (bare full : String) : Prop where
  lacks : ¬ HasEnding bare
  append : full = bare ++ ".go"

instance (bare full : String) : Decidable (GainsEnding bare full) :=
  decidable_of_iff (¬ HasEnding bare ∧ full = bare ++ ".go")
    ⟨fun h => ⟨h.1, h.2⟩, fun h => ⟨h.lacks, h.append⟩⟩

theorem GainsEnding.hasEnding {bare full : String} (h : GainsEnding bare full) :
    HasEnding full :=
  ⟨bare, h.append⟩

theorem GainsEnding.goFileName_eq {bare full : String} (h : GainsEnding bare full) :
    goFileName bare = goFileName full := by
  rw [goFileName_of_not_hasEnding h.lacks, goFileName_of_hasEnding h.hasEnding, h.append]

theorem goFileName_goFileName (name : String) : goFileName (goFileName name) = goFileName name :=
  goFileName_of_hasEnding (hasEnding_goFileName name)

/-- A source file is named after itself, or after its name without the ending. -/
theorem goFileName_eq_iff {name file : String} :
    goFileName name = file ↔ (HasEnding file ∧ name = file) ∨ GainsEnding name file := by
  by_cases h : HasEnding name
  · rw [goFileName_of_hasEnding h]
    constructor
    · rintro rfl
      exact Or.inl ⟨h, rfl⟩
    · rintro (⟨_, hsame⟩ | hgains)
      · exact hsame
      · exact absurd h hgains.lacks
  · rw [goFileName_of_not_hasEnding h]
    constructor
    · intro hfile
      exact Or.inr ⟨h, hfile.symm⟩
    · rintro (⟨hfile, rfl⟩ | hgains)
      · exact absurd hfile h
      · exact hgains.append.symm

theorem eq_or_gainsEnding_of_goFileName_eq {x y : String} (h : goFileName x = goFileName y) :
    x = y ∨ GainsEnding x y ∨ GainsEnding y x := by
  by_cases hy : HasEnding y
  · rw [goFileName_of_hasEnding hy] at h
    obtain ⟨_, hsame⟩ | hgains := goFileName_eq_iff.mp h
    · exact Or.inl hsame
    · exact Or.inr (Or.inl hgains)
  · rw [goFileName_of_not_hasEnding hy] at h
    obtain ⟨_, hx⟩ | hgains := goFileName_eq_iff.mp h
    · exact Or.inr (Or.inr ⟨hy, hx⟩)
    · exact Or.inl ((String.append_left_inj ".go").mp hgains.append).symm

/-- Distinct names have files of their own exactly if none of them is another one with the
ending. -/
theorem nodup_map_goFileName_iff {names : List String} :
    (names.map goFileName).Nodup ↔
      names.Nodup ∧ ∀ x ∈ names, ∀ y ∈ names, ¬ GainsEnding x y := by
  constructor
  · intro hfiles
    refine ⟨hfiles.of_map, fun x hx y hy hgains => ?_⟩
    have hsame : x = y := List.inj_on_of_nodup_map hfiles hx hy hgains.goFileName_eq
    exact hgains.lacks (hsame ▸ hgains.hasEnding)
  · rintro ⟨hnames, hgains⟩
    refine hnames.map_on fun x hx y hy hsame => ?_
    obtain heq | hxy | hyx := eq_or_gainsEnding_of_goFileName_eq hsame
    · exact heq
    · exact absurd hxy (hgains x hx y hy)
    · exact absurd hyx (hgains y hy x hx)

/-- Tables with distinct names without slashes share no file if no name is another one with the
ending. -/
theorem sharesOnlyEqualModels_of_distinct_names {config : Config} {tables : List Table}
    (hplain : ∀ t ∈ tables, '/' ∉ t.name.toList) (hnodup : (tables.map (·.name)).Nodup)
    (hgains : ∀ t ∈ tables, ∀ u ∈ tables, ¬ GainsEnding t.name u.name) (d : Disk) :
    SharesOnlyEqualModels config tables d := by
  have hfiles : ((tables.map (·.name)).map goFileName).Nodup := by
    refine nodup_map_goFileName_iff.mpr ⟨hnodup, ?_⟩
    simpa using hgains
  rw [List.map_map] at hfiles
  exact sharesOnlyEqualModels_of_plain_names hplain hfiles d

/-- The name of a source file has the ending and is its own file name, and two names share it
exactly if they are the same or one is the other with the ending that it lacks. -/
theorem goFileName_collides_by_ending (x y : String) :
    HasEnding (goFileName x) ∧ goFileName (goFileName x) = goFileName x ∧
      (goFileName x = goFileName y ↔ x = y ∨ GainsEnding x y ∨ GainsEnding y x) := by
  refine ⟨hasEnding_goFileName x, goFileName_goFileName x, eq_or_gainsEnding_of_goFileName_eq, ?_⟩
  rintro (rfl | hxy | hyx)
  · rfl
  · exact hxy.goFileName_eq
  · exact hyx.goFileName_eq.symm

/-- The ending alone is a file name, and a second ending makes another one. -/
example : GainsEnding "" ".go" ∧ ¬ GainsEnding "a.go" "a.go.go" ∧
    goFileName "a.go" ≠ goFileName "a.go.go" := by
  decide +kernel

end StructGen
