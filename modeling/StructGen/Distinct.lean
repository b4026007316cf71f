namespace StructGen

/-- The strings of a list that do not occur among those seen, each at its first place only. -/
def distinctFrom (seen : List String) : List String → List String
  | [] => []
  | s :: ss =>
    if s ∈ seen then distinctFrom seen ss else s :: distinctFrom (s :: seen) ss

def distinct (ss : List String) : List String :=
  distinctFrom [] ss

theorem mem_distinctFrom {t : String} {seen ss : List String} :
    t ∈ distinctFrom seen ss ↔ t ∈ ss ∧ t ∉ seen := by
  induction ss generalizing seen with
  | nil => simp [distinctFrom]
  | cons s ss ih =>
    rw [distinctFrom]
    split
    next h =>
      rw [ih]
      constructor
      · exact fun ⟨hm, hn⟩ => ⟨List.mem_cons_of_mem _ hm, hn⟩
      · rintro ⟨hm, hn⟩
        rcases List.mem_cons.mp hm with rfl | hm
        · exact absurd h hn
        · exact ⟨hm, hn⟩
    next h =>
      rw [List.mem_cons, ih, List.mem_cons]
      by_cases hs : t = s
      · simp [hs, h]
      · simp [hs]

theorem mem_distinct {t : String} {ss : List String} : t ∈ distinct ss ↔ t ∈ ss := by
  simp [distinct, mem_distinctFrom]

end StructGen
