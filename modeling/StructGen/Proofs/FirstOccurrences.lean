import Mathlib.Data.List.Basic
import StructGen.Distinct

namespace StructGen

/-- Whether a list has the strings of another, each of them once, and in the order in which they
first occur there. -/
structure FirstOccurrences (ss us : List String) : Prop where
  nodup : us.Nodup
  mem_iff : ∀ s, s ∈ us ↔ s ∈ ss
  sublist : us.Sublist ss
  ordered : ∀ s ∈ us, ∀ t ∈ us, us.idxOf s < us.idxOf t ↔ ss.idxOf s < ss.idxOf t

/-- What was seen before only leaves strings out of the result. -/
theorem distinctFrom_eq_filter (seen ss : List String) :
    distinctFrom seen ss = (distinct ss).filter (· ∉ seen) := by
  induction ss generalizing seen with
  | nil => rfl
  | cons s ss ih =>
    have hfirst : distinct (s :: ss) = s :: (distinct ss).filter (· ∉ [s]) := by
      rw [distinct, distinctFrom, if_neg List.not_mem_nil, ih]
    by_cases h : s ∈ seen
    · rw [distinctFrom, if_pos h, ih, hfirst, List.filter_cons_of_neg (by simpa using h),
        List.filter_filter]
      refine List.filter_congr fun t _ => ?_
      have hother : t ∉ seen → t ≠ s := fun hn heq => hn (heq ▸ h)
      simpa using hother
    · rw [distinctFrom, if_neg h, ih, hfirst, List.filter_cons_of_pos (by simpa using h),
        List.filter_filter]
      simp [Bool.and_comm]

theorem distinct_cons (s : String) (ss : List String) :
    distinct (s :: ss) = s :: (distinct ss).filter (· ≠ s) := by
  rw [distinct, distinctFrom, if_neg List.not_mem_nil, distinctFrom_eq_filter]
  simp

theorem distinct_append (ss ts : List String) :
    distinct (ss ++ ts) = distinct ss ++ (distinct ts).filter (· ∉ ss) := by
  induction ss with
  | nil => simp [distinct, distinctFrom]
  | cons s ss ih =>
    rw [List.cons_append, distinct_cons, distinct_cons, ih, List.filter_append, List.filter_filter,
      List.cons_append]
    simp

theorem nodup_distinct (ss : List String) : (distinct ss).Nodup := by
  induction ss with
  | nil => exact .nil
  | cons s ss ih =>
    rw [distinct_cons]
    exact List.nodup_cons.mpr ⟨by simp, ih.filter _⟩

theorem distinct_sublist (ss : List String) : (distinct ss).Sublist ss := by
  induction ss with
  | nil => exact .slnil
  | cons s ss ih =>
    rw [distinct_cons]
    exact (List.filter_sublist.trans ih).cons_cons s

theorem pairwise_idxOf_distinct (ss : List String) :
    (distinct ss).Pairwise fun s t => ss.idxOf s < ss.idxOf t := by
  induction ss with
  | nil => exact .nil
  | cons s ss ih =>
    have hlater : ∀ {t}, t ∈ (distinct ss).filter (· ≠ s) →
        (s :: ss).idxOf t = ss.idxOf t + 1 := by
      intro t ht
      have hne : t ≠ s := by simpa using (List.mem_filter.mp ht).2
      exact List.idxOf_cons_ne ss hne.symm
    rw [distinct_cons, List.pairwise_cons]
    constructor
    · intro t ht
      rw [List.idxOf_cons_self, hlater ht]
      omega
    · refine (ih.filter _).imp_of_mem fun ht hu hlt => ?_
      rw [hlater ht, hlater hu]
      omega

/-- In a list that ascends by a measure, what comes first has the smaller measure. -/
theorem idxOf_lt_idxOf_iff {measure : String → Nat} {us : List String}
    (h : us.Pairwise fun s t => measure s < measure t) {s t : String} (hs : s ∈ us) (ht : t ∈ us) :
    us.idxOf s < us.idxOf t ↔ measure s < measure t := by
  have hforward : ∀ {s t : String}, s ∈ us → t ∈ us → us.idxOf s < us.idxOf t →
      measure s < measure t := by
    intro s t hs ht hlt
    have hplaces := List.pairwise_iff_getElem.mp h _ _ (List.idxOf_lt_length_of_mem hs)
      (List.idxOf_lt_length_of_mem ht) hlt
    rwa [List.getElem_idxOf, List.getElem_idxOf] at hplaces
  refine ⟨hforward hs ht, fun hlt => ?_⟩
  rcases Nat.lt_trichotomy (us.idxOf s) (us.idxOf t) with hbefore | hsame | hafter
  · exact hbefore
  · rw [(List.idxOf_inj hs).mp hsame] at hlt
    exact absurd hlt (Nat.lt_irrefl _)
  · exact absurd (hforward ht hs hafter) (Nat.lt_asymm hlt)

theorem firstOccurrences_distinct (ss : List String) : FirstOccurrences ss (distinct ss) where
  nodup := nodup_distinct ss
  mem_iff _ := mem_distinct
  sublist := distinct_sublist ss
  ordered _ hs _ ht := idxOf_lt_idxOf_iff (pairwise_idxOf_distinct ss) hs ht

theorem FirstOccurrences.pairwise_idxOf {ss us : List String} (h : FirstOccurrences ss us) :
    us.Pairwise fun s t => ss.idxOf s < ss.idxOf t := by
  rw [List.pairwise_iff_getElem]
  intro i j hi hj hlt
  rw [← h.ordered _ (List.getElem_mem hi) _ (List.getElem_mem hj), h.nodup.idxOf_getElem,
    h.nodup.idxOf_getElem]
  exact hlt

/-- There is one list of first occurrences. -/
theorem firstOccurrences_iff {ss us : List String} :
    FirstOccurrences ss us ↔ us = distinct ss := by
  constructor
  · intro h
    have hperm : us.Perm (distinct ss) := by
      rw [List.perm_ext_iff_of_nodup h.nodup (nodup_distinct ss)]
      intro s
      rw [h.mem_iff, mem_distinct]
    exact hperm.eq_of_pairwise (fun _ _ _ _ hst hts => absurd hts (Nat.lt_asymm hst))
      h.pairwise_idxOf (pairwise_idxOf_distinct ss)
  · rintro rfl
    exact firstOccurrences_distinct ss

theorem firstOccurrences_self {us : List String} (h : us.Nodup) : FirstOccurrences us us :=
  ⟨h, fun _ => .rfl, .refl us, fun _ _ _ _ => .rfl⟩

theorem distinct_eq_self {us : List String} (h : us.Nodup) : distinct us = us :=
  (firstOccurrences_iff.mp (firstOccurrences_self h)).symm

/-- Removing repeats keeps the first occurrence of each string, changes nothing when done again,
and of a list that is added behind keeps what is new. -/
theorem distinct_keeps_first_occurrences (ss ts : List String) :
    FirstOccurrences ss (distinct ss) ∧ distinct (distinct ss) = distinct ss ∧
      distinct (ss ++ ts) = distinct ss ++ (distinct ts).filter (· ∉ ss) :=
  ⟨firstOccurrences_distinct ss, distinct_eq_self (nodup_distinct ss), distinct_append ss ts⟩

example : distinct ["b", "a", "b", "c", "a"] = ["b", "a", "c"] := by decide

end StructGen
