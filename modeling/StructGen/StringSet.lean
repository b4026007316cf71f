namespace StructGen

def insertAscending (s : String) : List String → List String
  | [] => [s]
  | t :: ts => if s < t then s :: t :: ts else if s = t then t :: ts else t :: insertAscending s ts

theorem mem_insertAscending {s t : String} {ts : List String} :
    t ∈ insertAscending s ts ↔ t = s ∨ t ∈ ts := by
  induction ts with
  | nil => simp [insertAscending]
  | cons u us ih =>
    rw [insertAscending]
    split
    · simp
    · split
      next h => subst h; simp
      next => simp [ih, or_left_comm]

theorem lt_of_not_lt_of_ne {s t : String} (h : ¬ s < t) (hne : s ≠ t) : t < s := by
  have hle : t ≤ s := String.not_lt.mp h
  refine Decidable.byContradiction fun hn => hne ?_
  exact String.le_antisymm (String.not_lt.mp hn) hle

theorem pairwise_insertAscending {s : String} {ts : List String}
    (h : ts.Pairwise (· < ·)) : (insertAscending s ts).Pairwise (· < ·) := by
  induction ts with
  | nil => simp [insertAscending]
  | cons u us ih =>
    have hu := List.pairwise_cons.mp h
    rw [insertAscending]
    split
    next hlt =>
      refine List.pairwise_cons.mpr ⟨fun t ht => ?_, h⟩
      rcases List.mem_cons.mp ht with rfl | ht
      · exact hlt
      · exact String.lt_trans hlt (hu.1 t ht)
    next hlt =>
      split
      next => exact h
      next hne =>
        refine List.pairwise_cons.mpr ⟨fun t ht => ?_, ih hu.2⟩
        rcases mem_insertAscending.mp ht with rfl | ht
        · exact lt_of_not_lt_of_ne hlt hne
        · exact hu.1 t ht

/-- A strictly ascending list is determined by its members. -/
theorem eq_of_ascending_of_mem_iff {ss ts : List String} (hs : ss.Pairwise (· < ·))
    (ht : ts.Pairwise (· < ·)) (h : ∀ u, u ∈ ss ↔ u ∈ ts) : ss = ts := by
  induction ss generalizing ts with
  | nil =>
    cases ts with
    | nil => rfl
    | cons t ts => simpa using h t
  | cons s ss ih =>
    cases ts with
    | nil => simpa using h s
    | cons t ts =>
      have hs' := List.pairwise_cons.mp hs
      have ht' := List.pairwise_cons.mp ht
      have hst : s = t := by
        rcases List.mem_cons.mp ((h s).mp List.mem_cons_self) with heq | hm
        · exact heq
        · rcases List.mem_cons.mp ((h t).mpr List.mem_cons_self) with heq | hm'
          · exact heq.symm
          · exact absurd (String.lt_trans (ht'.1 s hm) (hs'.1 t hm')) (String.lt_irrefl t)
      subst hst
      have hne : ∀ us : List String, (∀ u ∈ us, s < u) → s ∉ us :=
        fun us hlt hm => String.lt_irrefl s (hlt s hm)
      rw [ih hs'.2 ht'.2 fun u => ?_]
      have hu := h u
      by_cases heq : u = s
      · subst heq
        simp [hne ss hs'.1, hne ts ht'.1]
      · simpa [heq] using hu

/-- A finite set of strings, kept as its members in ascending order without repeats. -/
structure StringSet where
  toList : List String
  ascending : toList.Pairwise (· < ·)
  deriving DecidableEq

namespace StringSet

def empty : StringSet := ⟨[], .nil⟩

def insert (s : String) (set : StringSet) : StringSet :=
  ⟨insertAscending s set.toList, pairwise_insertAscending set.ascending⟩

/-- The set of the strings of a list, whatever their order and repetition: its list has them
sorted, each of them once. -/
def ofList (ss : List String) : StringSet :=
  ss.foldr insert empty

def isEmpty (set : StringSet) : Bool :=
  set.toList.isEmpty

instance : Inhabited StringSet := ⟨empty⟩

instance : Membership String StringSet := ⟨fun set s => s ∈ set.toList⟩

theorem mem_insert {s t : String} {set : StringSet} :
    t ∈ set.insert s ↔ t = s ∨ t ∈ set :=
  mem_insertAscending

theorem mem_ofList {t : String} {ss : List String} : t ∈ ofList ss ↔ t ∈ ss := by
  induction ss with
  | nil => exact ⟨fun h => (List.not_mem_nil h).elim, fun h => (List.not_mem_nil h).elim⟩
  | cons s ss ih => exact mem_insert.trans ((or_congr Iff.rfl ih).trans List.mem_cons.symm)

theorem ext_mem {a b : StringSet} (h : ∀ s, s ∈ a ↔ s ∈ b) : a = b := by
  obtain ⟨as, ha⟩ := a
  obtain ⟨bs, hb⟩ := b
  obtain rfl : as = bs := eq_of_ascending_of_mem_iff ha hb h
  rfl

/-- The set of a list forgets the order and the repetition of its strings. -/
theorem ofList_eq_ofList_iff {ss ts : List String} :
    ofList ss = ofList ts ↔ ∀ s, s ∈ ss ↔ s ∈ ts := by
  constructor
  · intro h s
    rw [← mem_ofList, h, mem_ofList]
  · exact fun h => ext_mem fun s => mem_ofList.trans ((h s).trans mem_ofList.symm)

theorem insert_comm (s t : String) (set : StringSet) :
    (set.insert s).insert t = (set.insert t).insert s :=
  ext_mem fun u => by simp only [mem_insert, or_left_comm]

@[simp] theorem ofList_toList (a : StringSet) : ofList a.toList = a :=
  ext_mem fun _ => mem_ofList

/-- However the members of a set are listed, sorting them gives the list of the set. -/
theorem mergeSort_eq_toList {set : StringSet} {ss : List String} (hnodup : ss.Nodup)
    (h : ∀ s, s ∈ ss ↔ s ∈ set) : ss.mergeSort = set.toList := by
  have hle : ss.mergeSort.Pairwise (fun s t => decide (s ≤ t) = true) :=
    List.pairwise_mergeSort (fun _ _ _ => by simpa using String.le_trans)
      (fun s t => by simpa using String.le_total s t) ss
  have hne : ss.mergeSort.Nodup := (List.mergeSort_perm ss _).nodup_iff.mpr hnodup
  refine eq_of_ascending_of_mem_iff ?_ set.ascending fun s => List.mem_mergeSort.trans (h s)
  refine (hle.and hne).imp fun ⟨hst, hne⟩ => ?_
  exact lt_of_not_lt_of_ne (String.not_lt.mpr (of_decide_eq_true hst)) hne.symm

end StringSet

end StructGen
