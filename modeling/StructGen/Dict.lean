import StructGen.StringSet

namespace StructGen

/-- Sets the value of a key in a list with ascending keys. -/
def setEntry {α : Type u} (key : String) (value : α) : List (String × α) → List (String × α)
  | [] => [(key, value)]
  | e :: es =>
    if key < e.1 then (key, value) :: e :: es
    else if key = e.1 then (key, value) :: es
    else e :: setEntry key value es

theorem mem_keys_setEntry {α : Type u} {key : String} {value : α} {es : List (String × α)}
    {e : String × α} (h : e ∈ setEntry key value es) : e.1 = key ∨ e ∈ es := by
  induction es with
  | nil => simp_all [setEntry]
  | cons d ds ih =>
    rw [setEntry] at h
    split at h
    · rcases List.mem_cons.mp h with rfl | h
      · exact Or.inl rfl
      · exact Or.inr h
    · split at h
      · rcases List.mem_cons.mp h with rfl | h
        · exact Or.inl rfl
        · exact Or.inr (List.mem_cons_of_mem _ h)
      · rcases List.mem_cons.mp h with rfl | h
        · exact Or.inr List.mem_cons_self
        · exact (ih h).imp_right (List.mem_cons_of_mem _)

theorem pairwise_setEntry {α : Type u} {key : String} {value : α} {es : List (String × α)}
    (h : es.Pairwise (·.1 < ·.1)) : (setEntry key value es).Pairwise (·.1 < ·.1) := by
  induction es with
  | nil => simp [setEntry]
  | cons d ds ih =>
    have hd := List.pairwise_cons.mp h
    rw [setEntry]
    split
    next hlt =>
      refine List.pairwise_cons.mpr ⟨fun e he => ?_, h⟩
      rcases List.mem_cons.mp he with rfl | he
      · exact hlt
      · exact String.lt_trans hlt (hd.1 e he)
    next hlt =>
      split
      next heq => exact List.pairwise_cons.mpr ⟨fun e he => heq ▸ hd.1 e he, hd.2⟩
      next hne =>
        refine List.pairwise_cons.mpr ⟨fun e he => ?_, ih hd.2⟩
        rcases mem_keys_setEntry he with he | he
        · exact he ▸ lt_of_not_lt_of_ne hlt hne
        · exact hd.1 e he

/-- A finite map from strings, kept as its entries with ascending keys. -/
structure Dict (α : Type u) where
  entries : List (String × α)
  ascending : entries.Pairwise (·.1 < ·.1)
  deriving DecidableEq

namespace Dict

variable {α : Type u}

def empty : Dict α := ⟨[], .nil⟩

def insert (key : String) (value : α) (d : Dict α) : Dict α :=
  ⟨setEntry key value d.entries, pairwise_setEntry d.ascending⟩

def get? (d : Dict α) (key : String) : Option α :=
  d.entries.lookup key

def contains (d : Dict α) (key : String) : Bool :=
  (d.get? key).isSome

def keys (d : Dict α) : List String :=
  d.entries.map (·.1)

def isEmpty (d : Dict α) : Bool :=
  d.entries.isEmpty

instance : Inhabited (Dict α) := ⟨empty⟩

@[simp] theorem get?_empty (key : String) : (empty : Dict α).get? key = none := rfl

theorem keys_ascending (d : Dict α) : d.keys.Pairwise (· < ·) :=
  List.pairwise_map.mpr d.ascending

theorem lookup_setEntry (key other : String) (value : α) (es : List (String × α)) :
    (setEntry key value es).lookup other =
      if other = key then some value else es.lookup other := by
  induction es with
  | nil =>
    by_cases h : other = key
    · simp [setEntry, h]
    · simp [setEntry, List.lookup_cons, h, beq_eq_false_iff_ne.mpr h]
  | cons e es ih =>
    obtain ⟨k, v⟩ := e
    rw [setEntry]
    by_cases h : other = key
    · subst h
      split
      · simp
      · split
        next => simp
        next hne => simp [List.lookup_cons, beq_eq_false_iff_ne.mpr hne, ih]
    · split
      · simp [List.lookup_cons, beq_eq_false_iff_ne.mpr h]
      · split
        next heq =>
          have hk : other ≠ k := fun hk => h (hk.trans heq.symm)
          simp [List.lookup_cons, beq_eq_false_iff_ne.mpr h, beq_eq_false_iff_ne.mpr hk]
        next => simp [List.lookup_cons, h, ih]

/-- An insertion is seen at its own key and nowhere else. -/
theorem get?_insert (d : Dict α) (key other : String) (value : α) :
    (d.insert key value).get? other = if other = key then some value else d.get? other :=
  lookup_setEntry key other value d.entries

theorem mem_keys_iff {d : Dict α} {key : String} : key ∈ d.keys ↔ (d.get? key).isSome := by
  obtain ⟨es, h⟩ := d
  simp only [keys, get?]
  clear h
  induction es with
  | nil => simp
  | cons e es ih =>
    obtain ⟨k, v⟩ := e
    by_cases hk : key = k
    · simp [hk]
    · simp only [List.map_cons, List.mem_cons, hk, false_or, List.lookup_cons,
        beq_eq_false_iff_ne.mpr hk]
      exact ih

theorem lookup_eq_some_iff {es : List (String × α)} (h : es.Pairwise (·.1 < ·.1)) {key : String}
    {value : α} : es.lookup key = some value ↔ (key, value) ∈ es := by
  induction es with
  | nil => simp
  | cons e es ih =>
    obtain ⟨k, v⟩ := e
    have he := List.pairwise_cons.mp h
    by_cases hk : key = k
    · subst hk
      have hfresh : (key, value) ∉ es := fun hm => String.lt_irrefl key (he.1 _ hm)
      simp [hfresh, eq_comm]
    · simp only [List.lookup_cons, beq_eq_false_iff_ne.mpr hk, List.mem_cons, Prod.mk.injEq, hk,
        false_and, false_or]
      exact ih he.2

theorem ext_get? {d e : Dict α} (h : ∀ key, d.get? key = e.get? key) : d = e := by
  obtain ⟨ds, hd⟩ := d
  obtain ⟨es, he⟩ := e
  have hnodup : ∀ {xs : List (String × α)}, xs.Pairwise (·.1 < ·.1) → xs.Nodup := by
    intro xs hx
    refine hx.imp fun {a b} hlt => ?_
    rintro rfl
    exact String.lt_irrefl a.1 hlt
  have hperm : ds.Perm es := by
    rw [List.perm_ext_iff_of_nodup (hnodup hd) (hnodup he)]
    rintro ⟨key, value⟩
    rw [← lookup_eq_some_iff hd, ← lookup_eq_some_iff he]
    exact iff_of_eq (congrArg (· = some value) (h key))
  obtain rfl : ds = es := hperm.eq_of_pairwise
    (fun a b _ _ hab hba => absurd (String.lt_trans hab hba) (String.lt_irrefl _)) hd he
  rfl

theorem insert_comm {key other : String} (h : key ≠ other) (value value' : α) (d : Dict α) :
    (d.insert key value).insert other value' = (d.insert other value').insert key value := by
  apply ext_get?
  intro k
  rw [get?_insert, get?_insert, get?_insert, get?_insert]
  split
  next hk => rw [if_neg fun hk' => h (hk'.symm.trans hk)]
  next => rfl

theorem get?_foldl_insert {es : List (String × α)} (h : es.Pairwise (·.1 < ·.1))
    (d : Dict α) (key : String) :
    (es.foldl (fun d e => d.insert e.1 e.2) d).get? key = (es.lookup key).or (d.get? key) := by
  induction es generalizing d with
  | nil => rfl
  | cons e es ih =>
    obtain ⟨hfirst, hrest⟩ := List.pairwise_cons.mp h
    rw [List.foldl_cons, ih hrest, get?_insert, List.lookup_cons]
    by_cases hk : key = e.1
    · have hnone : es.lookup e.1 = none := by
        cases hl : es.lookup e.1 with
        | none => rfl
        | some value =>
          have hlt := hfirst _ ((lookup_eq_some_iff hrest).mp hl)
          exact absurd hlt (String.lt_irrefl _)
      simp [hk, hnone]
    · simp [hk, beq_eq_false_iff_ne.mpr hk]

/-- A dictionary is made of its entries. -/
theorem foldl_insert_entries (d : Dict α) :
    d.entries.foldl (fun d e => d.insert e.1 e.2) .empty = d := by
  refine ext_get? fun key => ?_
  rw [get?_foldl_insert d.ascending, get?_empty, Option.or_none]
  rfl

end Dict

end StructGen
