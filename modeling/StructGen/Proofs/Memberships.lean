import StructGen.Proofs.Construction
import StructGen.Proofs.TagTexts

namespace StructGen

/-- Whether each index that a column of a table is in is over that column. -/
def MembershipsReal (table : Table) : Prop :=
  ∀ column ∈ table.columns, ∀ key ∈ column.indexes,
    ∃ index, table.indexes.get? key = some index ∧ column.name ∈ index.columns

/-- Whether the tags of a table mark columns with indexes over them only. -/
def MarksReal (table : Table) : Prop :=
  ∀ column ∈ table.columns, ∀ index ∈ resolvedIndexes table column, column.name ∈ index.columns

/-- Whether of the indexes that are registered after a column, the last of each name is over the
column if any of that name is. -/
def Addition.Kept (added : Addition) : Prop :=
  ∀ index ∈ added.later, added.column.name ∈ index.columns →
    ∀ last, latest? index.name added.later = some last → added.column.name ∈ last.columns

theorem mem_resolvedIndexes_iff {table : Table} {column : Column} {index : Index} :
    index ∈ resolvedIndexes table column ↔
      ∃ key ∈ column.indexes, table.indexes.get? key = some index :=
  List.mem_filterMap

/-- Where every name of an index is known, tags mark what the columns are in. -/
theorem marksReal_iff_membershipsReal {table : Table}
    (h : ∀ column ∈ table.columns, ∀ key ∈ column.indexes,
      ∃ index, table.indexes.get? key = some index) :
    MarksReal table ↔ MembershipsReal table := by
  constructor
  · intro hmarks column hcolumn key hkey
    obtain ⟨index, hindex⟩ := h column hcolumn key hkey
    exact ⟨index, hindex, hmarks column hcolumn index (mem_resolvedIndexes_iff.mpr ⟨key, hkey, hindex⟩)⟩
  · intro hreal column hcolumn index hresolved
    obtain ⟨key, hkey, hindex⟩ := mem_resolvedIndexes_iff.mp hresolved
    obtain ⟨index', hindex', hover⟩ := hreal column hcolumn key hkey
    rw [hindex] at hindex'
    cases hindex'
    exact hover

/-- The index that a table has under the name of one registered after a column is the last of
that name that was registered after the column. -/
theorem latest?_registered {steps : List TableStep} {added : Addition} (h : added ∈ additions steps)
    {index : Index} (hlater : index ∈ added.later) :
    latest? index.name (registered steps) = latest? index.name added.later := by
  obtain ⟨earlier, hsplit⟩ := later_suffix_registered h
  obtain ⟨last, hlast⟩ := exists_latest?_eq_some hlater
  rw [← hsplit, latest?_append, hlast]
  rfl

theorem MadeBy.membershipsReal_iff {name : String} {steps : List TableStep} {table : Table}
    (h : MadeBy name steps table) :
    MembershipsReal table ↔ ∀ added ∈ additions steps, added.Kept := by
  rw [MembershipsReal, h.columns]
  simp only [List.forall_mem_map, h.indexes]
  refine forall₂_congr fun added hadded => ?_
  constructor
  · intro hreal index hlater hover last hlast
    have hmember : index.name ∈ added.linked.indexes :=
      Addition.mem_indexes_linked.mpr ⟨index, hlater, rfl, hover⟩
    obtain ⟨stored, hstored, hlists⟩ := hreal index.name hmember
    rw [latest?_registered hadded hlater, hlast] at hstored
    cases hstored
    exact hlists
  · intro hkept key hkey
    obtain ⟨index, hlater, rfl, hover⟩ := Addition.mem_indexes_linked.mp hkey
    obtain ⟨last, hlast⟩ := exists_latest?_eq_some hlater
    refine ⟨last, ?_, hkept index hlater hover last hlast⟩
    rw [latest?_registered hadded hlater, hlast]

/-- The memberships of a built table are real exactly when no column is left out of an index that
takes the place of one over it; then the tags are right too. -/
theorem membershipsReal_construct_iff (name : String) (steps : List TableStep) :
    (MembershipsReal (.construct name steps) ↔ ∀ added ∈ additions steps, added.Kept) ∧
      (MarksReal (.construct name steps) ↔ ∀ added ∈ additions steps, added.Kept) := by
  have hmade := madeBy_construct name steps
  have hmarks : MarksReal (.construct name steps) ↔ MembershipsReal (.construct name steps) :=
    marksReal_iff_membershipsReal fun _ hcolumn _ hkey => hmade.resolved hcolumn hkey
  exact ⟨hmade.membershipsReal_iff, hmarks.trans hmade.membershipsReal_iff⟩

/-- Where each name is registered once, the memberships are real. -/
theorem membershipsReal_of_distinct_names {name : String} {steps : List TableStep}
    (h : ((registered steps).map (·.name)).Nodup) : MembershipsReal (.construct name steps) := by
  rw [(madeBy_construct name steps).membershipsReal_iff]
  intro added hadded index hlater hover last hlast
  have hsuffix := later_suffix_registered hadded
  have hfiltered : last ∈ added.later.filter (·.name = index.name) := List.mem_of_getLast? hlast
  have hlast' : last ∈ registered steps := hsuffix.subset (List.mem_filter.mp hfiltered).1
  have hsame : last = index := List.inj_on_of_nodup_map h hlast' (hsuffix.subset hlater)
    (name_of_latest?_eq_some hlast)
  rw [hsame]
  exact hover

/-- A column stays in an index that is registered again without it. -/
theorem not_membershipsReal_of_registered_again :
    let column (name : String) : TableStep := .column { name, sqlType := { name := "INT" } }
    let index (column : String) : TableStep := .index { name := "i", columns := [column] }
    let table := Table.construct "t" [column "a", column "b", index "a", index "b"]
    ¬ MembershipsReal table ∧ ¬ MarksReal table := by
  intro column index table
  let a : Column := { name := "a", sqlType := { name := "INT" }, indexes := .ofList ["i"] }
  let last : Index := { name := "i", columns := ["b"] }
  have hcolumn : a ∈ table.columns := by decide
  have hget : table.indexes.get? "i" = some last := by decide
  have hresolved : last ∈ resolvedIndexes table a := by decide
  have hover : a.name ∉ last.columns := by decide
  refine ⟨fun hreal => ?_, fun hmarks => hover (hmarks a hcolumn last hresolved)⟩
  obtain ⟨stored, hstored, hlists⟩ := hreal a hcolumn "i" (StringSet.mem_ofList.mpr (by decide))
  rw [hget] at hstored
  cases hstored
  exact hover hlists

end StructGen
