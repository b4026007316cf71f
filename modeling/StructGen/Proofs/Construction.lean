import Mathlib.Data.List.Induction
import StructGen.Builder
import StructGen.Proofs.Registration
import StructGen.Tag

namespace StructGen

theorem Column.indexes_set (column : Column) (setting : ColumnSetting) :
    (column.set setting).indexes = column.indexes := by
  cases setting <;> rfl

/-- A new column is in no index, whatever is set on it. -/
theorem NewColumn.indexes_column (new : NewColumn) : new.column.indexes = .empty := by
  have hkept : ∀ (settings : List ColumnSetting) (column : Column),
      (settings.foldl Column.set column).indexes = column.indexes := by
    intro settings
    induction settings with
    | nil => intro column; rfl
    | cons setting settings ih =>
      intro column
      rw [List.foldl_cons, ih, Column.indexes_set]
  exact hkept new.settings _

/-- The indexes that some steps register, in their order. -/
def registered : List TableStep → List Index
  | [] => []
  | .column _ :: steps => registered steps
  | .index index :: steps => index :: registered steps

/-- A column that is added to a table, with the indexes that are registered after it. -/
structure Addition where
  column : Column
  later : List Index

def additions : List TableStep → List Addition
  | [] => []
  | .column new :: steps => ⟨new.column, registered steps⟩ :: additions steps
  | .index _ :: steps => additions steps

/-- The last of some indexes that has a name. -/
def latest? (name : String) (indexes : List Index) : Option Index :=
  (indexes.filter (·.name = name)).getLast?

namespace Addition

/-- The names of the later indexes that are over the column. -/
def memberships (added : Addition) : List String :=
  (added.later.filter (added.column.name ∈ ·.columns)).map (·.name)

/-- The column as it was added, but for the indexes that it is in. -/
def linked (added : Addition) : Column :=
  { added.column with indexes := .ofList added.memberships }

def followedBy (added : Addition) (index : Index) : Addition :=
  { added with later := added.later ++ [index] }

theorem mem_indexes_linked {added : Addition} {name : String} :
    name ∈ added.linked.indexes ↔
      ∃ index ∈ added.later, index.name = name ∧ added.column.name ∈ index.columns := by
  show name ∈ StringSet.ofList added.memberships ↔ _
  rw [StringSet.mem_ofList]
  simp only [memberships, List.mem_map, List.mem_filter, decide_eq_true_eq]
  constructor
  · rintro ⟨index, ⟨hlater, hover⟩, hname⟩
    exact ⟨index, hlater, hname, hover⟩
  · rintro ⟨index, hlater, hname, hover⟩
    exact ⟨index, ⟨hlater, hover⟩, hname⟩

theorem linked_of_later_eq_nil {column : Column} (h : column.indexes = .empty) :
    (Addition.mk column []).linked = column := by
  show { column with indexes := StringSet.empty } = column
  rw [← h]

theorem memberships_followedBy (added : Addition) (index : Index) :
    (added.followedBy index).memberships =
      added.memberships ++ if added.column.name ∈ index.columns then [index.name] else [] := by
  show ((added.later ++ [index]).filter (added.column.name ∈ ·.columns)).map (·.name) = _
  rw [List.filter_append, List.map_append]
  by_cases hover : added.column.name ∈ index.columns
  · simp [memberships, hover]
  · simp [memberships, hover]

theorem linked_followedBy (added : Addition) (index : Index) :
    (added.followedBy index).linked = added.linked.link index := by
  have hname : added.linked.name = added.column.name := rfl
  rw [Column.link, hname, linked, memberships_followedBy]
  split
  next hover =>
    have hset : StringSet.ofList (added.memberships ++ [index.name]) =
        (StringSet.ofList added.memberships).insert index.name := by
      apply StringSet.ext_mem
      intro name
      rw [StringSet.mem_insert, StringSet.mem_ofList, StringSet.mem_ofList, List.mem_append,
        List.mem_singleton, or_comm]
    rw [hset]
    rfl
  next hover =>
    rw [List.append_nil]
    rfl

end Addition

theorem registered_append (steps steps' : List TableStep) :
    registered (steps ++ steps') = registered steps ++ registered steps' := by
  induction steps with
  | nil => rfl
  | cons step steps ih => cases step <;> simp [registered, ih]

theorem registered_append_column (steps : List TableStep) (new : NewColumn) :
    registered (steps ++ [.column new]) = registered steps := by
  rw [registered_append]
  exact List.append_nil _

theorem registered_append_index (steps : List TableStep) (index : Index) :
    registered (steps ++ [.index index]) = registered steps ++ [index] :=
  registered_append steps [.index index]

theorem additions_append_column (steps : List TableStep) (new : NewColumn) :
    additions (steps ++ [.column new]) = additions steps ++ [⟨new.column, []⟩] := by
  induction steps with
  | nil => rfl
  | cons step steps ih =>
    cases step with
    | column _ => simp [additions, ih, registered_append_column]
    | index _ => simp [additions, ih]

theorem additions_append_index (steps : List TableStep) (index : Index) :
    additions (steps ++ [.index index]) = (additions steps).map (·.followedBy index) := by
  induction steps with
  | nil => rfl
  | cons step steps ih =>
    cases step with
    | column _ => simp [additions, ih, registered_append_index, Addition.followedBy]
    | index _ => simp [additions, ih]

theorem later_suffix_registered {steps : List TableStep} {added : Addition}
    (h : added ∈ additions steps) : added.later <:+ registered steps := by
  induction steps with
  | nil => exact (List.not_mem_nil h).elim
  | cons step steps ih =>
    cases step with
    | column new =>
      rcases List.mem_cons.mp h with rfl | hrest
      · exact List.suffix_rfl
      · exact ih hrest
    | index index => exact (ih h).trans (List.suffix_cons index _)

theorem latest?_append (name : String) (indexes indexes' : List Index) :
    latest? name (indexes ++ indexes') = (latest? name indexes').or (latest? name indexes) := by
  rw [latest?, List.filter_append, List.getLast?_append]
  rfl

theorem latest?_append_singleton (name : String) (indexes : List Index) (index : Index) :
    latest? name (indexes ++ [index]) =
      if name = index.name then some index else latest? name indexes := by
  rw [latest?_append]
  by_cases h : name = index.name
  · simp [latest?, h]
  · have hne : ¬ index.name = name := fun heq => h heq.symm
    simp [latest?, h, hne]

theorem name_of_latest?_eq_some {name : String} {indexes : List Index} {index : Index}
    (h : latest? name indexes = some index) : index.name = name := by
  have hmem : index ∈ indexes.filter (·.name = name) := List.mem_of_getLast? h
  exact of_decide_eq_true (List.mem_filter.mp hmem).2

theorem exists_latest?_eq_some {indexes : List Index} {index : Index} (h : index ∈ indexes) :
    ∃ last, latest? index.name indexes = some last := by
  have hmem : index ∈ indexes.filter (·.name = index.name) :=
    List.mem_filter.mpr ⟨h, decide_eq_true rfl⟩
  have hne : indexes.filter (·.name = index.name) ≠ [] := List.ne_nil_of_mem hmem
  exact ⟨_, List.getLast?_eq_some_getLast hne⟩

/-- What a table is after some steps from an empty one. -/
structure MadeBy (name : String) (steps : List TableStep) (table : Table) : Prop where
  name : table.name = name
  comment : table.comment = ""
  columns : table.columns = (additions steps).map (·.linked)
  indexes : ∀ key, table.indexes.get? key = latest? key (registered steps)

namespace MadeBy

variable {name : String} {steps : List TableStep} {table : Table}

theorem nil (name : String) : MadeBy name [] { name } where
  name := rfl
  comment := rfl
  columns := rfl
  indexes _ := rfl

theorem extend_column (h : MadeBy name steps table) (new : NewColumn) :
    MadeBy name (steps ++ [.column new]) (table.extend (.column new)) where
  name := h.name
  comment := h.comment
  columns := by
    have hlast : (Addition.mk new.column []).linked = new.column :=
      Addition.linked_of_later_eq_nil new.indexes_column
    show table.columns ++ [new.column] = _
    rw [additions_append_column, List.map_append, List.map_singleton, hlast, h.columns]
  indexes key := by
    rw [registered_append_column]
    exact h.indexes key

theorem extend_index (h : MadeBy name steps table) (index : Index) :
    MadeBy name (steps ++ [.index index]) (table.extend (.index index)) where
  name := h.name
  comment := h.comment
  columns := by
    show (table.addIndex index).columns = _
    rw [Table.addIndex, additions_append_index, List.map_map]
    simp only [Function.comp_def, Addition.linked_followedBy]
    rw [h.columns, List.map_map]
    rfl
  indexes key := by
    show (table.indexes.insert index.name index).get? key = _
    rw [registered_append_index, latest?_append_singleton, Dict.get?_insert, h.indexes]

theorem extend (h : MadeBy name steps table) (step : TableStep) :
    MadeBy name (steps ++ [step]) (table.extend step) := by
  cases step with
  | column new => exact h.extend_column new
  | index index => exact h.extend_index index

end MadeBy

theorem madeBy_construct (name : String) (steps : List TableStep) :
    MadeBy name steps (.construct name steps) := by
  -- From the right, as a step acts on the table that all steps before it have made.
  induction steps using List.reverseRecOn with
  | nil => exact .nil name
  | append_singleton steps step ih =>
    rw [Table.construct, List.foldl_append]
    exact ih.extend step

theorem unknownIndexes_eq_nil_iff {table : Table} {column : Column} :
    unknownIndexes table column = [] ↔
      ∀ key ∈ column.indexes, ∃ index, table.indexes.get? key = some index := by
  rw [unknownIndexes, List.filter_eq_nil_iff]
  refine forall₂_congr fun key _ => ?_
  rw [Dict.contains, Bool.not_eq_true', Bool.not_eq_false, Option.isSome_iff_exists]

/-- A table that some steps made, with indexes under their own names; none of its columns is in
an index that it does not have. -/
structure LinksExactly (name : String) (steps : List TableStep) (table : Table) : Prop
    extends MadeBy name steps table where
  ownNames : ∀ key index, table.indexes.get? key = some index → index.name = key
  resolved : ∀ column ∈ table.columns, ∀ key ∈ column.indexes,
    ∃ index, table.indexes.get? key = some index
  unwarned : ∀ column ∈ table.columns, unknownIndexes table column = []

theorem MadeBy.resolved {name : String} {steps : List TableStep} {table : Table}
    (h : MadeBy name steps table) {column : Column} (hcolumn : column ∈ table.columns)
    {key : String} (hkey : key ∈ column.indexes) :
    ∃ index, table.indexes.get? key = some index := by
  rw [h.columns] at hcolumn
  obtain ⟨added, hadded, rfl⟩ := List.mem_map.mp hcolumn
  obtain ⟨index, hlater, rfl, _⟩ := Addition.mem_indexes_linked.mp hkey
  have hregistered : index ∈ registered steps := (later_suffix_registered hadded).subset hlater
  rw [h.indexes]
  exact exists_latest?_eq_some hregistered

/-- Building a table links its columns to the indexes that name them, and to nothing else. -/
theorem linksExactly_construct (name : String) (steps : List TableStep) :
    LinksExactly name steps (.construct name steps) := by
  have hmade := madeBy_construct name steps
  have hresolved : ∀ column ∈ (Table.construct name steps).columns, ∀ key ∈ column.indexes,
      ∃ index, (Table.construct name steps).indexes.get? key = some index :=
    fun _ hcolumn _ hkey => hmade.resolved hcolumn hkey
  refine { hmade with
    ownNames := fun key index hkey => ?_
    resolved := hresolved
    unwarned := fun column hcolumn => unknownIndexes_eq_nil_iff.mpr (hresolved column hcolumn) }
  rw [hmade.indexes] at hkey
  exact name_of_latest?_eq_some hkey

end StructGen
