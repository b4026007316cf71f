import Mathlib.Data.List.Nodup
import StructGen.Schema

namespace StructGen

theorem Column.link_comm (column : Column) (index index' : Index) :
    (column.link index).link index' = (column.link index').link index := by
  by_cases h : column.name ∈ index.columns
  · by_cases h' : column.name ∈ index'.columns
    · simp only [Column.link, h, h', if_true]
      rw [StringSet.insert_comm]
    · simp only [Column.link, h, h', if_true, if_false]
  · by_cases h' : column.name ∈ index'.columns
    · simp only [Column.link, h, h', if_true, if_false]
    · simp only [Column.link, h, h', if_false]

theorem Table.addIndex_comm {index index' : Index} (h : index.name ≠ index'.name) (table : Table) :
    (table.addIndex index).addIndex index' = (table.addIndex index').addIndex index := by
  have hcolumns : (table.columns.map (·.link index)).map (·.link index') =
      (table.columns.map (·.link index')).map (·.link index) := by
    simp only [List.map_map, Function.comp_def, Column.link_comm]
  simp only [Table.addIndex, hcolumns, Dict.insert_comm h]

/-- Indexes of different names may be registered in any order. -/
theorem Table.foldl_addIndex_eq_of_perm {is is' : List Index} (h : is.Perm is')
    (hnames : (is.map (·.name)).Nodup) (table : Table) :
    is.foldl Table.addIndex table = is'.foldl Table.addIndex table := by
  apply h.foldl_eq'
  intro index hi index' hi' table
  by_cases heq : index.name = index'.name
  · obtain rfl : index = index' := List.inj_on_of_nodup_map hnames hi hi' heq
    rfl
  · exact Table.addIndex_comm heq table

theorem map_eq_of_forall₂ {α β γ : Type} {R : α → β → Prop} {f : α → γ} {g : β → γ}
    (hfg : ∀ x y, R x y → f x = g y) {xs : List α} {ys : List β} (h : List.Forall₂ R xs ys) :
    xs.map f = ys.map g := by
  induction h with
  | nil => rfl
  | cons hxy _ ih => rw [List.map_cons, List.map_cons, hfg _ _ hxy, ih]

/-- A column as a program builds it: what is set one by one, and the texts of its sets. -/
structure ColumnListing where
  column : Column
  enumOptions : List String
  setOptions : List String
  indexes : List String

/-- A table as a program builds it: its columns, and the indexes that are registered after them. -/
structure TableListing where
  name : String
  comment : String
  columns : List ColumnListing
  indexes : List Index

namespace ColumnListing

def build (l : ColumnListing) : Column :=
  { l.column with
    enumOptions := .ofList l.enumOptions
    setOptions := .ofList l.setOptions
    indexes := .ofList l.indexes }

structure Relisted (l l' : ColumnListing) : Prop where
  column : l.column = l'.column
  enumOptions : ∀ s, s ∈ l.enumOptions ↔ s ∈ l'.enumOptions
  setOptions : ∀ s, s ∈ l.setOptions ↔ s ∈ l'.setOptions
  indexes : ∀ s, s ∈ l.indexes ↔ s ∈ l'.indexes

theorem Relisted.build_eq {l l' : ColumnListing} (h : l.Relisted l') : l.build = l'.build := by
  unfold build
  rw [h.column, StringSet.ofList_eq_ofList_iff.mpr h.enumOptions,
    StringSet.ofList_eq_ofList_iff.mpr h.setOptions, StringSet.ofList_eq_ofList_iff.mpr h.indexes]

end ColumnListing

namespace TableListing

def build (l : TableListing) : Table :=
  let bare : Table := { name := l.name, comment := l.comment }
  l.indexes.foldl Table.addIndex ((l.columns.map (·.build)).foldl Table.addColumn bare)

structure Relisted (l l' : TableListing) : Prop where
  name : l.name = l'.name
  comment : l.comment = l'.comment
  columns : List.Forall₂ ColumnListing.Relisted l.columns l'.columns
  indexes : l.indexes.Perm l'.indexes
  names : (l.indexes.map (·.name)).Nodup

theorem Relisted.build_eq {l l' : TableListing} (h : l.Relisted l') : l.build = l'.build := by
  have hcolumns : l.columns.map (·.build) = l'.columns.map (·.build) :=
    map_eq_of_forall₂ (fun _ _ hc => hc.build_eq) h.columns
  unfold build
  rw [h.name, h.comment, hcolumns]
  exact Table.foldl_addIndex_eq_of_perm h.indexes h.names _

end TableListing

end StructGen
