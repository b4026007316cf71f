import StructGen.Proofs.TagTexts
import StructGen.Proofs.WritingLog

namespace StructGen

/-- How the names of some indexes come apart: the indexes that are there under these names, and
the names without one, both in the order of the names. -/
inductive Resolved (indexes : Dict Index) : List String → List Index → List String → Prop
  | nil : Resolved indexes [] [] []
  | known {name : String} {index : Index} {names unknown : List String} {known : List Index}
    (h : indexes.get? name = some index) (later : Resolved indexes names known unknown) :
    Resolved indexes (name :: names) (index :: known) unknown
  | unknown {name : String} {names unknown : List String} {known : List Index}
    (h : indexes.get? name = none) (later : Resolved indexes names known unknown) :
    Resolved indexes (name :: names) known (name :: unknown)

/-- Whether a text is the entry for an index: the word for its kind, and in parentheses its own
name if it is over several columns. -/
inductive EntryFor : Index → String → Prop
  | unique {name : String} {columns : List String} (h : columns.length ≤ 1) :
    EntryFor ⟨name, .unique, columns⟩ "unique"
  | plain {name : String} {columns : List String} (h : columns.length ≤ 1) :
    EntryFor ⟨name, .plain, columns⟩ "index"
  | uniqueComposite {name : String} {columns : List String} (h : 1 < columns.length) :
    EntryFor ⟨name, .unique, columns⟩ ("unique(" ++ name ++ ")")
  | plainComposite {name : String} {columns : List String} (h : 1 < columns.length) :
    EntryFor ⟨name, .plain, columns⟩ ("index(" ++ name ++ ")")

/-- Whether some segments stand for the entries for indexes: one for each, or a blank one in
place of none. -/
inductive SegmentsFor : List String → List String → Prop
  | blank : SegmentsFor [] [spaces 20]
  | entries (entry : String) (entries : List String) :
    SegmentsFor (entry :: entries) ((entry :: entries).map (padRight 20))

/-- Whether some segments stand for the inline comment of a column: one if the comment is asked
for and there is any. -/
inductive InlineFor (column : Column) (options : TagOptions) : List String → Prop
  | leftOut (h : ¬ (options.inlineComment = true ∧ column.comment ≠ "")) :
    InlineFor column options []
  | written (asked : options.inlineComment = true) (any : column.comment ≠ "") (segment : String) :
    InlineFor column options [segment]

/-- Whether the mapping of a column accounts for each index that the column is in by an entry or,
where its table has no such index, by a warning. -/
structure IndexesAccounted (table : Table) (column : Column) (options : TagOptions)
    (names : List String) (known : List Index) (unknown : List String) : Prop where
  ascending : names.Pairwise (· < ·)
  memberships : ∀ name, name ∈ names ↔ name ∈ column.indexes
  resolved : Resolved table.indexes names known unknown
  entries : List.Forall₂ EntryFor known (indexSegments table column)
  warnings : (tagWarnings [{ table with columns := [column] }]).map Event.entry =
    unknown.map (unknownIndexEntry table column)
  segments : ∃ front marks inline, mappingSegments table column options = front ++ marks ++ inline ∧
    front.length = 8 ∧ SegmentsFor (indexSegments table column) marks ∧
    InlineFor column options inline

theorem resolved_names (indexes : Dict Index) (names : List String) :
    Resolved indexes names (names.filterMap indexes.get?)
      (names.filter fun name => !indexes.contains name) := by
  induction names with
  | nil => exact .nil
  | cons name names ih =>
    cases hget : indexes.get? name with
    | none =>
      have hcontains : indexes.contains name = false := by simp [Dict.contains, hget]
      rw [List.filterMap_cons_none hget, List.filter_cons, hcontains]
      exact .unknown hget ih
    | some index =>
      have hcontains : indexes.contains name = true := by simp [Dict.contains, hget]
      rw [List.filterMap_cons_some hget, List.filter_cons, hcontains]
      exact .known hget ih

theorem entryFor_indexEntry (index : Index) : EntryFor index (indexEntry index) := by
  obtain ⟨name, kind, columns⟩ := index
  by_cases h : 1 < columns.length
  · have hentry : indexEntry ⟨name, kind, columns⟩ = kind.keyword ++ "(" ++ name ++ ")" := by
      simp [indexEntry, Index.isComposite, h]
    rw [hentry]
    cases kind with
    | unique => exact .uniqueComposite h
    | plain => exact .plainComposite h
  · have hentry : indexEntry ⟨name, kind, columns⟩ = kind.keyword := by
      simp [indexEntry, Index.isComposite, h]
    rw [hentry]
    cases kind with
    | unique => exact .unique (Nat.le_of_not_lt h)
    | plain => exact .plain (Nat.le_of_not_lt h)

theorem forall₂_entryFor (table : Table) (column : Column) :
    List.Forall₂ EntryFor (resolvedIndexes table column) (indexSegments table column) := by
  rw [indexSegments_eq_map, List.forall₂_map_right_iff, List.forall₂_same]
  exact fun index _ => entryFor_indexEntry index

theorem segmentsFor_padded (entries : List String) :
    SegmentsFor entries ((if entries.isEmpty then [" "] else entries).map (padRight 20)) := by
  cases entries with
  | nil => exact .blank
  | cons entry entries => exact .entries entry entries

theorem inlineFor_column (column : Column) (options : TagOptions) :
    InlineFor column options (if options.inlineComment && !column.comment.isEmpty then
      [padLeft 20 ("      comment('" ++ column.comment ++ "')")] else []) := by
  cases h : options.inlineComment && !column.comment.isEmpty with
  | true =>
    obtain ⟨hasked, hany⟩ : options.inlineComment = true ∧ column.comment ≠ "" := by simpa using h
    exact .written hasked hany _
  | false => exact .leftOut (by simpa using h)

theorem tagWarnings_of_column (table : Table) (column : Column) :
    (tagWarnings [{ table with columns := [column] }]).map Event.entry =
      (unknownIndexes table column).map (unknownIndexEntry table column) := by
  rw [map_entry_tagWarnings, List.flatMap_singleton, List.flatMap_singleton]
  rfl

/-- Each index that a column is in is accounted for once, whether its table has it or not. -/
theorem exists_indexesAccounted (table : Table) (column : Column) (options : TagOptions) :
    ∃ names known unknown, IndexesAccounted table column options names known unknown := by
  refine ⟨column.indexes.toList, resolvedIndexes table column, unknownIndexes table column, ?_⟩
  exact
    { ascending := column.indexes.ascending
      memberships := fun _ => .rfl
      resolved := resolved_names table.indexes column.indexes.toList
      entries := forall₂_entryFor table column
      warnings := tagWarnings_of_column table column
      segments := ⟨_, _, _, rfl, rfl, segmentsFor_padded _, inlineFor_column column options⟩ }

example :
    let stored : Index := { name := "stored", columns := ["a", "b"] }
    let table : Table := { name := "t", indexes := Dict.empty.insert "key" stored }
    let column : Column :=
      { name := "a", sqlType := { name := "INT" }, indexes := .ofList ["lost", "key"] }
    indexSegments table column = ["index(stored)"] := by decide

end StructGen
