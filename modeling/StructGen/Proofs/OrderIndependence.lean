import StructGen.Proofs.Registration
import StructGen.Proofs.Relisting
import StructGen.Render

namespace StructGen

open Json

/-- A way to give the tables of a schema: in a document, or by a program that builds them. -/
inductive SchemaSource
  | document (n : Node)
  | program (ts : List TableListing)

/-- A way to give a column that belongs to no table. -/
inductive ColumnSource
  | document (n : Node)
  | program (l : ColumnListing)

namespace SchemaSource

def tables : SchemaSource → Except ReadError (List Table)
  | document n => (·.tables) <$> Schema.format.read n
  | program ts => .ok (ts.map (·.build))

/-- Whether two sources differ in nothing but how their unordered parts are listed. -/
inductive Relisted : SchemaSource → SchemaSource → Prop
  | document {n n' : Node} (h : SchemaRelisted n n') : Relisted (document n) (document n')
  | program {ts ts' : List TableListing} (h : List.Forall₂ TableListing.Relisted ts ts') :
    Relisted (program ts) (program ts')

theorem Relisted.agree {s s' : SchemaSource} (h : s.Relisted s') : Agree s.tables s'.tables := by
  cases h with
  | document h => exact (Schema.agree_read h).map _
  | program h =>
    rw [tables, tables, map_eq_of_forall₂ (fun _ _ ht => ht.build_eq) h]
    exact .refl _

end SchemaSource

namespace ColumnSource

def column : ColumnSource → Except ReadError Column
  | document n => Column.format.read n
  | program l => .ok l.build

inductive Relisted : ColumnSource → ColumnSource → Prop
  | document {n n' : Node} (h : ColumnRelisted n n') : Relisted (document n) (document n')
  | program {l l' : ColumnListing} (h : l.Relisted l') : Relisted (program l) (program l')

theorem Relisted.agree {c c' : ColumnSource} (h : c.Relisted c') : Agree c.column c'.column := by
  cases h with
  | document h => exact Column.agree_read h
  | program h =>
    rw [column, column, h.build_eq]
    exact .refl _

end ColumnSource

/-- Whether two columns get the same tags, with the same warnings. -/
structure SameTag (table table' : Table) (column column' : Column) : Prop where
  tag : ∀ options, formatTag table column options = formatTag table' column' options
  warnings : (unknownIndexes table column).map (Event.unknownIndex table.name column.name) =
    (unknownIndexes table' column').map (Event.unknownIndex table'.name column'.name)

structure SameOutput (tables tables' : List Table) : Prop where
  tags : List.Forall₂ (fun t t' => List.Forall₂ (SameTag t t') t.columns t'.columns) tables tables'
  file : ∀ ctx, renderFile ctx tables = renderFile ctx tables'
  tableFiles : ∀ ctx, tables.map (renderFile ctx [·]) = tables'.map (renderFile ctx [·])
  warnings : tagWarnings tables = tagWarnings tables'

theorem SameTag.refl (table : Table) (column : Column) : SameTag table table column column :=
  ⟨fun _ => rfl, rfl⟩

theorem SameOutput.refl (tables : List Table) : SameOutput tables tables where
  tags := List.forall₂_same.mpr fun t _ => List.forall₂_same.mpr fun c _ => .refl t c
  file := fun _ => rfl
  tableFiles := fun _ => rfl
  warnings := rfl

/-- What is generated from a schema, or for a column apart from it, does not depend on how the
sets of a column and the indexes of a table are listed. -/
theorem sameOutput_of_relisted {s s' : SchemaSource} {c c' : ColumnSource} (hs : s.Relisted s')
    (hc : c.Relisted c') {tables : List Table} {column : Column} (htables : s.tables = .ok tables)
    (hcolumn : c.column = .ok column) :
    ∃ tables' column', s'.tables = .ok tables' ∧ c'.column = .ok column' ∧
      SameOutput tables tables' ∧
      List.Forall₂ (fun t t' => SameTag t t' column column') tables tables' := by
  have htables' : s'.tables = .ok tables := hs.agree.eq_ok htables
  have hcolumn' : c'.column = .ok column := hc.agree.eq_ok hcolumn
  refine ⟨tables, column, htables', hcolumn', .refl tables, ?_⟩
  exact List.forall₂_same.mpr fun t _ => .refl t column

theorem sameOutput_of_reversed_lists :
    let texts (ss : List String) : Node := .array (ss.map .string) .closed
    let index (name : String) : Member := (.ok name, .object [(.ok "name", .string name)] .closed)
    let column (options indexes : List String) : Node := .object
      [(.ok "name", .string "state"), (.ok "type", .object [(.ok "name", .string "ENUM")] .closed),
        (.ok "enum_options", texts options), (.ok "indexes", texts indexes)] .closed
    let table (columns : List Node) (indexes : List String) : Node := .object
      [(.ok "name", .string "jobs"), (.ok "columns", .array columns .closed),
        (.ok "indexes", .object (indexes.map index) .closed)] .closed
    let schema (table : Node) : SchemaSource :=
      .document (.object [(.ok "tables", .array [table] .closed)] .closed)
    let first := schema (table [column ["on", "off"] ["i", "j", "lost"]] ["i", "j"])
    let second := schema (table [column ["off", "on", "off"] ["lost", "j", "i", "j"]] ["j", "i"])
    let single (options : List String) : ColumnSource := .program
      { column := { name := "mode", sqlType := { name := "SET" } }, enumOptions := [],
        setOptions := options, indexes := ["i"] }
    ∃ tables column, first.tables = .ok tables ∧ (single ["r", "w"]).column = .ok column ∧
      ∃ tables' column', second.tables = .ok tables' ∧ (single ["w", "r"]).column = .ok column' ∧
        SameOutput tables tables' ∧
        List.Forall₂ (fun t t' => SameTag t t' column column') tables tables' := by
  intro texts index column table schema first second single
  have hoptions : ∀ s : String, s ∈ ["r", "w"] ↔ s ∈ ["w", "r"] := by simp [or_comm]
  have hsingle : (single ["r", "w"]).Relisted (single ["w", "r"]) :=
    .program ⟨rfl, fun _ => .rfl, hoptions, fun _ => .rfl⟩
  have htexts : ∀ {ss ss' : List String}, (∀ s, s ∈ ss ↔ s ∈ ss') →
      SameItems (texts ss) (texts ss') := by
    intro ss ss' h
    refine .array .closed fun n => ?_
    simp only [List.mem_map, h]
  have hstates : SameItems (texts ["on", "off"]) (texts ["off", "on", "off"]) :=
    htexts (by simp [or_comm])
  have hnames : SameItems (texts ["i", "j", "lost"]) (texts ["lost", "j", "i", "j"]) :=
    htexts fun s => by simp [or_left_comm, or_comm]
  have hindexes : SameMembers (.object (["i", "j"].map index) .closed)
      (.object (["j", "i"].map index) .closed) := .object .closed (.swap _ _ _) (by simp [index])
  have hcolumn : ColumnRelisted (column ["on", "off"] ["i", "j", "lost"])
      (column ["off", "on", "off"] ["lost", "j", "i", "j"]) :=
    .object .closed (.cons_same _ (.cons_same _
      (.cons_differing (by simp) hstates (.cons_differing (by simp) hnames .nil))))
  have htable : TableRelisted (table [column ["on", "off"] ["i", "j", "lost"]] ["i", "j"])
      (table [column ["off", "on", "off"] ["lost", "j", "i", "j"]] ["j", "i"]) :=
    .object .closed (.cons_same _ (.cons_differing List.mem_cons_self
      (.array .closed (.cons hcolumn .nil)) (.cons_differing (by simp) hindexes .nil)))
  have hschema : first.Relisted second :=
    .document (.object .closed
      (.cons_differing List.mem_cons_self (.array .closed (.cons htable .nil)) .nil))
  obtain ⟨tables, htables⟩ : ∃ tables, first.tables = .ok tables := ⟨_, rfl⟩
  obtain ⟨column, hcolumn⟩ : ∃ column, (single ["r", "w"]).column = .ok column := ⟨_, rfl⟩
  exact ⟨tables, column, htables, hcolumn,
    sameOutput_of_relisted hschema hsingle htables hcolumn⟩

end StructGen
