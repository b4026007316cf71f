import StructGen.Proofs.RecordRoundTrip
import StructGen.Proofs.Relisting
import StructGen.Proofs.SchemaLoading

namespace StructGen

open Json

theorem SqlType.lawful_format : SqlType.format.Lawful where
  names := by decide
  fields := by
    simp only [SqlType.format, List.forall_mem_cons]
    exact ⟨.requiredString _, .optionalWord _, .optionalWord _,
      List.forall_mem_nil _⟩
  make _ := rfl

theorem IndexKind.read_write (kind : IndexKind) : IndexKind.read kind.write = .ok kind := by
  cases kind <;> decide

theorem Index.lawful_format : Index.format.Lawful where
  names := by decide
  fields := by
    simp only [Index.format, List.forall_mem_cons]
    exact ⟨.requiredString _,
      .of_written fun kind => ⟨kind.write, rfl, kind.read_write⟩,
      .list _ fun _ => rfl, List.forall_mem_nil _⟩
  make _ := rfl

theorem Column.lawful_format : Column.format.Lawful where
  names := by decide
  fields := by
    simp only [Column.format, List.forall_mem_cons]
    exact ⟨.requiredString _, .record _ SqlType.lawful_format, .set _,
      .set _, .bool _ _, .bool _ _, .bool _ _, .string _,
      .bool _ _, .bool _ _, .string _, .set _, List.forall_mem_nil _⟩
  make _ := rfl

theorem Table.lawful_format : Table.format.Lawful where
  names := by decide
  fields := by
    simp only [Table.format, List.forall_mem_cons]
    exact ⟨.requiredString _, .string _,
      .list _ (Record.read_write Column.lawful_format),
      .dict _ Index.lawful_format, List.forall_mem_nil _⟩
  make _ := rfl

theorem Schema.lawful_format : Schema.format.Lawful where
  names := by decide
  fields := by
    simp only [Schema.format, List.forall_mem_cons]
    exact ⟨.list _ (Record.read_write Table.lawful_format), List.forall_mem_nil _⟩
  make _ := rfl

/-- A table is read back from what is written of it, in whatever order its sets and its indexes
are listed. -/
theorem Table.read_of_relisted {t : Table} {n : Node} (h : TableRelisted (Table.format.write t) n) :
    Table.format.read n = .ok t :=
  (Table.agree_read h).eq_ok (Record.read_write Table.lawful_format t)

theorem Schema.read_of_relisted {s : Schema} {n : Node}
    (h : SchemaRelisted (Schema.format.write s) n) : Schema.format.read n = .ok s :=
  (Schema.agree_read h).eq_ok (Record.read_write Schema.lawful_format s)

/-- Whether a text is read as what is written of a schema with some tables, its sets and its
indexes listed in whatever order. -/
def HoldsSchema (text : String) (tables : List Table) : Prop :=
  ∃ n, SchemaRelisted (Schema.format.write ⟨tables⟩) n ∧ Document.ofText text = ⟨n, false⟩

theorem readWith_of_holdsSchema {text : String} {tables : List Table} (h : HoldsSchema text tables) :
    (Document.ofText text).readWith Schema.format.read = .ok ⟨tables⟩ := by
  obtain ⟨n, hn, htext⟩ := h
  rw [htext, Document.readWith, Schema.read_of_relisted hn]
  rfl

/-- What is written is read back: a table from its description, and the tables of a schema from a
file with its text. A run for that file is the writing of their models, unless there are none. -/
theorem read_back_of_written :
    (∀ (t : Table) (n : Node), TableRelisted (Table.format.write t) n →
      Table.format.read n = .ok t) ∧
    ∀ (tables : List Table) (text : String) (config : Config) (d : Disk),
      HoldsSchema text tables → d.readFile config.schema = .ok text →
        (tables = [] → loadTables d config.schema = .error (.noTables config.schema)) ∧
        (tables ≠ [] → loadTables d config.schema = .ok tables ∧
          (generate config d).result = (writeModels config tables d).result ∧
          (generate config d).disk = (writeModels config tables d).disk) := by
  refine ⟨fun t n h => Table.read_of_relisted h, fun tables text config d htext hread => ?_⟩
  have hparse := readWith_of_holdsSchema htext
  constructor
  · rintro rfl
    exact loadTables_of_failure (.noTables hread hparse)
  · intro hne
    have hload := loadTables_of_loads ⟨hne, text, hread, hparse⟩
    exact ⟨hload, generate_of_loadTables_eq_ok hload⟩

/-- A file may list the options of a column and the indexes of a table in any order. -/
theorem read_back_of_listed_sets :
    let texts (ss : List String) : Node := .array (ss.map .string) .closed
    let index (name : String) : Member := (.ok name, .object
      [(.ok "name", .string name), (.ok "type", .string "unique"),
        (.ok "columns", texts ["mode"])] .closed)
    let column (options : List String) : Node := .object
      [(.ok "name", .string "mode"), (.ok "type", .object [(.ok "name", .string "SET")] .closed),
        (.ok "set_options", texts options), (.ok "primary_key", .bool false),
        (.ok "auto_increment", .bool false), (.ok "nullable", .bool true),
        (.ok "default", .string ""), (.ok "created", .bool false), (.ok "updated", .bool false),
        (.ok "comment", .string "")] .closed
    let table (options indexes : List String) : Node := .object
      [(.ok "name", .string "jobs"), (.ok "comment", .string ""),
        (.ok "columns", .array [column options] .closed),
        (.ok "indexes", .object (indexes.map index) .closed)] .closed
    let mode : Column :=
      { name := "mode", sqlType := { name := "SET" }, setOptions := .ofList ["w", "r"] }
    let jobs : Table :=
      { name := "jobs", columns := [mode]
        indexes := (Dict.empty.insert "j" ⟨"j", .unique, ["mode"]⟩).insert
          "i" ⟨"i", .unique, ["mode"]⟩ }
    let text := "\x7b\"tables\":[\x7b\"name\":\"jobs\",\"comment\":\"\",\"columns\":[" ++
      "\x7b\"name\":\"mode\",\"type\":\x7b\"name\":\"SET\"\x7d," ++
      "\"set_options\":[\"w\",\"r\"],\"primary_key\":false," ++
      "\"auto_increment\":false,\"nullable\":true,\"default\":\"\"," ++
      "\"created\":false,\"updated\":false,\"comment\":\"\"\x7d],\"indexes\":\x7b" ++
      "\"j\":\x7b\"name\":\"j\",\"type\":\"unique\",\"columns\":[\"mode\"]\x7d," ++
      "\"i\":\x7b\"name\":\"i\",\"type\":\"unique\",\"columns\":[\"mode\"]\x7d\x7d\x7d]\x7d"
    let config : Config := { schema := ⟨"schema.json"⟩ }
    let d : Disk :=
      { workingDir := ["work"]
        entries := [(["work"], .directory), (["work", "schema.json"], .file text.toByteArray)] }
    Table.format.read (table ["w", "r"] ["j", "i"]) = .ok jobs ∧
      HoldsSchema text [jobs] ∧ loadTables d config.schema = .ok [jobs] ∧
        (generate config d).result = (writeModels config [jobs] d).result ∧
        (generate config d).disk = (writeModels config [jobs] d).disk := by
  intro texts index column table mode jobs text config d
  let schema (table : Node) : Node := .object [(.ok "tables", .array [table] .closed)] .closed
  have hoptions : SameItems (texts ["r", "w"]) (texts ["w", "r"]) := by
    refine .array .closed fun n => ?_
    simp [or_comm]
  have hindexes : SameMembers (.object (["i", "j"].map index) .closed)
      (.object (["j", "i"].map index) .closed) := .object .closed (.swap _ _ _) (by simp [index])
  have hcolumn : ColumnRelisted (column ["r", "w"]) (column ["w", "r"]) :=
    .object .closed (.cons_same _ (.cons_same _ (.cons_differing (by simp) hoptions (MembersRelated.same _))))
  have htable : TableRelisted (table ["r", "w"] ["i", "j"]) (table ["w", "r"] ["j", "i"]) :=
    .object .closed (.cons_same _ (.cons_same _ (.cons_differing List.mem_cons_self
      (.array .closed (.cons hcolumn .nil)) (.cons_differing (by simp) hindexes .nil))))
  have hschema : SchemaRelisted (schema (table ["r", "w"] ["i", "j"]))
      (schema (table ["w", "r"] ["j", "i"])) :=
    .object .closed (.cons_differing List.mem_cons_self (.array .closed (.cons htable .nil)) .nil)
  have hwritten : Table.format.write jobs = table ["r", "w"] ["i", "j"] := rfl
  have htext : Document.ofText text = ⟨schema (table ["w", "r"] ["j", "i"]), false⟩ := by
    simp only [Document.ofText, text, String.toList_append]
    rfl
  have hholds : HoldsSchema text [jobs] := ⟨_, hschema, htext⟩
  have hlocate : d.locate config.schema = .ok ["work", "schema.json"] := by decide +kernel
  have hread : d.readFile config.schema = .ok text := (Disk.readFile_eq_ok hlocate).mpr rfl
  exact ⟨read_back_of_written.1 jobs _ (hwritten ▸ htable), hholds,
    (read_back_of_written.2 [jobs] text config d hholds hread).2 (List.cons_ne_nil _ _)⟩

end StructGen
