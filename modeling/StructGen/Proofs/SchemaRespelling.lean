import StructGen.Proofs.Respelling
import StructGen.Proofs.SchemaLoading

namespace StructGen

open Json

def SqlTypeRespelled : Node → Node → Prop :=
  Respelled SqlType.format (differingAt [])

def IndexRespelled : Node → Node → Prop :=
  Respelled Index.format (differingAt [])

def ColumnRespelled : Node → Node → Prop :=
  Respelled Column.format (differingAt [("type", SqlTypeRespelled)])

def TableRespelled : Node → Node → Prop :=
  Respelled Table.format (differingAt
    [("columns", ListRelated ColumnRespelled), ("indexes", DictRelated IndexRespelled)])

/-- Whether two schema documents differ in nothing but how records are written in them: the
document itself, its tables, and their columns, types and indexes. -/
def SchemaRespelled : Node → Node → Prop :=
  Respelled Schema.format (differingAt [("tables", ListRelated TableRespelled)])

theorem SqlType.keeps {n n' : Node} (h : SqlTypeRespelled n n') :
    Keeps SqlType.format.read n n' := by
  have hnames : (SqlType.format.fields.map (·.name)).Nodup := by decide
  exact h.keeps hnames (keeps_differingAt hnames (List.forall_mem_nil _))

theorem Index.keeps {n n' : Node} (h : IndexRespelled n n') : Keeps Index.format.read n n' := by
  have hnames : (Index.format.fields.map (·.name)).Nodup := by decide
  exact h.keeps hnames (keeps_differingAt hnames (List.forall_mem_nil _))

theorem Column.keeps {n n' : Node} (h : ColumnRespelled n n') : Keeps Column.format.read n n' := by
  have hnames : (Column.format.fields.map (·.name)).Nodup := by decide
  refine h.keeps hnames (keeps_differingAt hnames (List.forall_mem_singleton.mpr ?_))
  exact ⟨.record "type" SqlType.format, by simp [Column.format], rfl, fun _ _ => SqlType.keeps⟩

theorem Table.keeps {n n' : Node} (h : TableRespelled n n') : Keeps Table.format.read n n' := by
  have hnames : (Table.format.fields.map (·.name)).Nodup := by decide
  refine h.keeps hnames (keeps_differingAt hnames ?_)
  simp only [List.forall_mem_cons]
  refine ⟨⟨.list "columns" Column.format.read Column.format.write, ?_, rfl,
      fun _ _ => keeps_readList fun _ _ => Column.keeps⟩,
    ⟨.dict "indexes" Index.format, ?_, rfl, fun _ _ => keeps_readDict fun _ _ => Index.keeps⟩,
    List.forall_mem_nil _⟩
  all_goals simp [Table.format]

theorem Schema.keeps {n n' : Node} (h : SchemaRespelled n n') : Keeps Schema.format.read n n' := by
  have hnames : (Schema.format.fields.map (·.name)).Nodup := by decide
  refine h.keeps hnames (keeps_differingAt hnames (List.forall_mem_singleton.mpr ?_))
  exact ⟨.list "tables" Table.format.read Table.format.write, List.mem_cons_self, rfl,
    fun _ _ => keeps_readList fun _ _ => Table.keeps⟩

theorem Json.Document.readWith_eq_ok_iff {α : Type} {read : Node → Except ReadError α}
    {d : Document} {x : α} :
    d.readWith read = .ok x ↔ d.trailing = false ∧ read d.root = .ok x := by
  cases hread : read d.root <;> cases htrailing : d.trailing <;>
    simp [readWith, hread, htrailing, bind, Except.bind, pure, Except.pure, throw, throwThe,
      MonadExceptOf.throw]

/-- Whether a text is a schema document in another spelling, with nothing after it. -/
structure TextRespelled (text text' : String) : Prop where
  root : SchemaRespelled (Document.ofText text).root (Document.ofText text').root
  complete : (Document.ofText text').trailing = false

/-- A schema document that can be loaded can be loaded in every other spelling, and the tables are
the same. -/
theorem loadTables_of_respelled {d d' : Disk} {path path' : Path} {text text' : String}
    (hread : d.readFile path = .ok text) (hread' : d'.readFile path' = .ok text')
    (h : TextRespelled text text') {tables : List Table} (hload : loadTables d path = .ok tables) :
    loadTables d' path' = .ok tables := by
  obtain ⟨hnonempty, text₁, htext, hparse⟩ := loadTables_eq_ok_iff.mp hload
  obtain rfl : text = text₁ := Except.ok.inj (hread.symm.trans htext)
  obtain ⟨-, hschema⟩ := Document.readWith_eq_ok_iff.mp hparse
  refine loadTables_eq_ok_iff.mpr ⟨hnonempty, text', hread', ?_⟩
  exact Document.readWith_eq_ok_iff.mpr ⟨h.complete, Schema.keeps h.root _ hschema⟩

/-- The types of columns and of indexes have other names in documents than `sql_type` and
`index_type`, so that whatever stands under these is passed over. -/
theorem loadTables_of_respelled_of_unknown_names :
    let text := "\x7b\"tables\":[\x7b\"name\":\"users\",\"comment\":\"\",\"columns\":[" ++
      "\x7b\"name\":\"id\",\"type\":\x7b\"name\":\"BIGINT\"\x7d\x7d],\"indexes\":\x7b" ++
      "\"pk\":\x7b\"name\":\"pk\",\"columns\":[\"id\"]\x7d\x7d\x7d]\x7d"
    let text' := "[[\x7b\"columns\":[\x7b\"sql_type\":1e999,\"name\":\"id\"," ++
      "\"type\":[\"BIGINT\"]\x7d],\"indexes\":\x7b\"pk\":\x7b\"index_type\":[\x7b\x7d]," ++
      "\"type\":\"index\",\"name\":\"pk\",\"columns\":[\"id\"]\x7d\x7d,\"name\":\"users\"\x7d]]"
    let disk (text : String) : Disk :=
      { workingDir := ["work"]
        entries := [(["work"], .directory), (["work", "schema.json"], .file text.toByteArray)] }
    let path : Path := ⟨"schema.json"⟩
    let users : Table :=
      { name := "users", columns := [{ name := "id", sqlType := { name := "BIGINT" } }]
        indexes := Dict.empty.insert "pk" ⟨"pk", .plain, ["id"]⟩ }
    (disk text).readFile path = .ok text ∧ (disk text').readFile path = .ok text' ∧
      TextRespelled text text' ∧ loadTables (disk text) path = .ok [users] ∧
      loadTables (disk text') path = .ok [users] := by
  intro text text' disk path users
  let name (s : String) : Member := (.ok "name", .string s)
  let list (key : String) (n : Node) : Member := (.ok key, .array [n] .closed)
  let sqlType : Node := .object [name "BIGINT"] .closed
  let sqlType' : Node := .array [.string "BIGINT"] .closed
  let index : Node := .object [name "pk", list "columns" (.string "id")] .closed
  let index' : Node := .object [list "index_type" (.object [] .closed),
    (.ok "type", .string "index"), name "pk", list "columns" (.string "id")] .closed
  let column : Node := .object [name "id", (.ok "type", sqlType)] .closed
  let tooLarge : Node := .fault ⟨.numberOutOfRange, none, .expectedValue⟩
  let column' : Node :=
    .object [(.ok "sql_type", tooLarge), name "id", (.ok "type", sqlType')] .closed
  let indexes (index : Node) : Member := (.ok "indexes", .object [(.ok "pk", index)] .closed)
  let table : Node := .object [name "users", (.ok "comment", .string ""), list "columns" column,
    indexes index] .closed
  let table' : Node := .object [list "columns" column', indexes index', name "users"] .closed
  have hsqlType : SqlTypeRespelled sqlType sqlType' := by
    have hlength : SqlTypeRespelled sqlType
        (.object [name "BIGINT", (.ok "length", .null)] .closed) :=
      .writtenOut [name "BIGINT"] [] (f := .optionalWord "length") (by simp [SqlType.format])
        (by simp [name, Field.optionalWord]) ⟨none, rfl, rfl⟩
    have hlength2 : SqlTypeRespelled (.object [name "BIGINT", (.ok "length", .null)] .closed)
        (.object [name "BIGINT", (.ok "length", .null), (.ok "length2", .null)] .closed) :=
      .writtenOut [name "BIGINT", (.ok "length", .null)] [] (f := .optionalWord "length2")
        (by simp [SqlType.format]) (by simp [name, Field.optionalWord]) ⟨none, rfl, rfl⟩
    have hlisted : SqlTypeRespelled
        (.object [name "BIGINT", (.ok "length", .null), (.ok "length2", .null)] .closed)
        (.array [.string "BIGINT", .null, .null] .closed) :=
      .listed (.cons (by simp [name, Field.requiredString]) (.cons (by simp [Field.optionalWord])
        (.cons (by simp [Field.optionalWord]) .nil)))
    have hshortened : SqlTypeRespelled (.array [.string "BIGINT", .null, .null] .closed) sqlType' :=
      .shortened [.string "BIGINT"] [.null, .null]
        (.cons ⟨none, rfl, rfl⟩ (.cons ⟨none, rfl, rfl⟩ .nil))
    exact ((hlength.trans hlength2).trans hlisted).trans hshortened
  have hindex : IndexRespelled index index' := by
    have htype : IndexRespelled index (.object ((.ok "type", .string "index") ::
        [name "pk", list "columns" (.string "id")]) .closed) :=
      .writtenOut [] _ (f := ⟨"type", IndexKind, IndexKind.read, fun kind => some kind.write,
        some .plain⟩) (by simp [Index.format]) (by simp [name, list]) ⟨.plain, rfl, rfl⟩
    exact htype.trans (.extended [] _ (by decide) (.array (by simp [Node.WellFormed.object])))
  have hcolumn : ColumnRespelled column column' := by
    have hextended : ColumnRespelled column
        (.object [(.ok "sql_type", tooLarge), name "id", (.ok "type", sqlType)] .closed) :=
      .extended [] _ (by decide) (.unreadable rfl)
    exact hextended.trans (.member [(.ok "sql_type", tooLarge), name "id"] []
      (f := .record "type" SqlType.format) (by simp [Column.format])
      (.inr ⟨_, List.mem_cons_self, hsqlType⟩))
  have htable : TableRespelled table table' := by
    have hleftOut : TableRespelled table
        (.object [name "users", list "columns" column, indexes index] .closed) :=
      .leftOut [name "users"] _ (f := .string "comment") (by simp [Table.format]) ⟨"", rfl, rfl⟩
    have hpermuted : TableRespelled
        (.object [name "users", list "columns" column, indexes index] .closed)
        (.object [list "columns" column, indexes index, name "users"] .closed) :=
      .permuted (List.perm_append_singleton _ [list "columns" column, indexes index]).symm
    have hcolumns : TableRespelled
        (.object [list "columns" column, indexes index, name "users"] .closed)
        (.object [list "columns" column', indexes index, name "users"] .closed) :=
      .member [] _ (f := .list "columns" Column.format.read Column.format.write)
        (by simp [Table.format])
        (.inr ⟨_, List.mem_cons_self, .array .closed (.cons hcolumn .nil)⟩)
    have hindexes : TableRespelled
        (.object [list "columns" column', indexes index, name "users"] .closed) table' :=
      .member [list "columns" column'] _ (f := .dict "indexes" Index.format)
        (by simp [Table.format]) (.inr ⟨_, List.mem_cons_of_mem _ List.mem_cons_self,
          .object .closed (.cons ⟨rfl, fun _ _ => hindex⟩ .nil)⟩)
    exact ((hleftOut.trans hpermuted).trans hcolumns).trans hindexes
  have hschema : SchemaRespelled (.object [list "tables" table] .closed)
      (.array [.array [table'] .closed] .closed) := by
    have hlisted : SchemaRespelled (.object [list "tables" table] .closed)
        (.array [.array [table] .closed] .closed) :=
      .listed (.cons List.mem_cons_self .nil)
    exact hlisted.trans (.item [] [] (f := .list "tables" Table.format.read Table.format.write) rfl
      (.inr ⟨_, List.mem_cons_self, .array .closed (.cons htable .nil)⟩))
  have htext : Document.ofText text = ⟨.object [list "tables" table] .closed, false⟩ := by
    simp only [Document.ofText, text, String.toList_append]
    rfl
  have htext' : Document.ofText text' = ⟨.array [.array [table'] .closed] .closed, false⟩ := by
    simp only [Document.ofText, text', String.toList_append]
    rfl
  have hlocate : (disk text).locate path = .ok ["work", "schema.json"] := by decide +kernel
  have hlocate' : (disk text').locate path = .ok ["work", "schema.json"] := by decide +kernel
  have hread : (disk text).readFile path = .ok text := (Disk.readFile_eq_ok hlocate).mpr rfl
  have hread' : (disk text').readFile path = .ok text' := (Disk.readFile_eq_ok hlocate').mpr rfl
  have hrespelled : TextRespelled text text' := by
    constructor
    · rw [htext, htext']
      exact hschema
    · rw [htext']
  have hload : loadTables (disk text) path = .ok [users] := by
    refine loadTables_eq_ok_iff.mpr ⟨List.cons_ne_nil _ _, text, hread, ?_⟩
    rw [htext]
    rfl
  exact ⟨hread, hread', hrespelled, hload, loadTables_of_respelled hread hread' hrespelled hload⟩

end StructGen
