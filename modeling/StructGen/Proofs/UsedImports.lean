import StructGen.Proofs.StructBlocks

namespace StructGen

theorem importBlock_ne_empty_iff {paths : List String} :
    importBlock paths ≠ "" ↔ ∃ path, path ∈ paths := by
  cases paths with
  | nil => simp [importBlock]
  | cons path paths => simp [importBlock]

/-- Whether the field type of a column of some tables is from a package. -/
def UsesPackage (tables : List Table) (package : String) : Prop :=
  ∃ table ∈ tables, ∃ column ∈ table.columns,
    Qualifies package (TypeMapping.go.fieldType column)

theorem needs_go_iff {tables : List Table} {package : String} :
    TypeMapping.go.Needs tables package ↔ UsesPackage tables package := by
  simp only [TypeMapping.Needs, UsesPackage, ← qualifier?_eq_some_iff]
  rfl

/-- Whether a file has the structs of some tables and imports the packages of their field types,
each once and in ascending order, and nothing else. -/
def ImportsUsed (ctx : RenderContext) (tables : List Table) (file : String) : Prop :=
  ∃ paths blocks,
    file = fileText ctx paths blocks ∧ List.Forall₂ (IsStructBlock ctx) tables blocks ∧
    (importBlock paths ≠ "" ↔ ∃ package, UsesPackage tables package) ∧
    paths.Pairwise (· < ·) ∧ ∀ package, package ∈ paths ↔ UsesPackage tables package

theorem importsUsed_renderFile (ctx : RenderContext) (tables : List Table) :
    ImportsUsed ctx tables (renderFile ctx tables) := by
  have hpaths : ∀ package,
      package ∈ (resolveImports tables .go).keys ↔ UsesPackage tables package :=
    fun _ => mem_keys_resolveImports.trans needs_go_iff
  refine ⟨_, _, renderFile_eq_fileText ctx tables, forall₂_isStructBlock ctx tables, ?_,
    Dict.keys_ascending _, hpaths⟩
  simp only [importBlock_ne_empty_iff, hpaths]

/-- The names of the types of some tables, without regard to the case of their letters. -/
def typeNames (tables : List Table) : List String :=
  tables.flatMap fun table => table.columns.map fun column => asciiUpper column.sqlType.name

/-- Whether tables have types of the same names, whatever the case of the letters, the lengths of
the types, and the number and order of the columns. -/
def SameTypeNames (tables tables' : List Table) : Prop :=
  ∀ name, name ∈ typeNames tables ↔ name ∈ typeNames tables'

theorem fieldType_go_of_asciiUpper_eq {column column' : Column}
    (h : asciiUpper column.sqlType.name = asciiUpper column'.sqlType.name) :
    TypeMapping.go.fieldType column = TypeMapping.go.fieldType column' := by
  have htype : TypeMapping.go.typeName column = TypeMapping.go.typeName column' := by
    show goType column.sqlType.name = goType column'.sqlType.name
    rw [goType, goType, h]
  rw [TypeMapping.fieldType, TypeMapping.fieldType, htype]

theorem usesPackage_of_typeNames_subset {tables tables' : List Table} {package : String}
    (hnames : typeNames tables ⊆ typeNames tables') (h : UsesPackage tables package) :
    UsesPackage tables' package := by
  obtain ⟨table, htable, column, hcolumn, hqualifies⟩ := h
  have hname : asciiUpper column.sqlType.name ∈ typeNames tables :=
    List.mem_flatMap.mpr ⟨table, htable, List.mem_map_of_mem hcolumn⟩
  obtain ⟨table', htable', hname'⟩ := List.mem_flatMap.mp (hnames hname)
  obtain ⟨column', hcolumn', hsame⟩ := List.mem_map.mp hname'
  refine ⟨table', htable', column', hcolumn', ?_⟩
  rw [fieldType_go_of_asciiUpper_eq hsame]
  exact hqualifies

/-- Tables with types of the same names import the same. -/
theorem SameTypeNames.fileStart_eq {tables tables' : List Table} (h : SameTypeNames tables tables')
    (ctx : RenderContext) : fileStart ctx tables = fileStart ctx tables' := by
  have hneeds : ∀ path, TypeMapping.go.Needs tables path ↔ TypeMapping.go.Needs tables' path := by
    intro path
    rw [needs_go_iff, needs_go_iff]
    exact ⟨usesPackage_of_typeNames_subset fun name => (h name).mp,
      usesPackage_of_typeNames_subset fun name => (h name).mpr⟩
  rw [fileStart, fileStart, resolveImports_eq_of_needs_iff hneeds]

/-- The tables whose structs are written to the same file, for each file in its order. -/
def Config.tablesByFile (config : Config) (tables : List Table) : List (List Table) :=
  match config.singleFile with
  | some _ => [tables]
  | none => tables.map fun table => [table]

theorem importsUsed_tasks (config : Config) (tables : List Table) :
    List.Forall₂ (fun written task => ImportsUsed config.renderContext written task.content)
      (config.tablesByFile tables) (config.tasks tables) := by
  cases hsingle : config.singleFile with
  | none =>
    rw [tasks_of_singleFile_eq_none hsingle, Config.tablesByFile, hsingle,
      List.forall₂_map_left_iff, List.forall₂_map_right_iff, List.forall₂_same]
    intro table _
    rw [content_tableTask]
    exact importsUsed_renderFile _ _
  | some name =>
    rw [tasks_of_singleFile_eq_some hsingle, Config.tablesByFile, hsingle]
    refine .cons ?_ .nil
    rw [content_singleTask]
    exact importsUsed_renderFile _ _

/-- Every file imports the packages that it uses and no others, whether it is for one table or for
all of them, and what is imported depends on the names of the types alone. -/
theorem importsUsed_everywhere (ctx : RenderContext) (tables : List Table) :
    ImportsUsed ctx tables (renderFile ctx tables) ∧
      (∀ tables', SameTypeNames tables tables' → fileStart ctx tables = fileStart ctx tables') ∧
      ∀ config : Config,
        List.Forall₂ (fun written task => ImportsUsed config.renderContext written task.content)
          (config.tablesByFile tables) (config.tasks tables) :=
  ⟨importsUsed_renderFile ctx tables, fun _ h => h.fileStart_eq ctx,
    fun config => importsUsed_tasks config tables⟩

theorem importsUsed_everywhere_of_mixed_case :
    let ctx : RenderContext := ⟨"models", id, id, {}⟩
    let column (name : String) (sqlType : SqlType) : Column := { name, sqlType }
    let tables : List Table := [{ name := "events", columns :=
      [column "at" { name := "DateTime", length := some 6 }, column "id" { name := "INT" }] }]
    let tables' : List Table := [{ name := "users", columns := [column "id" { name := "int" }] },
      { name := "visits", columns :=
        [column "from" { name := "datetime" }, column "to" { name := "DATETIME" }] }]
    SameTypeNames tables tables' ∧ fileStart ctx tables = fileStart ctx tables' ∧
      ImportsUsed ctx tables (renderFile ctx tables) ∧
      ImportsUsed ctx tables' (renderFile ctx tables') := by
  intro ctx column tables tables'
  have hnames : typeNames tables = ["DATETIME", "INT"] := by decide +kernel
  have hnames' : typeNames tables' = ["INT", "DATETIME", "DATETIME"] := by decide +kernel
  have hsame : SameTypeNames tables tables' := by
    intro name
    rw [hnames, hnames']
    simp [or_comm]
  exact ⟨hsame, (importsUsed_everywhere ctx tables).2.1 tables' hsame,
    (importsUsed_everywhere ctx tables).1, (importsUsed_everywhere ctx tables').1⟩

end StructGen
