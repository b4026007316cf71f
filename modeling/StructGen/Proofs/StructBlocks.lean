import Mathlib.Data.List.Forall2
import StructGen.Proofs.CommentLines
import StructGen.Proofs.ImportSets
import StructGen.Proofs.TagTexts
import StructGen.Proofs.WrittenModels

namespace StructGen

theorem trimRight_of_getLast? {s : String} {c : Char} (h : s.toList.getLast? = some c)
    (hc : isBlank c = false) : trimRight s = s := by
  obtain ⟨front, hfront⟩ := List.getLast?_eq_some_iff.mp h
  have hreversed : s.toList.reverse = c :: front.reverse := by
    rw [hfront, List.reverse_append, List.reverse_singleton, List.singleton_append]
  have hkept : (c :: front.reverse).dropWhile isBlank = c :: front.reverse :=
    List.dropWhile_cons_of_neg (by simp [hc])
  rw [trimRight, hreversed, hkept, ← hreversed, List.reverse_reverse, String.ofList_toList]

/-- A tag ends with a backquote. -/
theorem getLast?_formatTag (table : Table) (column : Column) (options : TagOptions) :
    (formatTag table column options).toList.getLast? = some '`' := by
  rw [formatTag_eq, String.toList_append, List.getLast?_append]
  rfl

/-- Nothing behind a tag is trimmed away. -/
theorem trimRight_append_formatTag (s : String) (table : Table) (column : Column)
    (options : TagOptions) :
    trimRight (s ++ formatTag table column options) = s ++ formatTag table column options := by
  have hlast : (s ++ formatTag table column options).toList.getLast? = some '`' := by
    rw [String.toList_append, List.getLast?_append, getLast?_formatTag]
    rfl
  exact trimRight_of_getLast? hlast (by decide)

theorem spaces_append_space (n : Nat) : spaces n ++ " " = spaces (n + 1) := by
  apply String.toList_inj.mp
  simp [spaces, List.replicate_succ']

/-- Whether a line has, behind a tab, the name of the field for a column, its type and its tag,
with one blank or more between them. -/
def WritesColumn (ctx : RenderContext) (table : Table) (column : Column) (line : String) : Prop :=
  ∃ gap gap' : Nat,
    line = "\t" ++ ctx.fieldName column.name ++ spaces (gap + 1) ++
      TypeMapping.go.fieldType column ++ spaces (gap' + 1) ++
      formatTag table column ctx.tagOptions

/-- The line of a field ends with its tag, so it is written as it was filled up. -/
theorem line_field (ctx : RenderContext) (table : Table) (column : Column)
    (nameWidth typeWidth : Nat) :
    (ctx.field table column).line nameWidth typeWidth =
      "\t" ++ padRight nameWidth (ctx.fieldName column.name) ++ " " ++
        padRight typeWidth (TypeMapping.go.fieldType column) ++ " " ++
        formatTag table column ctx.tagOptions := by
  have htag : (ctx.field table column).tag ≠ "" := formatTag_ne_empty table column ctx.tagOptions
  rw [StructField.line_of_tag htag]
  exact trimRight_append_formatTag _ table column ctx.tagOptions

theorem padRight_append_space (width : Nat) (s : String) :
    padRight width s ++ " " = s ++ spaces (width - s.length + 1) := by
  rw [padRight, String.append_assoc, spaces_append_space]

theorem writesColumn_line (ctx : RenderContext) (table : Table) (column : Column)
    (nameWidth typeWidth : Nat) :
    WritesColumn ctx table column ((ctx.field table column).line nameWidth typeWidth) := by
  refine ⟨nameWidth - (ctx.fieldName column.name).length,
    typeWidth - (TypeMapping.go.fieldType column).length, ?_⟩
  rw [line_field]
  simp only [String.append_assoc, padRight_append_space]

/-- The block that imports some packages; there is none if there are none. -/
def importBlock : List String → String
  | [] => ""
  | path :: paths =>
    "\nimport (\n" ++ unlines ((path :: paths).map fun path => "\t\"" ++ path ++ "\"") ++ ")\n"

theorem renderImports_eq_importBlock (imports : Dict String) :
    renderImports imports = importBlock imports.keys := by
  obtain ⟨entries, ascending⟩ := imports
  cases entries <;> rfl

/-- A source file put together from the packages that it imports and the texts of its structs. -/
def fileText (ctx : RenderContext) (paths blocks : List String) : String :=
  "package " ++ ctx.package ++ "\n" ++ importBlock paths ++ String.join blocks

/-- The text of a struct without its fields, up to the brace that opens it. -/
def structHead (ctx : RenderContext) (table : Table) : String :=
  "\n" ++ (if table.comment.isEmpty then "" else "// " ++ table.comment ++ "\n") ++
    "type " ++ ctx.structName table.name ++ " struct \x7b\n"

/-- Whether a text is the struct of a table: what the table's own file has behind its imports,
with one line for each column. -/
structure IsStructBlock (ctx : RenderContext) (table : Table) (block : String) : Prop where
  ownFile : renderFile ctx [table] = fileText ctx (resolveImports [table] .go).keys [block]
  layout : ∃ lines, List.Forall₂ (WritesColumn ctx table) table.columns lines ∧
    block = structHead ctx table ++ unlines lines ++ "\x7d\n"

theorem renderFile_eq_fileText (ctx : RenderContext) (tables : List Table) :
    renderFile ctx tables = fileText ctx (resolveImports tables .go).keys
      ((tables.map (renderStruct ctx)).map ("\n" ++ ·)) := by
  rw [renderFile_eq_join, fileStart, renderImports_eq_importBlock]
  rfl

theorem renderStruct_eq_structHead (ctx : RenderContext) (table : Table) :
    "\n" ++ renderStruct ctx table =
      structHead ctx table ++ unlines (fieldLines (ctx.fields table)) ++ "\x7d\n" := by
  simp only [renderStruct, structHead, String.append_assoc]

theorem isStructBlock_renderStruct (ctx : RenderContext) (table : Table) :
    IsStructBlock ctx table ("\n" ++ renderStruct ctx table) where
  ownFile := renderFile_eq_fileText ctx [table]
  layout := by
    refine ⟨fieldLines (ctx.fields table), ?_, renderStruct_eq_structHead ctx table⟩
    rw [fieldLines, RenderContext.fields, List.map_map, List.forall₂_map_right_iff,
      List.forall₂_same]
    exact fun column _ => writesColumn_line ctx table column _ _

theorem forall₂_isStructBlock (ctx : RenderContext) (tables : List Table) :
    List.Forall₂ (IsStructBlock ctx) tables ((tables.map (renderStruct ctx)).map ("\n" ++ ·)) := by
  rw [List.map_map, List.forall₂_map_right_iff, List.forall₂_same]
  exact fun table _ => isStructBlock_renderStruct ctx table

/-- The single file has, in the order of the tables, what the tables' own files have behind their
imports. -/
theorem exists_blocks_content_singleTask (config : Config) (name : String) (tables : List Table) :
    ∃ blocks : List String,
      List.Forall₂ (fun table block => (config.tableTask table).content =
        fileText config.renderContext (resolveImports [table] .go).keys [block]) tables blocks ∧
      (config.singleTask name tables).content =
        fileText config.renderContext (resolveImports tables .go).keys blocks := by
  have hblocks := forall₂_isStructBlock config.renderContext tables
  refine ⟨_, hblocks.imp fun table block hblock => ?_, ?_⟩
  · rw [content_tableTask]
    exact hblock.ownFile
  · rw [content_singleTask]
    exact renderFile_eq_fileText _ _

/-- The file of all tables imports what its parts import together, and has the struct of each
table's own file in the order of the tables. -/
theorem renderFile_append (ctx : RenderContext) (tables tables' : List Table) :
    ∃ blocks blocks' : List String,
      List.Forall₂ (IsStructBlock ctx) tables blocks ∧
      List.Forall₂ (IsStructBlock ctx) tables' blocks' ∧
      renderFile ctx (tables ++ tables') =
        fileText ctx ((resolveImports tables .go).union (resolveImports tables' .go)).keys
          (blocks ++ blocks') := by
  refine ⟨_, _, forall₂_isStructBlock ctx tables, forall₂_isStructBlock ctx tables', ?_⟩
  rw [renderFile_eq_fileText, resolveImports_append, List.map_append, List.map_append]

end StructGen
