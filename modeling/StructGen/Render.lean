import StructGen.Event
import StructGen.FieldType
import StructGen.Tag

namespace StructGen

structure RenderContext where
  package : String
  /-- From the name of a table to the name of its struct. -/
  structName : String → String
  /-- From the name of a column to the name of its field. -/
  fieldName : String → String
  tagOptions : TagOptions

structure StructField where
  name : String
  typeName : String
  tag : String
  deriving DecidableEq, Inhabited

namespace RenderContext

def field (ctx : RenderContext) (table : Table) (column : Column) : StructField where
  name := ctx.fieldName column.name
  typeName := TypeMapping.go.fieldType column
  tag := formatTag table column ctx.tagOptions

def fields (ctx : RenderContext) (table : Table) : List StructField :=
  table.columns.map (ctx.field table)

end RenderContext

def widest (texts : List String) : Nat :=
  (texts.map (·.utf8ByteSize)).foldl max 0

namespace StructField

/-- The line of a field; the type is filled up only if a tag follows it. -/
def line (nameWidth typeWidth : Nat) (f : StructField) : String :=
  trimRight
    (if f.tag.isEmpty then "\t" ++ padRight nameWidth f.name ++ " " ++ f.typeName
    else "\t" ++ padRight nameWidth f.name ++ " " ++ padRight typeWidth f.typeName ++ " " ++ f.tag)

theorem line_of_tag {f : StructField} (h : f.tag ≠ "") (nameWidth typeWidth : Nat) :
    f.line nameWidth typeWidth = trimRight
      ("\t" ++ padRight nameWidth f.name ++ " " ++ padRight typeWidth f.typeName ++ " " ++ f.tag) := by
  rw [line, if_neg fun hempty => h (String.isEmpty_iff.mp hempty)]

end StructField

def fieldLines (fields : List StructField) : List String :=
  let nameWidth := widest (fields.map (·.name))
  let typeWidth := widest (fields.map (·.typeName))
  fields.map (·.line nameWidth typeWidth)

def unlines (lines : List String) : String :=
  String.join (lines.map (· ++ "\n"))

def renderStruct (ctx : RenderContext) (table : Table) : String :=
  (if table.comment.isEmpty then "" else "// " ++ table.comment ++ "\n") ++
  "type " ++ ctx.structName table.name ++ " struct \x7b\n" ++
  unlines (fieldLines (ctx.fields table)) ++
  "\x7d\n"

/-- The import block, which is left out if there is nothing to import. -/
def renderImports (imports : Dict String) : String :=
  if imports.isEmpty then ""
  else "\nimport (\n" ++ unlines (imports.keys.map fun path => "\t\"" ++ path ++ "\"") ++ ")\n"

def renderFile (ctx : RenderContext) (tables : List Table) : String :=
  "package " ++ ctx.package ++ "\n" ++
  renderImports (resolveImports tables .go) ++
  String.join (tables.map fun table => "\n" ++ renderStruct ctx table)

/-- The warnings that come with the tags of some tables. -/
def tagWarnings (tables : List Table) : List Event :=
  tables.flatMap fun table => table.columns.flatMap fun column =>
    (unknownIndexes table column).map (.unknownIndex table.name column.name)

end StructGen
