import StructGen.SchemaFormat
import StructGen.Text.Padding

namespace StructGen

/-- Which parts of a field's tag are written besides the mapping itself. -/
structure TagOptions where
  json : Bool := false
  comment : Bool := false
  /-- The comment of the column inside the mapping, for databases that have such comments. -/
  inlineComment : Bool := false
  deriving DecidableEq, Inhabited

namespace TagOptions

open Json in
def format : Record TagOptions where
  title := "TagOptions"
  fields := [.bool "json" false, .bool "comment" false, .bool "supports_comment" false]
  make := fun (json, comment, inlineComment, _) => ⟨json, comment, inlineComment⟩
  parts := fun o => (o.json, o.comment, o.inlineComment, ())

end TagOptions

def occursIn (part : List Char) : List Char → Bool
  | [] => part.isEmpty
  | c :: cs => part.isPrefixOf (c :: cs) || occursIn part cs

/-- The options of a column in quotes, as the arguments of its type. They are in ascending order
because a set lists its strings so (`StringSet.mergeSort_eq_toList`). -/
def quotedOptions (options : StringSet) : String :=
  "(" ++ ",".intercalate (options.toList.map fun o => "'" ++ o ++ "'") ++ ")"

/-- The arguments of a type: its lengths if there are any, and otherwise the options. -/
def typeArguments (column : Column) : String :=
  match column.sqlType.length, column.sqlType.length2 with
  | some n, some m => "(" ++ toString n.toNat ++ "," ++ toString m.toNat ++ ")"
  | some n, none => "(" ++ toString n.toNat ++ ")"
  | none, _ =>
    if !column.enumOptions.isEmpty then quotedOptions column.enumOptions
    else if !column.setOptions.isEmpty then quotedOptions column.setOptions
    else ""

def typeSegment (column : Column) : String :=
  column.sqlType.name ++ typeArguments column

/-- A default that is cast to this type is written as the empty string. -/
def castMarker : String :=
  "character varying"

def defaultSegment (column : Column) : String :=
  if column.defaultLiteral.isEmpty then " "
  else if occursIn castMarker.toList column.defaultLiteral.toList then "default ''"
  else "default " ++ column.defaultLiteral

/-- The entry for an index; one over several columns carries its name. -/
def indexEntry (index : Index) : String :=
  if index.isComposite then index.kind.keyword ++ "(" ++ index.name ++ ")"
  else index.kind.keyword

/-- The entries for the indexes of a column that its table has, in the order of their names, which
is the order in which the set of a column lists them. -/
def indexSegments (table : Table) (column : Column) : List String :=
  (column.indexes.toList.filterMap table.indexes.get?).map indexEntry

/-- The names of the indexes of a column that its table does not have. -/
def unknownIndexes (table : Table) (column : Column) : List String :=
  column.indexes.toList.filter fun name => !table.indexes.contains name

def marker (set : Bool) (word : String) : String :=
  if set then word else " "

/-- The segments of a tag's mapping, each filled up so that the tags of neighbouring fields line
up. A primary key is never null, which is not said again. -/
def mappingSegments (table : Table) (column : Column) (options : TagOptions) : List String :=
  let indexes := indexSegments table column
  [padRight 20 (typeSegment column),
   padRight 4 (marker column.primaryKey "pk"),
   padRight 10 (marker column.autoIncrement "autoincr"),
   padRight 10 (marker column.isVersion "version"),
   padRight 10 (marker (!column.nullable && !column.primaryKey) "not null"),
   padRight 20 (defaultSegment column),
   padRight 10 (marker column.created "created"),
   padRight 10 (marker column.updated "updated")] ++
  (if indexes.isEmpty then [" "] else indexes).map (padRight 20) ++
  (if options.inlineComment && !column.comment.isEmpty then
    [padLeft 20 ("      comment('" ++ column.comment ++ "')")]
  else [])

def mappingText (table : Table) (column : Column) (options : TagOptions) : String :=
  " ".intercalate (mappingSegments table column options)

/-- The parts of a tag; the mapping is left out if it has no segments. -/
def tagParts (table : Table) (column : Column) (options : TagOptions) : List String :=
  (if options.json then ["json:\"" ++ column.name ++ "\"  "] else []) ++
  (if (mappingSegments table column options).isEmpty then []
  else ["xorm:\"" ++ mappingText table column options ++ "\""]) ++
  (if options.comment then ["  comment:\"" ++ column.comment ++ "\""] else [])

/-- The tag of a field; one without parts is empty. -/
def formatTag (table : Table) (column : Column) (options : TagOptions) : String :=
  let parts := tagParts table column options
  if parts.isEmpty then "" else "`" ++ " ".intercalate parts ++ "`"

/-- A mapping has segments for every column. -/
theorem mappingSegments_ne_nil (table : Table) (column : Column) (options : TagOptions) :
    mappingSegments table column options ≠ [] :=
  List.cons_ne_nil _ _

theorem tagParts_eq (table : Table) (column : Column) (options : TagOptions) :
    tagParts table column options =
      (if options.json then ["json:\"" ++ column.name ++ "\"  "] else []) ++
      ["xorm:\"" ++ mappingText table column options ++ "\""] ++
      (if options.comment then ["  comment:\"" ++ column.comment ++ "\""] else []) := by
  rw [tagParts, List.isEmpty_eq_false_iff.mpr (mappingSegments_ne_nil table column options)]
  rfl

/-- No tag is empty, since each has the mapping at least. -/
theorem formatTag_of_parts (table : Table) (column : Column) (options : TagOptions) :
    formatTag table column options = "`" ++ " ".intercalate (tagParts table column options) ++ "`" := by
  have hparts : (tagParts table column options).isEmpty = false := by
    rw [tagParts_eq]
    simp
  rw [formatTag, hparts]
  rfl

end StructGen
