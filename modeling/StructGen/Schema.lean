import StructGen.Dict
import StructGen.Text.LowerCase

namespace StructGen

/-- The type of a column as its database names it, with its length or its precision and scale. -/
structure SqlType where
  name : String
  length : Option UInt32 := none
  length2 : Option UInt32 := none
  deriving DecidableEq, Inhabited

inductive IndexKind where
  | unique
  | plain
  deriving DecidableEq, Inhabited

namespace IndexKind

def keyword : IndexKind → String
  | unique => "unique"
  | plain => "index"

end IndexKind

structure Index where
  name : String
  kind : IndexKind := .plain
  columns : List String := []
  deriving DecidableEq, Inhabited

namespace Index

def isComposite (index : Index) : Bool :=
  decide (1 < index.columns.length)

end Index

/-- A column of a table; a new one may be null and has no constraints. -/
structure Column where
  name : String
  sqlType : SqlType
  enumOptions : StringSet := .empty
  setOptions : StringSet := .empty
  primaryKey : Bool := false
  autoIncrement : Bool := false
  nullable : Bool := true
  /-- The literal of the default value; empty if there is none. -/
  defaultLiteral : String := ""
  created : Bool := false
  updated : Bool := false
  comment : String := ""
  indexes : StringSet := .empty
  deriving DecidableEq, Inhabited

namespace Column

/-- Whether the column counts the versions of its row, which its name alone decides. -/
def isVersion (column : Column) : Bool :=
  equalIgnoringCase column.name "version"

/-- Notes the name of an index on a column that it names; other columns stay as they are. -/
def link (column : Column) (index : Index) : Column :=
  if column.name ∈ index.columns then
    { column with indexes := column.indexes.insert index.name }
  else column

end Column

/-- A table with its columns in the order of their declaration and its indexes by name. -/
structure Table where
  name : String
  comment : String := ""
  columns : List Column := []
  indexes : Dict Index := .empty
  deriving DecidableEq, Inhabited

namespace Table

def addColumn (table : Table) (column : Column) : Table :=
  { table with columns := table.columns ++ [column] }

/-- Puts an index into its place and notes its name on the columns of the table that it names.
Columns added later are not linked to it. -/
def addIndex (table : Table) (index : Index) : Table :=
  { table with
    columns := table.columns.map (·.link index)
    indexes := table.indexes.insert index.name index }

def column? (table : Table) (name : String) : Option Column :=
  table.columns.find? fun column => equalIgnoringCase column.name name

/-- The names of the columns of the primary key, in the order of declaration. -/
def primaryKeys (table : Table) : List String :=
  (table.columns.filter (·.primaryKey)).map (·.name)

end Table

/-- The description of a database: its tables in the order in which they are generated. -/
structure Schema where
  tables : List Table := []
  deriving DecidableEq, Inhabited

end StructGen
