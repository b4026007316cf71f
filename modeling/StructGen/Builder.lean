import StructGen.Schema

namespace StructGen

/-- What a program can set on a new column besides its name and type. -/
inductive ColumnSetting where
  | primaryKey
  | autoIncrement
  | notNull
  | defaultLiteral (literal : String)
  | created
  | updated
  | comment (comment : String)
  | enumOptions (options : List String)
  | setOptions (options : List String)
  deriving DecidableEq

def Column.set (column : Column) : ColumnSetting → Column
  | .primaryKey => { column with primaryKey := true }
  | .autoIncrement => { column with autoIncrement := true }
  | .notNull => { column with nullable := false }
  | .defaultLiteral literal => { column with defaultLiteral := literal }
  | .created => { column with created := true }
  | .updated => { column with updated := true }
  | .comment comment => { column with comment }
  | .enumOptions options => { column with enumOptions := .ofList options }
  | .setOptions options => { column with setOptions := .ofList options }

/-- A column as a program makes it, one setting after the other. -/
structure NewColumn where
  name : String
  sqlType : SqlType
  settings : List ColumnSetting := []
  deriving DecidableEq

def NewColumn.column (new : NewColumn) : Column :=
  new.settings.foldl Column.set { name := new.name, sqlType := new.sqlType }

/-- What a program does next to a table that it builds. -/
inductive TableStep where
  | column (new : NewColumn)
  | index (index : Index)
  deriving DecidableEq

namespace Table

def extend (table : Table) : TableStep → Table
  | .column new => table.addColumn new.column
  | .index index => table.addIndex index

/-- The table that some steps make of an empty one. -/
def construct (name : String) (steps : List TableStep) : Table :=
  steps.foldl extend { name }

end Table

end StructGen
