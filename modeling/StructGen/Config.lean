import StructGen.Identifier
import StructGen.Render

namespace StructGen

inductive Dialect where
  | mysql
  | postgres
  | sqlite
  | mssql
  deriving DecidableEq, Inhabited

namespace Dialect

/-- Whether comments of columns can be part of the mapping in a tag. -/
def supportsComment : Dialect → Bool
  | mysql => true
  | postgres | sqlite | mssql => false

def name : Dialect → String
  | mysql => "mysql"
  | postgres => "postgres"
  | sqlite => "sqlite"
  | mssql => "mssql"

def ofName? (name : String) : Option Dialect :=
  [mysql, postgres, sqlite, mssql].find? (·.name == name)

end Dialect

namespace NameStyle

def name : NameStyle → String
  | snake => "snake"
  | same => "same"
  | gonic => "gonic"

def ofName? (name : String) : Option NameStyle :=
  [snake, same, gonic].find? (·.name == name)

end NameStyle

structure Config where
  schema : Path
  outputDir : Path := ⟨"models"⟩
  package : String := "models"
  dialect : Dialect := .mysql
  nameStyle : NameStyle := .gonic
  /-- A start that is left out of the names of tables. -/
  tableStart : Option String := none
  json : Bool := false
  comment : Bool := false
  /-- The file for all structs, instead of one file for each table. -/
  singleFile : Option String := none
  deriving DecidableEq, Inhabited

namespace Config

def tagOptions (config : Config) : TagOptions where
  json := config.json
  comment := config.comment
  inlineComment := config.dialect.supportsComment

def columnName (config : Config) : String → String :=
  config.nameStyle.identifier

def tableName (config : Config) : String → String :=
  config.nameStyle.identifierWithout config.tableStart

def renderContext (config : Config) : RenderContext where
  package := config.package
  structName := config.tableName
  fieldName := config.columnName
  tagOptions := config.tagOptions

end Config

end StructGen
