import StructGen.Schema

namespace StructGen

/-- The package that a type name needs: what stands before the first point, pointers and slices
left aside. -/
def qualifier? (typeName : String) : Option String :=
  let name := typeName.toList.dropWhile fun c => c == '*' || c == '[' || c == ']'
  let package := name.takeWhile (· != '.')
  if package.length < name.length && !package.isEmpty then some (String.ofList package) else none

/-- A choice of field types for columns, with the packages that these types need. -/
structure TypeMapping where
  typeName : Column → String
  importPath : String → Option String := qualifier?

/-- The field type of a column; a slice of bytes has one spelling. -/
def TypeMapping.fieldType (mapping : TypeMapping) (column : Column) : String :=
  let name := mapping.typeName column
  if name = "[]uint8" then "[]byte" else name

/-- The field types of the SQL types; any other SQL type is kept as a string. -/
def goTypes : List (String × List String) :=
  [("int", ["BIT", "TINYINT", "SMALLINT", "MEDIUMINT", "INT", "INTEGER", "SERIAL"]),
   ("int64", ["BIGINT", "BIGSERIAL"]),
   ("float32", ["FLOAT", "REAL"]),
   ("float64", ["DOUBLE"]),
   ("[]byte", ["TINYBLOB", "BLOB", "MEDIUMBLOB", "LONGBLOB", "BYTEA", "BINARY", "VARBINARY",
     "UNIQUEIDENTIFIER"]),
   ("bool", ["BOOL"]),
   ("time.Time", ["DATETIME", "DATE", "TIME", "TIMESTAMP", "TIMESTAMPZ", "SMALLDATETIME",
     "YEAR"])]

def goType (sqlType : String) : String :=
  match goTypes.find? fun (_, names) => asciiUpper sqlType ∈ names with
  | some (name, _) => name
  | none => "string"

def TypeMapping.go : TypeMapping where
  typeName := fun column => goType column.sqlType.name

def resolveImports (tables : List Table) (mapping : TypeMapping) : Dict String :=
  let paths := (tables.flatMap (·.columns)).filterMap fun column =>
    mapping.importPath (mapping.fieldType column)
  paths.foldl (fun imports path => imports.insert path path) .empty

end StructGen
