import StructGen.Json.Record
import StructGen.Schema

namespace StructGen

open Json

namespace SqlType

def format : Record SqlType where
  title := "SqlType"
  fields := [.requiredString "name", .optionalWord "length", .optionalWord "length2"]
  make := fun (name, length, length2, _) => ⟨name, length, length2⟩
  parts := fun t => (t.name, t.length, t.length2, ())

end SqlType

namespace IndexKind

def ofKeyword? (word : String) : Option IndexKind :=
  if word = unique.keyword then some unique
  else if word = plain.keyword then some plain
  else none

def ofWord (word : String) : Except ReadError IndexKind :=
  match ofKeyword? word with
  | some kind => .ok kind
  | none => .error (.unknownVariant word [unique.keyword, plain.keyword])

/-- Reads a kind from its word, or from an object with null under that word and nothing else. -/
def read : Node → Except ReadError IndexKind
  | .string s => ofWord s
  | .object [] ending => .error ending.onOnlyKey
  | .object ((key, n) :: ms) ending => do
    let word ← key
    let kind ← ofWord word
    match n with
      | .null => pure ()
      | _ => throw (n.mismatch "unit")
    if ms.isEmpty then
      failOn ending.onOnlyMember
    else
      throw .expectedValue
    pure kind
  | .fault f => .error f.naming
  | _ => .error .expectedValue

def write (kind : IndexKind) : Node :=
  .string kind.keyword

end IndexKind

namespace Index

def format : Record Index where
  title := "Index"
  fields :=
    [.requiredString "name",
     ⟨"type", IndexKind, IndexKind.read, fun kind => some kind.write, some .plain⟩,
     .list "columns" readString .string]
  make := fun (name, kind, columns, _) => ⟨name, kind, columns⟩
  parts := fun i => (i.name, i.kind, i.columns, ())

end Index

namespace Column

def format : Record Column where
  title := "Column"
  fields :=
    [.requiredString "name", .record "type" SqlType.format,
     .set "enum_options", .set "set_options",
     .bool "primary_key" false, .bool "auto_increment" false, .bool "nullable" true,
     .string "default", .bool "created" false, .bool "updated" false,
     .string "comment", .set "indexes"]
  make := fun (name, sqlType, enumOptions, setOptions, primaryKey, autoIncrement, nullable,
      defaultLiteral, created, updated, comment, indexes, _) =>
    { name, sqlType, enumOptions, setOptions, primaryKey, autoIncrement, nullable,
      defaultLiteral, created, updated, comment, indexes }
  parts := fun c =>
    (c.name, c.sqlType, c.enumOptions, c.setOptions, c.primaryKey, c.autoIncrement, c.nullable,
     c.defaultLiteral, c.created, c.updated, c.comment, c.indexes, ())

end Column

namespace Table

def format : Record Table where
  title := "Table"
  fields :=
    [.requiredString "name", .string "comment", .list "columns" Column.format.read Column.format.write,
     .dict "indexes" Index.format]
  make := fun (name, comment, columns, indexes, _) => ⟨name, comment, columns, indexes⟩
  parts := fun t => (t.name, t.comment, t.columns, t.indexes, ())

end Table

namespace Schema

def format : Record Schema where
  title := "SchemaDocument"
  fields := [.list "tables" Table.format.read Table.format.write]
  make := fun (tables, _) => ⟨tables⟩
  parts := fun s => (s.tables, ())

end Schema

end StructGen
