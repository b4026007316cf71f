import StructGen.Path

namespace StructGen

inductive Level where
  | debug
  | info
  | warn
  deriving DecidableEq, Inhabited

namespace Level

def name : Level → String
  | debug => "DEBUG"
  | info => "INFO"
  | warn => "WARN"

end Level

inductive Event where
  | readingSchema (schema : Path)
  | loadedSchema (path : Path) (tables : Nat)
  /-- A column is said to be in an index that its table does not have. -/
  | unknownIndex (table column index : String)
  | wroteModels (path : Path) (tables : Nat)
  | wroteModel (path : Path) (table : String)
  | generated (files : Nat) (directory : Path)
  | created (path : Path)
  deriving DecidableEq, Inhabited

inductive EventValue where
  | text (s : String)
  | count (n : Nat)
  deriving DecidableEq, Inhabited

namespace EventValue

def toText : EventValue → String
  | text s => s
  | count n => toString n

end EventValue

namespace Event

def level : Event → Level
  | readingSchema _ | generated .. | created _ => .info
  | loadedSchema .. | wroteModels .. | wroteModel .. => .debug
  | unknownIndex .. => .warn

def message : Event → String
  | readingSchema _ => "Reading schema"
  | loadedSchema .. => "Loaded schema"
  | unknownIndex .. => "Column references an unknown index, skipping"
  | wroteModels .. => "Wrote models"
  | wroteModel .. => "Wrote model"
  | generated .. => "Generated models"
  | created path => "Created " ++ path.text

def fields : Event → List (String × EventValue)
  | readingSchema schema => [("schema", .text schema.text)]
  | loadedSchema path tables => [("path", .text path.text), ("tables", .count tables)]
  | unknownIndex table column index =>
    [("table", .text table), ("column", .text column), ("index", .text index)]
  | wroteModels path tables => [("path", .text path.text), ("tables", .count tables)]
  | wroteModel path table => [("path", .text path.text), ("table", .text table)]
  | generated files directory => [("files", .count files), ("dir", .text directory.text)]
  | created _ => []

end Event

end StructGen
