import StructGen.Dict
import StructGen.Json.Document

namespace StructGen

namespace Json

/-- A field of a record: how its value is read and written, and the value that it has when it is
left out, without which it is required. A value may be left out when it is written. -/
structure Field where
  name : String
  Carrier : Type
  read : Node → Except ReadError Carrier
  write : Carrier → Option Node
  absent : Option Carrier

abbrev Values : List Field → Type
  | [] => Unit
  | f :: fs => f.Carrier × Values fs

/-- The values of a record while its members are read. -/
abbrev Draft : List Field → Type
  | [] => Unit
  | f :: fs => Option f.Carrier × Draft fs

def emptyDraft : (fs : List Field) → Draft fs
  | [] => ()
  | _ :: fs => (none, emptyDraft fs)

/-- Reads one member into a draft. A key that is no field is passed over, whatever its value. -/
def readMember : (fs : List Field) → String → Node → Draft fs → Except ReadError (Draft fs)
  | [], _, n, draft => do
    n.skip
    pure draft
  | f :: fs, key, n, (value, draft) =>
    if f.name = key then
      match value with
      | some _ => .error (.duplicateField key)
      | none => do
        let v ← f.read n
        pure (some v, draft)
    else do
      let rest ← readMember fs key n draft
      pure (value, rest)

def readMembers (fs : List Field) : List Member → Draft fs → Except ReadError (Draft fs)
  | [], draft => pure draft
  | (key, n) :: ms, draft => do
    let name ← key
    let next ← readMember fs name n draft
    readMembers fs ms next

/-- The values of a draft, with those of fields that were left out. -/
def finishDraft : (fs : List Field) → Draft fs → Except ReadError (Values fs)
  | [], _ => pure ()
  | f :: fs, (value, draft) => do
    let v ← match value <|> f.absent with
      | some v => pure v
      | none => throw (.missingField f.name)
    let rest ← finishDraft fs draft
    pure (v, rest)

/-- Reads the items of an array as the values of the fields in their order. -/
def readItems (length : Nat → ReadError) :
    (fs : List Field) → Nat → List Node → ArrayEnd → Except ReadError (Values fs)
  | [], _, [], ending => failOn ending.onClose
  | [], _, _ :: _, _ => .error .trailingCharacters
  | f :: fs, i, n :: ns, ending => do
    let v ← f.read n
    let rest ← readItems length fs (i + 1) ns ending
    pure (v, rest)
  | f :: fs, i, [], ending => do
    failOn ending.onNext
    let v ← match f.absent with
      | some v => pure v
      | none => throw (length i)
    let rest ← readItems length fs (i + 1) [] ending
    pure (v, rest)

def writeMembers : (fs : List Field) → Values fs → List Member
  | [], _ => []
  | f :: fs, (v, rest) =>
    match f.write v with
    | some n => (.ok f.name, n) :: writeMembers fs rest
    | none => writeMembers fs rest

/-- How records of a type are written in JSON: as an object of named fields, for which reading
also takes an array of the fields in their order. -/
structure Record (α : Type) where
  title : String
  fields : List Field
  make : Values fields → α
  parts : α → Values fields

namespace Record

variable {α : Type}

def read (r : Record α) : Node → Except ReadError α
  | .object members ending => do
    let draft ← readMembers r.fields members (emptyDraft r.fields)
    failOn ending.onNext
    r.make <$> finishDraft r.fields draft
  | .array items ending =>
    r.make <$> readItems (.wrongLength · r.title r.fields.length) r.fields 0 items ending
  | n => .error (n.mismatch ("struct " ++ r.title))

def write (r : Record α) (x : α) : Node :=
  .object (writeMembers r.fields (r.parts x)) .closed

end Record

def readString : Node → Except ReadError String
  | .string s => .ok s
  | n => .error (n.mismatch "a string")

def readBool : Node → Except ReadError Bool
  | .bool b => .ok b
  | n => .error (n.mismatch "a boolean")

/-- Reads a number from 0 to `2 ^ 32 - 1`. -/
def readWord : Node → Except ReadError UInt32
  | .number (.whole n) =>
    if 0 ≤ n ∧ n < UInt32.size then .ok (UInt32.ofNat n.toNat) else .error (.wrongValue n "u32")
  | n => .error (n.mismatch "u32")

def readOptional {α : Type} (read : Node → Except ReadError α) :
    Node → Except ReadError (Option α)
  | .null => .ok none
  | n => some <$> read n

def readList {α : Type} (read : Node → Except ReadError α) : Node → Except ReadError (List α)
  | .array items ending => do
    let values ← items.mapM read
    failOn ending.onNext
    pure values
  | n => .error (n.mismatch "a sequence")

def readSet (n : Node) : Except ReadError StringSet :=
  StringSet.ofList <$> readList readString n

/-- Reads the members of an object in their order; of two with one key the later one stays. -/
def readEntries {α : Type} (read : Node → Except ReadError α) :
    List Member → Dict α → Except ReadError (Dict α)
  | [], d => pure d
  | (key, n) :: ms, d => do
    let name ← key
    let value ← read n
    readEntries read ms (d.insert name value)

def readDict {α : Type} (read : Node → Except ReadError α) : Node → Except ReadError (Dict α)
  | .object members ending => do
    let d ← readEntries read members .empty
    failOn ending.onNext
    pure d
  | n => .error (n.mismatch "a map")

def writeWord (w : UInt32) : Node :=
  .number (.whole w.toNat)

def writeList {α : Type} (write : α → Node) (xs : List α) : Node :=
  .array (xs.map write) .closed

def writeDict {α : Type} (write : α → Node) (d : Dict α) : Node :=
  .object (d.entries.map fun (key, value) => (.ok key, write value)) .closed

namespace Field

def requiredString (name : String) : Field :=
  ⟨name, String, readString, fun s => some (.string s), none⟩

def string (name : String) : Field :=
  ⟨name, String, readString, fun s => some (.string s), some ""⟩

def bool (name : String) (absent : Bool) : Field :=
  ⟨name, Bool, readBool, fun b => some (.bool b), some absent⟩

def optionalWord (name : String) : Field :=
  ⟨name, Option UInt32, readOptional readWord, Option.map writeWord, some none⟩

def set (name : String) : Field :=
  ⟨name, StringSet, readSet,
    fun s => if s.isEmpty then none else some (writeList .string s.toList), some .empty⟩

def record {α : Type} (name : String) (r : Record α) : Field :=
  ⟨name, α, r.read, fun x => some (r.write x), none⟩

def list {α : Type} (name : String) (read : Node → Except ReadError α) (write : α → Node) : Field :=
  ⟨name, List α, readList read, fun xs => some (writeList write xs), some []⟩

def dict {α : Type} (name : String) (r : Record α) : Field :=
  ⟨name, Dict α, readDict r.read, fun d => some (writeDict r.write d), some .empty⟩

end Field

end Json

end StructGen
