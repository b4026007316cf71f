import StructGen.Json.ReadError

namespace StructGen

namespace Json

inductive ArrayEnd where
  | closed
  /-- The text ends where a comma or the closing bracket is due. -/
  | cut
  | cutAfterComma
  | trailingComma
  /-- Something else stands where a comma or the closing bracket is due. -/
  | unseparated
  deriving DecidableEq, Inhabited

inductive ObjectEnd where
  | closed
  | cut
  | cutAfterComma
  | trailingComma
  | unseparated
  /-- Something other than a string stands where a key is due. -/
  | badKey
  deriving DecidableEq, Inhabited

/-- Why there is no value at a place, for three readers: one who wants a value, one who only passes
over it and may get by, and one who takes nothing but strings and objects and so never looks into
a broken word or number. -/
structure Fault where
  reading : ReadError
  skipping : Option ReadError
  naming : ReadError
  deriving DecidableEq, Inhabited

def Fault.same (e : ReadError) : Fault :=
  ⟨e, some e, e⟩

/-- A JSON value as far as it could be read. The text of a document is read into a tree once;
where it is no JSON, the tree holds the reason, so that whoever walks the tree in the order of
the text meets the first fault first. -/
inductive Node where
  | null
  | bool (b : Bool)
  | number (n : Number)
  | string (s : String)
  | array (items : List Node) (ending : ArrayEnd)
  | object (members : List (Except ReadError String × Node)) (ending : ObjectEnd)
  | fault (f : Fault)
  deriving Inhabited

abbrev Member := Except ReadError String × Node

def failOn : Option ReadError → Except ReadError Unit
  | none => .ok ()
  | some e => .error e

namespace ArrayEnd

/-- What is wrong for a reader who asks for one more value. -/
def onNext : ArrayEnd → Option ReadError
  | closed => none
  | cut => some .endInArray
  | cutAfterComma => some .endInValue
  | trailingComma => some .trailingComma
  | unseparated => some .expectedCommaOrBracket

/-- What is wrong for a reader who needs no more values. -/
def onClose : ArrayEnd → Option ReadError
  | closed => none
  | cut => some .endInArray
  | trailingComma => some .trailingComma
  | cutAfterComma | unseparated => some .trailingCharacters

def onSkip : ArrayEnd → Option ReadError
  | closed => none
  | cut => some .endInArray
  | cutAfterComma => some .endInValue
  | trailingComma => some .expectedValue
  | unseparated => some .expectedCommaOrBracket

end ArrayEnd

namespace ObjectEnd

def onNext : ObjectEnd → Option ReadError
  | closed => none
  | cut => some .endInObject
  | cutAfterComma => some .endInValue
  | trailingComma => some .trailingComma
  | unseparated => some .expectedCommaOrBrace
  | badKey => some .keyNotString

def onSkip : ObjectEnd → Option ReadError
  | closed => none
  | cut | cutAfterComma => some .endInObject
  | trailingComma | badKey => some .keyNotString
  | unseparated => some .expectedCommaOrBrace

/-- What is wrong for a reader who wants a single key and finds none. -/
def onOnlyKey : ObjectEnd → ReadError
  | cut => .endInObject
  | badKey => .keyNotString
  | _ => .expectedValue

/-- What is wrong for a reader who wants the object to close after its single member. -/
def onOnlyMember : ObjectEnd → Option ReadError
  | closed => none
  | cut => some .endInObject
  | _ => some .expectedValue

end ObjectEnd

namespace Node

mutual

def skip : Node → Except ReadError Unit
  | array items ending => do
    skipItems items
    failOn ending.onSkip
  | object members ending => do
    skipMembers members
    failOn ending.onSkip
  | fault f => failOn f.skipping
  | _ => .ok ()

def skipItems : List Node → Except ReadError Unit
  | [] => .ok ()
  | n :: ns => do
    skip n
    skipItems ns

def skipMembers : List (Except ReadError String × Node) → Except ReadError Unit
  | [] => .ok ()
  | (_, n) :: ms => do
    skip n
    skipMembers ms

end

/-- What stands here, or the reason why nothing does. -/
def found : Node → Except ReadError Found
  | null => .ok .null
  | bool b => .ok (.bool b)
  | number n => .ok (.number n)
  | string s => .ok (.string s)
  | array .. => .ok .array
  | object .. => .ok .object
  | fault f => .error f.reading

/-- The error of a reader who expects something else here. -/
def mismatch (n : Node) (expected : String) : ReadError :=
  match n.found with
  | .ok found => .wrongType found expected
  | .error e => e

end Node

end Json

end StructGen
