import StructGen.ShortestDecimal
import StructGen.Text.Quoted

namespace StructGen

namespace Json

/-- A number as it is read: whole numbers of 64 bits are exact. -/
inductive Number where
  | whole (n : Int)
  | float (x : Binary64)
  deriving DecidableEq, Inhabited

/-- What stands in a document, as far as an error message tells. -/
inductive Found where
  | null
  | bool (b : Bool)
  | number (n : Number)
  | string (s : String)
  | array
  | object
  deriving DecidableEq, Inhabited

/-- Doubles are written without an exponent mark from `0.00001` up to sixteen digits. -/
def numberLayout : DecimalLayout :=
  ⟨-5, 15⟩

namespace Found

def describe : Found → String
  | null => "null"
  | bool b => "boolean `" ++ (if b then "true" else "false") ++ "`"
  | number (.whole n) => "integer `" ++ toString n ++ "`"
  | number (.float x) => "floating point `" ++ numberLayout.writeDouble x ++ "`"
  | string s => "string " ++ quoted s
  | array => "sequence"
  | object => "map"

end Found

inductive ReadError where
  | endInValue
  | endInArray
  | endInObject
  | endInString
  | expectedValue
  | expectedWord
  | expectedColon
  | expectedCommaOrBracket
  | expectedCommaOrBrace
  | keyNotString
  | trailingComma
  | trailingCharacters
  | invalidNumber
  | numberOutOfRange
  | invalidEscape
  | controlCharacter
  | loneSurrogate
  | unfinishedSurrogate
  | wrongType (found : Found) (expected : String)
  | wrongValue (n : Int) (expected : String)
  | wrongLength (count : Nat) (record : String) (fields : Nat)
  | missingField (name : String)
  | duplicateField (name : String)
  | unknownVariant (name : String) (known : List String)
  deriving DecidableEq, Inhabited

/-- The text ended early, the text is no JSON, or the JSON is no such record. -/
inductive ErrorClass where
  | ended
  | malformed
  | unfit
  deriving DecidableEq, Inhabited

namespace ReadError

def errorClass : ReadError → ErrorClass
  | endInValue | endInArray | endInObject | endInString => .ended
  | wrongType .. | wrongValue .. | wrongLength .. | missingField _ | duplicateField _
  | unknownVariant .. => .unfit
  | _ => .malformed

def backquoted (s : String) : String :=
  "`" ++ s ++ "`"

/-- What is shown of an error, without the line and the column at which it was noticed. -/
def message : ReadError → String
  | endInValue => "EOF while parsing a value"
  | endInArray => "EOF while parsing a list"
  | endInObject => "EOF while parsing an object"
  | endInString => "EOF while parsing a string"
  | expectedValue => "expected value"
  | expectedWord => "expected ident"
  | expectedColon => "expected `:`"
  | expectedCommaOrBracket => "expected `,` or `]`"
  | expectedCommaOrBrace => "expected `,` or `\x7d`"
  | keyNotString => "key must be a string"
  | trailingComma => "trailing comma"
  | trailingCharacters => "trailing characters"
  | invalidNumber => "invalid number"
  | numberOutOfRange => "number out of range"
  | invalidEscape => "invalid escape"
  | controlCharacter => "control character (\\u0000-\\u001F) found while parsing a string"
  | loneSurrogate => "lone leading surrogate in hex escape"
  | unfinishedSurrogate => "unexpected end of hex escape"
  | wrongType found expected => "invalid type: " ++ found.describe ++ ", expected " ++ expected
  | wrongValue n expected =>
    "invalid value: " ++ (Found.number (.whole n)).describe ++ ", expected " ++ expected
  | wrongLength count record fields =>
    "invalid length " ++ toString count ++ ", expected struct " ++ record ++ " with " ++
      toString fields ++ (if fields = 1 then " element" else " elements")
  | missingField name => "missing field " ++ backquoted name
  | duplicateField name => "duplicate field " ++ backquoted name
  | unknownVariant name known =>
    "unknown variant " ++ backquoted name ++ ", expected " ++
      " or ".intercalate (known.map backquoted)

end ReadError

end Json

end StructGen
