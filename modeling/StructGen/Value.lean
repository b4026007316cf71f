import StructGen.Binary64

namespace StructGen

structure Complex where
  re : Binary64
  im : Binary64
  deriving DecidableEq, Inhabited

namespace Complex

def equals (z w : Complex) : Bool :=
  z.re.equals w.re && z.im.equals w.im

end Complex

inductive Kind where
  | bool
  | int
  | uint
  | float
  | complex
  | string
  | list
  deriving DecidableEq, Inhabited

namespace Kind

/-- Only numbers on a line and strings have an order. -/
def isOrderable : Kind → Bool
  | int | uint | float | string => true
  | bool | complex | list => false

def name : Kind → String
  | bool => "bool"
  | int => "int"
  | uint => "uint"
  | float => "float"
  | complex => "complex"
  | string => "string"
  | list => "slice"

end Kind

/-- A value handed to a template function. The entries of a map have ascending keys. -/
inductive Value where
  | nil
  | bool (b : Bool)
  | int (n : Int64)
  | uint (n : UInt64)
  | float (x : Binary64)
  | complex (z : Complex)
  | string (s : String)
  | list (items : List Value)
  | map (entries : List (String × Value))
  deriving Inhabited

inductive CompareError where
  /-- A value has no kind, or its kind does not have the operation. -/
  | invalidType
  | incompatible
  /-- Equality without anything to compare with. -/
  | missingArgument
  deriving DecidableEq, Inhabited

namespace CompareError

def message : CompareError → String
  | invalidType => "invalid type for comparison"
  | incompatible => "incompatible types for comparison"
  | missingArgument => "missing argument for comparison"

end CompareError

namespace Value

/-- The kind of a value; nil and maps have none. -/
def kind : Value → Except CompareError Kind
  | bool _ => .ok .bool
  | int _ => .ok .int
  | uint _ => .ok .uint
  | float _ => .ok .float
  | complex _ => .ok .complex
  | string _ => .ok .string
  | list _ => .ok .list
  | nil | map _ => .error .invalidType

def asString? : Value → Option String
  | string s => some s
  | _ => none

def asBool? : Value → Option Bool
  | bool b => some b
  | _ => none

def asList? : Value → Option (List Value)
  | list items => some items
  | _ => none

end Value

end StructGen
