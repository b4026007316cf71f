import StructGen.Comparison
import StructGen.Dict
import StructGen.Distinct
import StructGen.Text.LowerCase
import StructGen.Text.Quoted

namespace StructGen

inductive Arity where
  | exactly (n : Nat)
  | atLeast (n : Nat)
  deriving DecidableEq, Inhabited

namespace Arity

def describe : Arity → String
  | exactly n => toString n
  | atLeast n => "at least " ++ toString n

end Arity

inductive CallError where
  | compare (e : CompareError)
  | unknownFunction (name : String)
  | argumentCount (name : String) (expected : Arity) (got : Nat)
  | argumentType (name : String) (index : Nat) (expected : String)
  deriving DecidableEq, Inhabited

namespace CallError

def message : CallError → String
  | compare e => e.message
  | unknownFunction name => "function \"" ++ name ++ "\" not defined"
  | argumentCount name expected got =>
    "wrong number of args for " ++ name ++ ": want " ++ expected.describe ++ " got " ++ toString got
  | argumentType name index expected =>
    "wrong type for argument " ++ toString index ++ " of " ++ name ++ ": expected " ++ expected

end CallError

abbrev TemplateFunction := List Value → Except CallError Value

def comparisonResult (answer : Except CompareError Bool) : Except CallError Value :=
  match answer with
  | .ok b => .ok (.bool b)
  | .error e => .error (.compare e)

/-- Equality of the first argument with some of the others. -/
def callEq : TemplateFunction
  | [] => .error (.argumentCount "eq" (.atLeast 1) 0)
  | a :: candidates => comparisonResult (a.eq candidates)

def callComparison (name : String) (compare : Value → Value → Except CompareError Bool) :
    TemplateFunction
  | [a, b] => comparisonResult (compare a b)
  | args => .error (.argumentCount name (.exactly 2) args.length)

/-- The strings of a list that holds nothing else. -/
def stringItems? (items : List Value) : Option (List String) :=
  items.mapM Value.asString?

def callDistinct : TemplateFunction
  | [.list items] =>
    match stringItems? items with
    | some ss => .ok (.list ((distinct ss).map .string))
    | none => .error (.argumentType "distinct" 0 "list of strings")
  | [_] => .error (.argumentType "distinct" 0 "list of strings")
  | args => .error (.argumentCount "distinct" (.exactly 1) args.length)

def callUnTitle : TemplateFunction
  | [.string s] => .ok (.string (unTitle s))
  | [_] => .error (.argumentType "UnTitle" 0 "string")
  | args => .error (.argumentCount "UnTitle" (.exactly 1) args.length)

structure FunctionTable where
  functions : Dict TemplateFunction

inductive FunctionOperation where
  | register (name : String) (f : TemplateFunction)
  | call (name : String) (args : List Value)

namespace FunctionTable

def empty : FunctionTable :=
  ⟨.empty⟩

/-- Gives a name to a function; an earlier function of the name is replaced. -/
def register (table : FunctionTable) (name : String) (f : TemplateFunction) : FunctionTable :=
  ⟨table.functions.insert name f⟩

def builtins : List (String × TemplateFunction) :=
  [("eq", callEq), ("ne", callComparison "ne" Value.ne), ("lt", callComparison "lt" Value.lt),
   ("le", callComparison "le" Value.le), ("gt", callComparison "gt" Value.gt),
   ("ge", callComparison "ge" Value.ge), ("distinct", callDistinct), ("UnTitle", callUnTitle)]

def standard : FunctionTable :=
  builtins.foldl (fun table (name, f) => table.register name f) empty

instance : Inhabited FunctionTable := ⟨standard⟩

def contains (table : FunctionTable) (name : String) : Bool :=
  table.functions.contains name

def names (table : FunctionTable) : List String :=
  table.functions.keys

def call (table : FunctionTable) (name : String) (args : List Value) : Except CallError Value :=
  match table.functions.get? name with
  | some f => f args
  | none => .error (.unknownFunction name)

/-- The table after an operation, and the answer if it is a call. -/
def perform (table : FunctionTable) :
    FunctionOperation → FunctionTable × Option (Except CallError Value)
  | .register name f => (table.register name f, none)
  | .call name args => (table, some (table.call name args))

/-- The table after some operations, and the answers of the calls among them. -/
def run (table : FunctionTable) :
    List FunctionOperation → FunctionTable × List (Except CallError Value)
  | [] => (table, [])
  | operation :: operations =>
    let (next, answer) := table.perform operation
    let (last, answers) := next.run operations
    (last, answer.toList ++ answers)

/-- The names in quotes between braces. -/
def describe (table : FunctionTable) : String :=
  "\x7b" ++ ", ".intercalate (table.names.map quoted) ++ "\x7d"

end FunctionTable

end StructGen
