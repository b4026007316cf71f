import StructGen.Value

namespace StructGen

namespace Value

/-- Whether two values of one kind are equal; lists are of one kind but have no equality. -/
def equals (a b : Value) : Except CompareError Bool := do
  let ka ← a.kind
  let kb ← b.kind
  if ka ≠ kb then
    throw .incompatible
  match a, b with
  | bool x, bool y => pure (x == y)
  | int x, int y => pure (x == y)
  | uint x, uint y => pure (x == y)
  | float x, float y => pure (x.equals y)
  | complex z, complex w => pure (z.equals w)
  | string s, string t => pure (s == t)
  | _, _ => throw .invalidType

/-- Whether a value equals one of the candidates. They are tried in order and the first answer
other than `false` decides, so what follows it is never looked at. -/
def equalsSome (a : Value) : List Value → Except CompareError Bool
  | [] => pure false
  | c :: cs => do
    if ← a.equals c then
      pure true
    else
      a.equalsSome cs

def eq (a : Value) (candidates : List Value) : Except CompareError Bool := do
  let _ ← a.kind
  if candidates.isEmpty then
    throw .missingArgument
  a.equalsSome candidates

def lt (a b : Value) : Except CompareError Bool := do
  let ka ← a.kind
  let kb ← b.kind
  if ka ≠ kb then
    throw .incompatible
  if !ka.isOrderable then
    throw .invalidType
  match a, b with
  | int x, int y => pure (decide (x < y))
  | uint x, uint y => pure (decide (x < y))
  | float x, float y => pure (x.less y)
  | string s, string t => pure (decide (s < t))
  | _, _ => throw .invalidType

/-- Below or equal: equality is asked for only if the values are not in order. -/
def le (a b : Value) : Except CompareError Bool := do
  if ← a.lt b then
    pure true
  else
    a.eq [b]

def gt (a b : Value) : Except CompareError Bool :=
  (!·) <$> a.le b

def ge (a b : Value) : Except CompareError Bool :=
  (!·) <$> a.lt b

def ne (a b : Value) : Except CompareError Bool :=
  (!·) <$> a.eq [b]

end Value

end StructGen
