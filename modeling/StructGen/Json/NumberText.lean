import StructGen.Json.ReadError

namespace StructGen

namespace Json

structure NumberText where
  negative : Bool
  whole : List Nat
  fraction : Option (List Nat)
  /-- The sign, if one is written, and the digits. -/
  exponent : Option (Option Char × List Nat)

/-- Why a number's text breaks off: at the end of the document, or before another character. -/
inductive NumberFault where
  | cut
  | misplaced

def isDigit (c : Char) : Bool :=
  decide ('0' ≤ c ∧ c ≤ '9')

def digitValue (c : Char) : Nat :=
  c.toNat - '0'.toNat

/-- One or more digits at the start of a text, and what follows them. -/
def digits (cs : List Char) : Except NumberFault (List Nat × List Char) :=
  match cs.takeWhile isDigit, cs with
  | [], [] => .error .cut
  | [], _ :: _ => .error .misplaced
  | ds, _ => .ok (ds.map digitValue, cs.dropWhile isDigit)

def fractionPart : List Char → Except NumberFault (Option (List Nat) × List Char)
  | '.' :: cs => do
    let (ds, rest) ← digits cs
    pure (some ds, rest)
  | cs => pure (none, cs)

def exponentPart : List Char → Except NumberFault (Option (Option Char × List Nat) × List Char)
  | c :: cs =>
    if c = 'e' ∨ c = 'E' then do
      let (sign, cs) := match cs with
        | '+' :: rest => (some '+', rest)
        | '-' :: rest => (some '-', rest)
        | _ => (none, cs)
      let (ds, rest) ← digits cs
      pure (some (sign, ds), rest)
    else pure (none, c :: cs)
  | [] => pure (none, [])

namespace NumberText

/-- Reads a number from the start of a text; a zero is not followed by a digit. -/
def scan (cs : List Char) : Except NumberFault NumberText := do
  let (negative, cs) := match cs with
    | '-' :: rest => (true, rest)
    | _ => (false, cs)
  let (whole, cs) ← digits cs
  if whole.head? = some 0 ∧ whole.length ≠ 1 then
    throw .misplaced
  let (fraction, cs) ← fractionPart cs
  let (exponent, _) ← exponentPart cs
  pure ⟨negative, whole, fraction, exponent⟩

def extent (t : NumberText) : Nat :=
  let fraction := match t.fraction with
    | some ds => 1 + ds.length
    | none => 0
  let exponent := match t.exponent with
    | some (some _, ds) => 2 + ds.length
    | some (none, ds) => 1 + ds.length
    | none => 0
  (if t.negative then 1 else 0) + t.whole.length + fraction + exponent

end NumberText

/-- Appends digits to a number as long as it stays below `2 ^ 64`; the rest is left over. -/
def appendDigits : Nat → List Nat → Nat × List Nat
  | m, [] => (m, [])
  | m, d :: ds => if m * 10 + d < Nat.pow 2 64 then appendDigits (m * 10 + d) ds else (m, d :: ds)

def powerOfTen (e : Nat) : Binary64 :=
  Binary64.ofNat (Nat.pow 10 e)

/-- Divides a double by `10 ^ e`, at most `10 ^ 308` at a time. -/
def shiftDown (x : Binary64) (e : Nat) : Binary64 :=
  if e ≤ 308 then x.div (powerOfTen e)
  else if x.isZero then x
  else shiftDown (x.div (powerOfTen 308)) (e - 308)
termination_by e

/-- The double for `m * 10 ^ e`, rounded once as `m` becomes a double and once as it is scaled;
none if it is too large. -/
def scaled (m : Nat) (e : Int) : Option Binary64 :=
  let x := Binary64.ofNat m
  if e < 0 then some (shiftDown x e.natAbs)
  else if 308 < e then
    if m = 0 then some x else none
  else
    let y := x.mul (powerOfTen e.toNat)
    if y.isInfinite then none else some y

def valueOfDigits (ds : List Nat) : Nat :=
  ds.foldl (fun n d => n * 10 + d) 0

namespace NumberText

/-- The double of a number's text. Digits that do not fit into 64 bits count only as places. -/
def toDouble (t : NumberText) : Except ReadError Binary64 :=
  let (m, dropped) := appendDigits 0 t.whole
  let fraction := t.fraction.getD []
  let (m, ignored) := appendDigits m fraction
  let places : Int := (dropped.length : Int) - ((fraction.length - ignored.length : Nat) : Int)
  let result := match t.exponent with
    | none => scaled m places
    | some (sign, ds) =>
      let e := valueOfDigits ds
      let negative := sign == some '-'
      if Nat.pow 2 31 ≤ e then
        if m = 0 ∨ negative then some (Binary64.zero false) else none
      else scaled m (places + if negative then -(e : Int) else e)
  match result with
  | some x => .ok (x.withSign t.negative)
  | none => .error .numberOutOfRange

/-- The number of a text: whole if it has neither point nor exponent and fits into 64 bits,
unsigned without a sign and signed with one; minus zero is a double. -/
def toNumber (t : NumberText) : Except ReadError Number :=
  let n := valueOfDigits t.whole
  let plain := t.fraction.isNone && t.exponent.isNone
  if plain && !t.negative && decide (n < Nat.pow 2 64) then .ok (.whole n)
  else if plain && t.negative && decide (0 < n ∧ n ≤ Nat.pow 2 63) then .ok (.whole (-n))
  else .float <$> t.toDouble

end NumberText

end Json

end StructGen
