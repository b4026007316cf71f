import StructGen.Binary64

namespace StructGen

/-- The number `0.d₁d₂… * 10 ^ (exponent + 1)` for `digits = d₁d₂…`, so that `exponent` is the
power of ten of the first digit. -/
structure Decimal where
  digits : List Char
  exponent : Int
  deriving DecidableEq, Inhabited

namespace Decimal

/-- The greatest power of ten that is at most `num / den`, searched upwards. -/
def exponentUp (num den : Nat) : Nat → Nat → Nat
  | 0, e => e
  | fuel + 1, e => if den * Nat.pow 10 (e + 1) ≤ num then exponentUp num den fuel (e + 1) else e

/-- How many places a number below one starts after the point, searched downwards. -/
def exponentDown (num den : Nat) : Nat → Nat → Nat
  | 0, e => e
  | fuel + 1, e => if den ≤ num * Nat.pow 10 e then e else exponentDown num den fuel (e + 1)

def leading (num den : Nat) : Int :=
  if den ≤ num then exponentUp num den 400 0 else -(exponentDown num den 400 1 : Int)

/-- The multiple of `10 ^ p` that reads back as the number, if there is one among its two
neighbours on that grid: the nearer one if there are two, of two equally near the even one.
The number is `num / den`; what reads back lies `low` below to `high` above it in units of
`1 / den`, the ends included when `closed`. -/
def onGrid? (num den low high : Nat) (closed : Bool) (p : Int) : Option Nat :=
  let up := Nat.pow 10 p.toNat
  let down := Nat.pow 10 (-p).toNat
  -- in units of `1 / (den * down)`
  let step := den * up
  let v := num * down
  let n := v / step
  let below := v - n * step
  let above := (n + 1) * step - v
  let reads (gap room : Nat) : Bool := if closed then gap ≤ room else gap < room
  match reads below (low * down), reads above (high * down) with
  | true, true =>
    if below < above then some n
    else if above < below then some (n + 1)
    else some (n + n % 2)
  | true, false => some n
  | false, true => some (n + 1)
  | false, false => none

/-- The first hit on the grids with more and more digits after the leading one. -/
def search (num den low high : Nat) (closed : Bool) (lead : Int) : Nat → Nat → Option (Nat × Int)
  | 0, _ => none
  | fuel + 1, extra =>
    match onGrid? num den low high closed (lead - extra) with
    | some n => some (n, lead - extra)
    | none => search num den low high closed lead fuel (extra + 1)

def dropTrailingZeros (cs : List Char) : List Char :=
  (cs.reverse.dropWhile (· == '0')).reverse

/-- The fewest digits that read back as a finite double other than zero, its sign left out. -/
def shortest (x : Binary64) : Decimal :=
  let (s, q) := x.significand
  -- four times the double and half the distances to its neighbours are whole in these units
  let (unit, den) := if q < 1074 then (1, Nat.pow 2 (1074 - q)) else (Nat.pow 2 (q - 1074), 1)
  let num := 4 * s * unit
  let low := if s = Nat.pow 2 52 ∧ 0 < q then unit else 2 * unit
  match search num (4 * den) low (2 * unit) (s % 2 == 0) (leading num (4 * den)) 17 0 with
  | some (n, p) =>
    let digits := Nat.toDigits 10 n
    ⟨dropTrailingZeros digits, p + (digits.length - 1 : Nat)⟩
  | none => ⟨['0'], 0⟩

end Decimal

/-- How a decimal number is laid out: the exponents of the first digit that are written without
an exponent mark. -/
structure DecimalLayout where
  least : Int
  greatest : Int

namespace DecimalLayout

/-- Digits with a point, or with a mark and a signed exponent; a whole number keeps `.0`. -/
def write (layout : DecimalLayout) (d : Decimal) : String :=
  let count := d.digits.length
  if layout.least ≤ d.exponent ∧ d.exponent ≤ layout.greatest then
    if d.exponent < 0 then
      "0." ++ String.ofList (List.replicate ((-d.exponent).toNat - 1) '0' ++ d.digits)
    else
      let places := d.exponent.toNat + 1
      if count ≤ places then
        String.ofList (d.digits ++ List.replicate (places - count) '0') ++ ".0"
      else
        String.ofList (d.digits.take places) ++ "." ++ String.ofList (d.digits.drop places)
  else
    let tail := if count ≤ 1 then [] else '.' :: d.digits.drop 1
    let sign := if d.exponent < 0 then "-" else "+"
    String.ofList (d.digits.take 1 ++ tail) ++ "e" ++ sign ++ toString d.exponent.natAbs

def writeDouble (layout : DecimalLayout) (x : Binary64) : String :=
  let digits := if x.isZero then "0.0" else layout.write (Decimal.shortest x)
  if x.isNegative then "-" ++ digits else digits

end DecimalLayout

end StructGen
