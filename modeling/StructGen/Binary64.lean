namespace StructGen

/-- An IEEE 754 double, given by its 64 bits. -/
structure Binary64 where
  bits : UInt64
  deriving DecidableEq, Inhabited

namespace Binary64

def magnitude (x : Binary64) : Nat :=
  x.bits.toNat % Nat.pow 2 63

def isNegative (x : Binary64) : Bool :=
  decide (Nat.pow 2 63 ≤ x.bits.toNat)

/-- The magnitude of the infinities; a NaN has a larger one. -/
def infiniteMagnitude : Nat :=
  2047 * Nat.pow 2 52

def isNaN (x : Binary64) : Bool :=
  decide (infiniteMagnitude < x.magnitude)

def isInfinite (x : Binary64) : Bool :=
  decide (x.magnitude = infiniteMagnitude)

def isZero (x : Binary64) : Bool :=
  decide (x.magnitude = 0)

/-- The place of a double among all doubles that are not NaN: doubles denote equal numbers
exactly when their ranks are equal, and a greater number has a greater rank. -/
def rank (x : Binary64) : Int :=
  if x.isNegative then -(x.magnitude : Int) else x.magnitude

/-- Equality of numbers: the two zeros are equal, and a NaN equals nothing. -/
def equals (x y : Binary64) : Bool :=
  !x.isNaN && !y.isNaN && decide (x.rank = y.rank)

/-- Order of numbers; a NaN is below nothing and above nothing. -/
def less (x y : Binary64) : Bool :=
  !x.isNaN && !y.isNaN && decide (x.rank < y.rank)

def ofMagnitude (negative : Bool) (m : Nat) : Binary64 :=
  ⟨UInt64.ofNat (if negative then Nat.pow 2 63 + m else m)⟩

def zero (negative : Bool) : Binary64 :=
  ofMagnitude negative 0

def infinity (negative : Bool) : Binary64 :=
  ofMagnitude negative infiniteMagnitude

def withSign (x : Binary64) (negative : Bool) : Binary64 :=
  ofMagnitude negative x.magnitude

/-- The whole number `s` and the exponent `q` with `|x| = s * 2 ^ (q - 1074)`, for finite `x`. -/
def significand (x : Binary64) : Nat × Nat :=
  let field := x.magnitude / Nat.pow 2 52
  let fraction := x.magnitude % Nat.pow 2 52
  if field = 0 then (fraction, 0) else (fraction + Nat.pow 2 52, field - 1)

/-- The quotient of two numbers rounded to the nearest whole number, a tie to the even one. -/
def divideToEven (num den : Nat) : Nat :=
  let down := num / den
  let twice := 2 * (num % den)
  if twice < den then down
  else if den < twice then down + 1
  else down + down % 2

/-- The double nearest to `num / den`, a tie to the one with even bits; infinite when the
quotient is too large. -/
def ofRatio (num den : Nat) : Binary64 :=
  if num = 0 then zero false
  else
    -- `|num / den|` lies below `2 ^ (e + 1)` and not below `2 ^ (e - 1)`
    let e : Int := (Nat.log2 num : Int) - (Nat.log2 den : Int)
    let scaled (q : Int) : Nat × Nat :=
      if q < 0 then (num * Nat.pow 2 (-q).toNat, den) else (num, den * Nat.pow 2 q.toNat)
    let low := max (e - 53) (-1074)
    let fits := (scaled low).1 / (scaled low).2 < Nat.pow 2 53
    let q := if fits then low else low + 1
    let s := divideToEven (scaled q).1 (scaled q).2
    let m := (q + 1074).toNat * Nat.pow 2 52 + s
    ofMagnitude false (min m infiniteMagnitude)

def ratio (x : Binary64) : Nat × Nat :=
  let (s, q) := x.significand
  if q < 1074 then (s, Nat.pow 2 (1074 - q)) else (s * Nat.pow 2 (q - 1074), 1)

def ofNat (n : Nat) : Binary64 :=
  ofRatio n 1

def mul (x y : Binary64) : Binary64 :=
  ofRatio (x.ratio.1 * y.ratio.1) (x.ratio.2 * y.ratio.2)

def div (x y : Binary64) : Binary64 :=
  ofRatio (x.ratio.1 * y.ratio.2) (x.ratio.2 * y.ratio.1)

/-- The double that denotes the same number as the IEEE 754 single with the given bits. -/
def ofSingle (bits : UInt32) : Binary64 :=
  let negative := decide (Nat.pow 2 31 ≤ bits.toNat)
  let m := bits.toNat % Nat.pow 2 31
  let field := m / Nat.pow 2 23
  let fraction := m % Nat.pow 2 23
  if field = 255 then ofMagnitude negative (infiniteMagnitude + fraction * Nat.pow 2 29)
  else if field = 0 then (ofRatio fraction (Nat.pow 2 149)).withSign negative
  else ofMagnitude negative ((field + 896) * Nat.pow 2 52 + fraction * Nat.pow 2 29)

end Binary64

end StructGen
