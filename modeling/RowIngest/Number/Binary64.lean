/-!
Double-precision numbers as their 64 bits, so that a number is carried and compared exactly
and no rounding happens behind a proof. A rational is rounded to the nearest double, ties to
the even one; beyond the largest double lies infinity.
-/
namespace RowIngest

structure Binary64 where
  bits : UInt64
  deriving DecidableEq, Inhabited, Repr

namespace Binary64

def negative (x : Binary64) : Bool := x.bits ≥ 0x8000000000000000

/-- The biased exponent, 0 to 2047. -/
def exponent (x : Binary64) : Nat := ((x.bits >>> 52) &&& 0x7FF).toNat

def fraction (x : Binary64) : Nat := (x.bits &&& 0xFFFFFFFFFFFFF).toNat

def isNaN (x : Binary64) : Bool := x.exponent == 2047 && x.fraction != 0

def isFinite (x : Binary64) : Bool := x.exponent != 2047

def isZero (x : Binary64) : Bool := x.exponent == 0 && x.fraction == 0

/-- The magnitude of a finite number is `significand · 2 ^ scale`. -/
def significand (x : Binary64) : Nat :=
  if x.exponent = 0 then x.fraction else 0x10000000000000 + x.fraction

def scale (x : Binary64) : Int :=
  if x.exponent = 0 then -1074 else (x.exponent : Int) - 1075

def ofMagnitude (negative : Bool) (magnitude : Nat) : Binary64 :=
  ⟨UInt64.ofNat (if negative then 0x8000000000000000 + magnitude else magnitude)⟩

/-- The magnitude bits of infinity, one above those of the largest double. -/
def infinityMagnitude : Nat := 0x7FF0000000000000

def infinity (negative : Bool) : Binary64 := ofMagnitude negative infinityMagnitude

def nan : Binary64 := ⟨0x7FF8000000000000⟩

def zero : Binary64 := ⟨0⟩

/-- The whole number nearest to `num / den`, a tie going to the even one. -/
def roundHalfEven (num den : Nat) : Nat :=
  let q := num / den
  let twice := 2 * (num % den)
  if twice < den then q
  else if twice > den then q + 1
  else if q % 2 = 0 then q else q + 1

/-- Multiplies `num` or `den` so that their ratio is scaled by `2 ^ (-e)`. -/
def rescale (num den : Nat) (e : Int) : Nat × Nat :=
  if e < 0 then (num * Nat.pow 2 (-e).toNat, den) else (num, den * Nat.pow 2 e.toNat)

/-- The exponent of the unit in the last place for a ratio, never below that of subnormals. -/
def unitExponent (num den : Nat) : Int :=
  let guess : Int := (num.log2 : Int) - (den.log2 : Int) - 52
  let (n, d) := rescale num den guess
  let exact := if n / d < Nat.pow 2 52 then guess - 1 else guess
  max exact (-1074)

/-- The magnitude bits of the double nearest to `num / den`. -/
def magnitudeOfRatio (num den : Nat) : Nat :=
  if num = 0 then 0
  else
    let e := unitExponent num den
    let (n, d) := rescale num den e
    let m := roundHalfEven n d
    min ((e + 1074).toNat * Nat.pow 2 52 + m) infinityMagnitude

def ofRatio (negative : Bool) (num den : Nat) : Binary64 :=
  ofMagnitude negative (magnitudeOfRatio num den)

/-- The double nearest to a decimal `mantissa · 10 ^ exponent`. Exponents beyond the range of
doubles are settled by the number of digits alone. -/
def ofDecimal (negative : Bool) (mantissa : Nat) (exponent : Int) : Binary64 :=
  let digits : Int := (mantissa.log2 / 3 + 1 : Nat)
  if mantissa = 0 then ofMagnitude negative 0
  else if exponent > 400 then infinity negative
  else if exponent + digits < -400 then ofMagnitude negative 0
  else if exponent < 0 then ofRatio negative mantissa (Nat.pow 10 (-exponent).toNat)
  else ofRatio negative (mantissa * Nat.pow 10 exponent.toNat) 1

/-- The double nearest to a whole number, or none where that is infinite. -/
def ofInt? (n : Int) : Option Binary64 :=
  let magnitude := magnitudeOfRatio n.natAbs 1
  if magnitude = infinityMagnitude then none else some (ofMagnitude (n < 0) magnitude)

/-- The value of a finite number without fraction. -/
def toInt? (x : Binary64) : Option Int :=
  if !x.isFinite then none
  else
    let whole : Option Nat :=
      if 0 ≤ x.scale then some (x.significand * Nat.pow 2 x.scale.toNat)
      else
        let unit := Nat.pow 2 (-x.scale).toNat
        if x.significand % unit = 0 then some (x.significand / unit) else none
    whole.map fun n => if x.negative then -(n : Int) else n

/-- The magnitude of a finite number as a ratio. -/
def ratio (x : Binary64) : Nat × Nat :=
  if 0 ≤ x.scale then (x.significand * Nat.pow 2 x.scale.toNat, 1)
  else (x.significand, Nat.pow 2 (-x.scale).toNat)

/-- Zero of either sign and everything above it; not a NaN. -/
def isNonnegative (x : Binary64) : Bool := !x.isNaN && (!x.negative || x.isZero)

end Binary64

end RowIngest
