/-!
# Doubles

A double-precision number is kept as its sixty-four bits: a sign, eleven bits of exponent, fifty-two of
fraction. Every finite double is a whole multiple of the smallest positive one, `2 ^ (-1074)`, so its exact
value is an integer number of such units; comparisons and roundings are decided on that integer. The arithmetic
operations are those of the standard, each rounding once to the nearest double, ties to even.

Two comparisons are needed. As numbers, the two zeros are equal and a NaN equals nothing, not even itself. In
the total order, which sorting uses, numbers are ordered by sign and magnitude of their bits, so that every two
doubles compare.
-/

namespace StationFinder

/-- A double-precision number, by its bits. -/
structure Binary64 where
  bits : UInt64
deriving DecidableEq, Repr, Inhabited

namespace Binary64

/-! ### The parts -/

/-- The value of the sign bit. -/
def signBit : Nat := 0x8000000000000000

/-- How many fractions there are, which is also the value of the lowest exponent bit. -/
def fractionCount : Nat := 0x10000000000000

/-- The bits without the sign. -/
def magnitude (x : Binary64) : Nat := x.bits.toNat % signBit

/-- Is the sign bit set? -/
def isNegative (x : Binary64) : Bool := signBit ≤ x.bits.toNat

/-- The magnitude of infinity: all exponent bits set and an empty fraction. -/
def infiniteMagnitude : Nat := 0x7FF0000000000000

def isFinite (x : Binary64) : Bool := x.magnitude < infiniteMagnitude

def isNaN (x : Binary64) : Bool := infiniteMagnitude < x.magnitude

/-- Is the number one of the two zeros? -/
def isZero (x : Binary64) : Bool := x.magnitude = 0

/-- The exponent of a double as its bits hold it. -/
def exponentBits (x : Binary64) : Nat := x.magnitude / fractionCount

/-- The fraction of a double. -/
def fractionBits (x : Binary64) : Nat := x.magnitude % fractionCount

/-- How many units of `2 ^ (-1074)` make one. -/
def unitsPerOne : Nat := 1 <<< 1074

/-- The absolute value of a finite double in units: the fraction, with the leading bit that a normal number
leaves out, at the place that the exponent says. -/
def absUnits (x : Binary64) : Nat :=
  if x.exponentBits = 0 then x.fractionBits else (fractionCount + x.fractionBits) <<< (x.exponentBits - 1)

/-- The exact value of a finite double in units. -/
def units (x : Binary64) : Int := if x.isNegative then -x.absUnits else x.absUnits

/-! ### Comparisons -/

/-- Equality as numbers. -/
def sameNumber (x y : Binary64) : Bool :=
  !x.isNaN && !y.isNaN && (x.bits == y.bits || (x.isZero && y.isZero))

theorem sameNumber_self {x : Binary64} (h : x.isNaN = false) : x.sameNumber x = true := by
  simp [sameNumber, h]

/-- The place of a double in the total order. -/
def orderKey (x : Binary64) : Int := if x.isNegative then -1 - x.magnitude else x.magnitude

/-- The total order: negative before positive, and the magnitude decides within a sign. -/
instance : Ord Binary64 := ⟨fun x y => compare x.orderKey y.orderKey⟩

/-! ### Arithmetic -/

/-- The double as a machine number. -/
def toFloat (x : Binary64) : Float := Float.ofBits x.bits

/-- A machine number as a double. -/
def ofFloat (x : Float) : Binary64 := ⟨x.toBits⟩

instance : Add Binary64 := ⟨fun x y => ofFloat (x.toFloat + y.toFloat)⟩
instance : Sub Binary64 := ⟨fun x y => ofFloat (x.toFloat - y.toFloat)⟩
instance : Mul Binary64 := ⟨fun x y => ofFloat (x.toFloat * y.toFloat)⟩
instance : Div Binary64 := ⟨fun x y => ofFloat (x.toFloat / y.toFloat)⟩

/-- The square root, rounded to the nearest double. -/
def sqrt (x : Binary64) : Binary64 := ofFloat x.toFloat.sqrt

/-- The number with its sign turned, zeros and NaNs included. -/
def neg (x : Binary64) : Binary64 := ⟨x.bits ^^^ 0x8000000000000000⟩

instance : Neg Binary64 := ⟨neg⟩

/-- The double nearest to a natural number below `2 ^ 64`. -/
def ofNat (n : Nat) : Binary64 := ofFloat (UInt64.ofNat n).toFloat

instance (n : Nat) : OfNat Binary64 n := ⟨ofNat n⟩

/-- The natural number nearest to the absolute value of a finite double, halves going up. -/
def absRound (x : Binary64) : Nat := (2 * x.absUnits + unitsPerOne) / (2 * unitsPerOne)

/-- The nearest whole number, halves going away from zero. A double with more whole digits than a fraction has is
whole already. -/
def round (x : Binary64) : Binary64 :=
  if !x.isFinite || fractionCount ≤ x.absRound then x
  else if x.isNegative then -ofNat x.absRound else ofNat x.absRound

/-- The number to two decimal places: hundred times it, rounded, over hundred. -/
def toHundredths (x : Binary64) : Binary64 := (x * 100).round / 100

end Binary64

end StationFinder
