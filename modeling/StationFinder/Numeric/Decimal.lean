import StationFinder.Numeric.Binary64
import StationFinder.Numeric.Whole

/-!
# Decimal numerals

A numeral has a sign, whole digits, perhaps fraction digits and perhaps an exponent. It denotes an integer when
it has neither fraction nor exponent and fits; otherwise a double, found in two roundings. The significand takes
as many leading digits as fit in sixty-four bits; the whole digits left over count as powers of ten and the
fraction digits left over are dropped. The significand is made a double, and one multiplication or division by a
power of ten gives the value. A power beyond `10 ^ 308` is applied in steps when dividing, and is out of range
when multiplying, as is an infinite product.
-/

namespace StationFinder

/-- A decimal numeral, by its parts. -/
structure Numeral where
  negative : Bool
  whole : List Nat
  /-- The digits after the point; empty without one. -/
  fraction : List Nat
  /-- The exponent after `e`, if there is one. -/
  exponent : Option Int
deriving DecidableEq, Repr

/-- What a numeral denotes. -/
inductive Number where
  /-- A natural number below `2 ^ 64`. -/
  | natural (n : Nat)
  /-- The negative of a positive number that is at most `2 ^ 63`. -/
  | negative (n : Nat)
  | real (x : Binary64)
deriving DecidableEq, Repr

namespace Numeral

/-- The significand after more digits, and the digits that no longer fit in sixty-four bits. -/
def absorb (significand : Nat) : List Nat → Nat × List Nat
  | [] => (significand, [])
  | d :: ds =>
    if 10 * significand + d ≤ max64 then absorb (10 * significand + d) ds else (significand, d :: ds)

/-- The largest power of ten among the doubles. -/
def maxPower : Nat := 308

/-- The largest exponent that is looked at; beyond it a number is zero or out of range. -/
def maxExponent : Nat := maxSigned32

/-- A power of ten as a double. -/
def tenPower (k : Nat) : Binary64 := .ofFloat (Float.ofScientific 1 false k)

/-- Division by `10 ^ 308`, repeated, as long as something is left to divide. -/
def divideDown : Nat → Binary64 → Binary64
  | 0, x => x
  | k + 1, x => if x.isZero then x else divideDown k (x / tenPower maxPower)

/-- A significand times a power of ten, unless that is out of range. -/
def scale (significand : Nat) (exponent : Int) : Option Binary64 :=
  let x := Binary64.ofNat significand
  if 0 ≤ exponent then
    if exponent.toNat ≤ maxPower then
      let y := x * tenPower exponent.toNat
      if y.isFinite then some y else none
    else if x.isZero then some x else none
  else
    let down := (-exponent).toNat
    let steps := (down - 1) / maxPower
    some (divideDown steps x / tenPower (down - maxPower * steps))

/-- The double that the numeral denotes, its sign aside. -/
def absReal (n : Numeral) : Option Binary64 :=
  let (s, spilled) := absorb 0 n.whole
  let (s, dropped) := absorb s n.fraction
  let places : Int := spilled.length - (n.fraction.length - dropped.length : Nat)
  match n.exponent with
  | none => scale s places
  | some e =>
    if e.natAbs ≤ maxExponent then scale s (places + e)
    else if e < 0 || s = 0 then some 0 else none

/-- What the numeral denotes, unless it is out of range. -/
def value (n : Numeral) : Option Number :=
  let signed (x : Binary64) : Number := .real (if n.negative then -x else x)
  match n.fraction, n.exponent, absorb 0 n.whole with
  | [], none, (s, []) =>
    if !n.negative then some (.natural s)
    else if 0 < s && s ≤ maxSigned64 + 1 then some (.negative s)
    else some (signed (.ofNat s))
  | _, _, _ => n.absReal.map signed

end Numeral

/-- A number as a double. -/
def Number.toReal : Number → Binary64
  | .natural n => .ofNat n
  | .negative n => -.ofNat n
  | .real x => x

end StationFinder
