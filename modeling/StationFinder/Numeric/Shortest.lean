import StationFinder.Numeric.Binary64

/-!
# The shortest decimal form of a double

A double is written with the fewest digits that still read back as the same double, and of those the nearest to
it, or the greater of two that are equally near. The numbers that read back as a double fill an interval around
it, whose ends lie half way to its neighbours; the ends belong to it when its fraction is even. For one digit, two
digits and so on, the two decimals next to the double are tried; with seventeen digits one always lies in the
interval.

The form is positional at every size and never has an exponent; a whole number has no point.
-/

namespace StationFinder.Binary64

/-- A decimal `0.d₁d₂… · 10 ^ point`. -/
structure DecimalForm where
  digits : List Char
  point : Int
deriving DecidableEq, Repr

/-- A power of ten. -/
def tenTo (k : Nat) : Nat := Nat.pow 10 k

/-- Where doubles are scaled up, so that the smallest has digits before the point. -/
def scalePlaces : Nat := 400

/-- The place of the point in the decimals of a positive finite double. -/
def pointOf (x : Binary64) : Int :=
  (Nat.toDigits 10 (x.absUnits * tenTo scalePlaces / unitsPerOne)).length - scalePlaces

/-- Does `n · 10 ^ k` read back as the positive double? Everything is measured in quarters of a unit. -/
def readsBack (x : Binary64) (n : Nat) (k : Int) : Bool :=
  let gap := 1 <<< (x.exponentBits - 1)
  let middle := 4 * x.absUnits
  let low := middle - (if x.fractionBits = 0 && 1 < x.exponentBits then gap else 2 * gap)
  let high := middle + 2 * gap
  let scaled := 4 * unitsPerOne * n * tenTo k.toNat
  let below := tenTo (-k).toNat
  if x.fractionBits % 2 = 0 then low * below ≤ scaled && scaled ≤ high * below
  else low * below < scaled && scaled < high * below

/-- The nearest decimal with at most `count` digits that reads back, if there is one. -/
def decimalWith (x : Binary64) (count : Nat) : Option DecimalForm :=
  let k := x.pointOf - count
  let numerator := x.absUnits * tenTo (-k).toNat
  let denominator := unitsPerOne * tenTo k.toNat
  let n := numerator / denominator
  let form (m : Nat) : DecimalForm :=
    let digits := Nat.toDigits 10 m
    ⟨(digits.reverse.dropWhile (· = '0')).reverse, digits.length + k⟩
  let nearer := if 2 * (numerator % denominator) < denominator then n else n + 1
  let farther := if nearer = n then n + 1 else n
  if x.readsBack nearer k then some (form nearer)
  else if x.readsBack farther k then some (form farther)
  else none

/-- The shortest decimal of a positive finite double. -/
def shortest (x : Binary64) : DecimalForm :=
  ((List.range 18).drop 1).findSome? (x.decimalWith ·) |>.getD ⟨['0'], 1⟩

/-- The decimal written out without an exponent. -/
def DecimalForm.positional (d : DecimalForm) : List Char :=
  if d.point ≤ 0 then '0' :: '.' :: List.replicate (-d.point).toNat '0' ++ d.digits
  else
    let before := d.point.toNat
    if d.digits.length ≤ before then d.digits ++ List.replicate (before - d.digits.length) '0'
    else d.digits.take before ++ '.' :: d.digits.drop before

/-- A finite double in its shortest decimal form. -/
def text (x : Binary64) : String :=
  let digits := if x.isZero then ['0'] else x.shortest.positional
  String.ofList (if x.isNegative then '-' :: digits else digits)

end StationFinder.Binary64
