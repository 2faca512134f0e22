import StationFinder.Numeric.Whole
import StationFinder.Text.Search
import StationFinder.Toml.Value

/-!
# Numbers, dates and truth values

The values that are written without quotes or brackets. Digits may have single underscores between them. Integers
fit in sixty-four bits with their sign; a decimal one has no leading zeros, and one in another base has no sign.
-/

namespace StationFinder.Toml

/-- Characters that may stand in such a value. -/
def isScalarChar (c : Char) : Bool := c.isAlphanum || c = '+' || c = '-' || c = '_' || c = '.' || c = ':'

/-- The value of a digit in a base up to sixteen. -/
def digitIn? (base : Nat) (c : Char) : Option Nat :=
  let value :=
    if c.isDigit then c.toNat - '0'.toNat
    else if c.isAlpha then c.toLower.toNat - 'a'.toNat + 10
    else base
  if value < base then some value else none

/-- The digits in a text, with single underscores between them; at least one. -/
def digitsIn? (base : Nat) (cs : List Char) : Option (List Nat) := do
  let groups ← (Text.splitAt '_' cs).mapM fun group => if group.isEmpty then none else group.mapM (digitIn? base)
  some groups.flatten

/-- The sign in front of a number, and the rest. -/
def cutSign : List Char → Bool × List Char
  | '-' :: rest => (true, rest)
  | '+' :: rest => (false, rest)
  | cs => (false, cs)

/-- Decimal digits without leading zeros. -/
def plainDigits? (cs : List Char) : Option (List Nat) := do
  let digits ← digitsIn? 10 cs
  if digits.length ≠ 1 && digits.head? = some 0 then none else some digits

/-- An integer that fits. -/
def integer? (n : Int) : Option Value := if -maxSigned64 - 1 ≤ n && n ≤ maxSigned64 then some (.integer n) else none

/-- A number in another base than ten. -/
def basedInteger? (base : Nat) (cs : List Char) : Option Value := do
  let digits ← digitsIn? base cs
  integer? (digits.foldl (fun n d => base * n + d) 0 : Nat)

/-- A decimal integer. -/
def decimalInteger? (cs : List Char) : Option Value := do
  let (negative, cs) := cutSign cs
  let n := ofDigits (← plainDigits? cs)
  integer? (if negative then -(n : Int) else n)

/-- Is this a number with a fraction or an exponent, or one that is infinite or none at all? -/
def isReal (cs : List Char) : Bool :=
  let cs := (cutSign cs).2
  let mantissa := cs.takeWhile fun c => c ≠ 'e' && c ≠ 'E'
  let exponent := cs.dropWhile fun c => c ≠ 'e' && c ≠ 'E'
  let whole := mantissa.takeWhile (· ≠ '.')
  let fraction := mantissa.dropWhile (· ≠ '.')
  cs = "inf".toList || cs = "nan".toList ||
    ((plainDigits? whole).isSome && !(fraction.isEmpty && exponent.isEmpty) &&
      (fraction.isEmpty || (digitsIn? 10 (fraction.drop 1)).isSome) &&
      (exponent.isEmpty || (digitsIn? 10 (cutSign (exponent.drop 1)).2).isSome))

/-- Is this a date, a time of day, or both? -/
def isMoment (cs : List Char) : Bool :=
  match cs with
  | a :: b :: c :: rest =>
    a.isDigit && b.isDigit && (c = ':' || (c.isDigit && (rest.drop 1).head? = some '-')) &&
      rest.all fun d => d.isDigit || d = '-' || d = ':' || d = '.' || d = '+' || d.toUpper = 'T' || d.toUpper = 'Z'
  | _ => false

/-- The value that is written without quotes or brackets. -/
def scalar? (cs : List Char) : Option Value :=
  match cs with
  | ['t', 'r', 'u', 'e'] => some (.bool true)
  | ['f', 'a', 'l', 's', 'e'] => some (.bool false)
  | '0' :: 'x' :: digits => basedInteger? 16 digits
  | '0' :: 'o' :: digits => basedInteger? 8 digits
  | '0' :: 'b' :: digits => basedInteger? 2 digits
  | cs =>
    match decimalInteger? cs with
    | some n => some n
    | none => if isReal cs then some .real else if isMoment cs then some .moment else none

end StationFinder.Toml
