/-!
# Whole numbers as text

An unsigned number of bounded size, as settings and class texts write it: decimal digits, at least one, after an
optional plus sign. Leading zeros are allowed; blanks, other signs and digits outside ASCII are not.
-/

namespace StationFinder

/-- The largest number of thirty-two bits. -/
def max32 : Nat := 0xFFFFFFFF

/-- The largest number of sixty-four bits. -/
def max64 : Nat := 0xFFFFFFFFFFFFFFFF

/-- The largest number of thirty-two bits of which one is the sign. The smallest is one beyond its negative. -/
def maxSigned32 : Nat := 0x7FFFFFFF

/-- The largest number of sixty-four bits of which one is the sign. -/
def maxSigned64 : Nat := 0x7FFFFFFFFFFFFFFF

/-- The number that decimal digits denote. -/
def ofDigits (digits : List Nat) : Nat := digits.foldl (fun n d => 10 * n + d) 0

/-- The value of an ASCII digit. -/
def digit? (c : Char) : Option Nat := if c.isDigit then some (c.toNat - '0'.toNat) else none

/-- The number that characters denote, if they are digits, at least one, and it is at most `limit`. -/
def wholeOfChars? (limit : Nat) (cs : List Char) : Option Nat := do
  let digits ← cs.mapM digit?
  if !digits.isEmpty && ofDigits digits ≤ limit then some (ofDigits digits) else none

/-- The number that a text denotes, if it is at most `limit`. -/
def wholeOfText? (limit : Nat) (text : String) : Option Nat :=
  match text.toList with
  | '+' :: rest => wholeOfChars? limit rest
  | cs => wholeOfChars? limit cs

end StationFinder
