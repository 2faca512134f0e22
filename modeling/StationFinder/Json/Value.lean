import StationFinder.Numeric.Decimal

/-!
# JSON values

A document as a tree, with nothing decided that its reader may not need: a numeral is kept by its digits, since
it may be out of range where nobody asks for its value; a text that escapes an unpaired half of a surrogate pair, or
whose bytes encode no text, is no text, and that too matters only if somebody asks; members stand in document order,
repeated names included.
-/

namespace StationFinder.Json

/-- A JSON value. -/
inductive Value where
  | null
  | bool (b : Bool)
  | number (numeral : Numeral)
  /-- A string; none if it escapes an unpaired surrogate, or has bytes that encode no text. -/
  | text (content : Option String)
  | list (items : List Value)
  | record (members : List (Option String × Value))
deriving Repr, Inhabited

end StationFinder.Json
