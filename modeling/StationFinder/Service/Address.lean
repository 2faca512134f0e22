import StationFinder.Json.Reader
import StationFinder.Text.Search
import StationFinder.Text.Utf8

/-!
# Addresses

A request names what it wants by an address: a path whose parts are separated by slashes, and a query of named values.
Both are written with some characters escaped as bytes in hexadecimal. A part of the path has to come out as a text; in
the query a plus sign is a space, and broken characters are replaced.
-/

namespace StationFinder.Address

/-- The bytes that escapes and other characters stand for. -/
def unescape : List Char → List UInt8
  | '%' :: high :: low :: rest =>
    match Json.hexDigit? high, Json.hexDigit? low with
    | some h, some l => (16 * h + l).toUInt8 :: unescape rest
    | _, _ => '%'.val.toUInt8 :: unescape (high :: low :: rest)
  | c :: rest => (String.singleton c).toUTF8.toList ++ unescape rest
  | [] => []

/-- A part of a path as a text, if it is one. -/
def decodePart (part : List Char) : Option String := (Text.Utf8.decode ⟨(unescape part).toArray⟩).toOption

/-- A name or a value of a query. -/
def decodeField (field : List Char) : String :=
  Text.Utf8.decodeLossy (unescape (field.map fun c => if c = '+' then ' ' else c))

/-- The named values of a query, in order. -/
def fieldsOf (query : List Char) : List (String × String) :=
  ((Text.splitAt '&' query).filter (!·.isEmpty)).map fun pair =>
    let (name, value) := Text.cutAt '=' pair
    (decodeField name, decodeField value)

/-- The parts of the path of an address, still escaped, and its query. What follows a number sign does not count. -/
def cut (address : String) : List (List Char) × List Char :=
  let (path, query) := Text.cutAt '?' (Text.cutAt '#' address.toList).1
  (Text.splitAt '/' path, query)

end StationFinder.Address
