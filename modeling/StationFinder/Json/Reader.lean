import StationFinder.Json.Value
import StationFinder.Text.Utf8

/-!
# Reading JSON

The strict grammar: four blanks between tokens, no leading zeros, a digit on both sides of a point, no control
characters in strings, one value and nothing after it. Every reader takes the characters that are left and
gives a result together with what it leaves, or nothing if the text is malformed. A document may also come as bytes
that are not the encoding of a text.
-/

namespace StationFinder.Json

/-- What is left when a reader is done, with its result. -/
abbrev Reading (α : Type) := Option (α × List Char)

/-- The characters after leading blanks. -/
def skipBlanks : List Char → List Char
  | ' ' :: rest | '\t' :: rest | '\n' :: rest | '\r' :: rest => skipBlanks rest
  | cs => cs

/-! ### Strings -/

/-- The value of a hexadecimal digit. -/
def hexDigit? (c : Char) : Option Nat :=
  if c.isDigit then some (c.toNat - '0'.toNat)
  else if 'a' ≤ c && c ≤ 'f' then some (c.toNat - 'a'.toNat + 10)
  else if 'A' ≤ c && c ≤ 'F' then some (c.toNat - 'A'.toNat + 10)
  else none

/-- The character that a one-letter escape stands for. -/
def escaped? : Char → Option Nat
  | '"' => some 0x22 | '\\' => some 0x5C | '/' => some 0x2F
  | 'b' => some 0x08 | 'f' => some 0x0C | 'n' => some 0x0A | 'r' => some 0x0D | 't' => some 0x09
  | _ => none

/-- The code points of a string up to its closing quote; halves of surrogate pairs are still apart. `before`
holds those already read, the last one first. -/
def readCodes (before : List Nat) : List Char → Reading (List Nat)
  | '"' :: rest => some (before.reverse, rest)
  | '\\' :: 'u' :: a :: b :: c :: d :: rest =>
    match hexDigit? a, hexDigit? b, hexDigit? c, hexDigit? d with
    | some a, some b, some c, some d => readCodes ((((a * 16 + b) * 16 + c) * 16 + d) :: before) rest
    | _, _, _, _ => none
  | '\\' :: e :: rest =>
    match escaped? e with
    | some code => readCodes (code :: before) rest
    | none => none
  | c :: rest => if c.toNat < 0x20 || c = '\\' then none else readCodes (c.toNat :: before) rest
  | [] => none

/-- The characters of code points, with surrogate pairs joined; none if a half stands alone. -/
def joinSurrogates : List Nat → Option (List Char)
  | [] => some []
  | high :: rest =>
    if 0xD800 ≤ high && high ≤ 0xDBFF then
      match rest with
      | low :: rest =>
        if 0xDC00 ≤ low && low ≤ 0xDFFF then
          (joinSurrogates rest).map (Char.ofNat ((high - 0xD800) * 0x400 + (low - 0xDC00) + 0x10000) :: ·)
        else none
      | [] => none
    else if 0xDC00 ≤ high && high ≤ 0xDFFF then none
    else (joinSurrogates rest).map (Char.ofNat high :: ·)

/-- A string, after its opening quote. -/
def readText (cs : List Char) : Reading (Option String) :=
  (readCodes [] cs).map fun (codes, rest) => ((joinSurrogates codes).map String.ofList, rest)

/-! ### Numerals -/

/-- The digits that come next. -/
def readDigits (cs : List Char) : List Nat × List Char :=
  ((cs.takeWhile Char.isDigit).map (fun c => c.toNat - '0'.toNat), cs.dropWhile Char.isDigit)

/-- The whole digits of a numeral: a zero alone, or digits that do not start with one. -/
def readWholePart : List Char → Reading (List Nat)
  | '0' :: rest => some ([0], rest)
  | cs => match readDigits cs with
    | ([], _) => none
    | (digits, rest) => some (digits, rest)

/-- The fraction digits of a numeral, if a point comes next. -/
def readFraction : List Char → Reading (List Nat)
  | '.' :: rest => match readDigits rest with
    | ([], _) => none
    | (digits, rest) => some (digits, rest)
  | cs => some ([], cs)

/-- The exponent of a numeral, if its letter comes next. -/
def readExponent : List Char → Reading (Option Int)
  | 'e' :: rest | 'E' :: rest =>
    let (negative, rest) := match rest with
      | '-' :: rest => (true, rest)
      | '+' :: rest => (false, rest)
      | rest => (false, rest)
    match readDigits rest with
    | ([], _) => none
    | (digits, rest) =>
      some (some (if negative then -(ofDigits digits : Int) else ofDigits digits), rest)
  | cs => some (none, cs)

/-- A numeral. -/
def readNumeral (cs : List Char) : Option (Numeral × List Char) := do
  let (negative, cs) := match cs with
    | '-' :: rest => (true, rest)
    | cs => (false, cs)
  let (whole, cs) ← readWholePart cs
  let (fraction, cs) ← readFraction cs
  let (exponent, cs) ← readExponent cs
  some (⟨negative, whole, fraction, exponent⟩, cs)

/-! ### Values -/

mutual

/-- A value; the fuel bounds the calls that read values, items and members. -/
def readValue : Nat → List Char → Reading Value
  | 0, _ => none
  | fuel + 1, cs =>
    match skipBlanks cs with
    | 'n' :: 'u' :: 'l' :: 'l' :: rest => some (.null, rest)
    | 't' :: 'r' :: 'u' :: 'e' :: rest => some (.bool true, rest)
    | 'f' :: 'a' :: 'l' :: 's' :: 'e' :: rest => some (.bool false, rest)
    | '"' :: rest => (readText rest).map fun (content, rest) => (.text content, rest)
    | '[' :: rest =>
      match skipBlanks rest with
      | ']' :: rest => some (.list [], rest)
      | rest => readItems fuel [] rest
    | '\x7b' :: rest =>
      match skipBlanks rest with
      | '\x7d' :: rest => some (.record [], rest)
      | rest => readMembers fuel [] rest
    | cs => (readNumeral cs).map fun (numeral, rest) => (.number numeral, rest)

/-- The items of a list up to its closing bracket, at least one; `before` holds those already read, the last one
first. -/
def readItems : Nat → List Value → List Char → Reading Value
  | 0, _, _ => none
  | fuel + 1, before, cs =>
    match readValue fuel cs with
    | none => none
    | some (item, rest) =>
      match skipBlanks rest with
      | ',' :: rest => readItems fuel (item :: before) rest
      | ']' :: rest => some (.list (item :: before).reverse, rest)
      | _ => none

/-- The members of a record up to its closing brace, at least one; `before` holds those already read, the last
one first. -/
def readMembers : Nat → List (Option String × Value) → List Char → Reading Value
  | 0, _, _ => none
  | fuel + 1, before, cs =>
    match skipBlanks cs with
    | '"' :: rest =>
      match readText rest with
      | none => none
      | some (name, rest) =>
        match skipBlanks rest with
        | ':' :: rest =>
          match readValue fuel rest with
          | none => none
          | some (value, rest) =>
            match skipBlanks rest with
            | ',' :: rest => readMembers fuel ((name, value) :: before) rest
            | '\x7d' :: rest => some (.record ((name, value) :: before).reverse, rest)
            | _ => none
        | _ => none
    | _ => none

end

/-- The value that a document holds, if it is well formed. -/
def parse (document : String) : Option Value :=
  let cs := document.toList
  match readValue (cs.length + 1) cs with
  | some (value, rest) => if (skipBlanks rest).isEmpty then some value else none
  | none => none

/-! ### Bytes -/

/-- What stands in the place of a broken character: one half of a surrogate pair, escaped. The blank before it keeps it
apart from a backslash and from another half. -/
def brokenMark : String := " \\uDC00"

/-- The value that the bytes of a document hold, if it is well formed. A string with broken characters is no text, which
matters only if somebody asks; nothing is well formed with a broken character outside of a string. -/
def parseBytes (bytes : ByteArray) : Option Value :=
  match String.fromUTF8? bytes with
  | some text => parse text
  | none => parse (Text.Utf8.decodeMarked brokenMark bytes.toList)

theorem parseBytes_toUTF8 (document : String) : parseBytes document.toUTF8 = parse document := by
  rw [parseBytes, Text.Utf8.fromUTF8?_eq_some_iff.2 rfl]

end StationFinder.Json
