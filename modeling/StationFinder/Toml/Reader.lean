import StationFinder.Json.Reader
import StationFinder.Toml.Scalar

/-!
# Reading TOML

A document is a series of lines: headers, which say which table is meant from there on, and values under keys. Every
reader takes the characters that are left and gives a result together with what it leaves, or nothing if the text
is malformed.
-/

namespace StationFinder.Toml

/-- What is left when a reader is done, with its result. -/
abbrev Reading (α : Type) := Option (α × List Char)

/-! ### Between the tokens -/

/-- May the character stand in a comment or a string? Controls other than the tabulator may not. -/
def isPlain (c : Char) : Bool := c = '\t' || (0x20 ≤ c.toNat && c.toNat ≠ 0x7F)

/-- The characters after leading spaces and tabulators. -/
def skipSpaces (cs : List Char) : List Char := cs.dropWhile fun c => c = ' ' || c = '\t'

/-- What follows a line break, if one comes next. -/
def afterBreak? : List Char → Option (List Char)
  | '\n' :: rest | '\r' :: '\n' :: rest => some rest
  | _ => none

/-- What follows a comment, if one comes next. -/
def skipComment : List Char → List Char
  | '#' :: rest => rest.dropWhile isPlain
  | cs => cs

/-- What follows the end of a line: spaces, perhaps a comment, and a break or the end of the text. -/
def endLine (cs : List Char) : Option (List Char) :=
  match skipComment (skipSpaces cs) with
  | [] => some []
  | cs => afterBreak? cs

/-- What follows spaces, breaks and comments, of which at most `fuel` breaks. -/
def skipLines : (fuel : Nat) → List Char → List Char
  | 0, cs => cs
  | fuel + 1, cs =>
    match afterBreak? (skipComment (skipSpaces cs)) with
    | some rest => skipLines fuel rest
    | none => skipSpaces cs

/-! ### Strings -/

/-- The character that a hexadecimal number of some digits stands for. -/
def codeChar? (digits : List Char) : Option Char := do
  let values ← digits.mapM Json.hexDigit?
  let n := values.foldl (fun n d => 16 * n + d) 0
  if n < 0xD800 || (0xDFFF < n && n < 0x110000) then some (Char.ofNat n) else none

/-- The character that an escape stands for, after the backslash. -/
def readEscape : List Char → Reading Char
  | 'b' :: rest => some ('\x08', rest)
  | 't' :: rest => some ('\t', rest)
  | 'n' :: rest => some ('\n', rest)
  | 'f' :: rest => some ('\x0c', rest)
  | 'r' :: rest => some ('\r', rest)
  | '"' :: rest => some ('"', rest)
  | '\\' :: rest => some ('\\', rest)
  | 'u' :: rest => if rest.length < 4 then none else (codeChar? (rest.take 4)).map (·, rest.drop 4)
  | 'U' :: rest => if rest.length < 8 then none else (codeChar? (rest.take 8)).map (·, rest.drop 8)
  | _ => none

/-- A string on one line, up to its closing quote; `before` holds the characters already read, the last one first. -/
def readLineText (quote : Char) : (fuel : Nat) → (before : List Char) → List Char → Reading String
  | 0, _, _ => none
  | _ + 1, _, [] => none
  | fuel + 1, before, c :: rest =>
    if c = quote then some (String.ofList before.reverse, rest)
    else if c = '\\' && quote = '"' then
      match readEscape rest with
      | some (c, rest) => readLineText quote fuel (c :: before) rest
      | none => none
    else if isPlain c then readLineText quote fuel (c :: before) rest
    else none

/-- A string over several lines, up to its three closing quotes, in front of which up to two more may stand. A
backslash at the end of a line leaves out all blanks up to the next character that is none. -/
def readBlockText (quote : Char) : (fuel : Nat) → (before : List Char) → List Char → Reading String
  | 0, _, _ => none
  | fuel + 1, before, cs =>
    match afterBreak? cs, cs with
    | some rest, _ => readBlockText quote fuel ('\n' :: before) rest
    | none, [] => none
    | none, c :: rest =>
      if c = quote then
        let quotes := (c :: rest).takeWhile (· = quote)
        if quotes.length < 3 then readBlockText quote fuel (c :: before) rest
        else if 5 < quotes.length then none
        else some (String.ofList (List.replicate (quotes.length - 3) quote ++ before).reverse,
          (c :: rest).drop quotes.length)
      else if c = '\\' && quote = '"' then
        match afterBreak? (skipSpaces rest) with
        | some rest =>
          readBlockText quote fuel before
            (rest.dropWhile fun c => c = ' ' || c = '\t' || c = '\n' || c = '\r')
        | none =>
          match readEscape rest with
          | some (c, rest) => readBlockText quote fuel (c :: before) rest
          | none => none
      else if isPlain c then readBlockText quote fuel (c :: before) rest
      else none

/-- A string, its opening quote included. -/
def readText (cs : List Char) : Reading String :=
  match cs with
  | '"' :: '"' :: '"' :: rest => readBlockText '"' (cs.length + 1) [] ((afterBreak? rest).getD rest)
  | '\'' :: '\'' :: '\'' :: rest => readBlockText '\'' (cs.length + 1) [] ((afterBreak? rest).getD rest)
  | '"' :: rest => readLineText '"' (cs.length + 1) [] rest
  | '\'' :: rest => readLineText '\'' (cs.length + 1) [] rest
  | _ => none

/-! ### Keys -/

/-- May the character stand in a key without quotes? -/
def isBare (c : Char) : Bool := c.isAlphanum || c = '_' || c = '-'

/-- One part of a key: a bare word, or a string on one line. -/
def readName (cs : List Char) : Reading String :=
  match cs with
  | '"' :: rest => readLineText '"' (cs.length + 1) [] rest
  | '\'' :: rest => readLineText '\'' (cs.length + 1) [] rest
  | cs =>
    let name := cs.takeWhile isBare
    if name.isEmpty then none else some (String.ofList name, cs.dropWhile isBare)

/-- A key, its parts separated by dots, of which there are at most `fuel`; spaces after it are skipped. -/
def readKey : (fuel : Nat) → List Char → Option (List String × List Char)
  | 0, _ => none
  | fuel + 1, cs => do
    let (name, rest) ← readName (skipSpaces cs)
    match skipSpaces rest with
    | '.' :: rest =>
      let (names, rest) ← readKey fuel rest
      some (name :: names, rest)
    | rest => some ([name], rest)

/-- A key and the sign that its value follows. -/
def readKeySign (cs : List Char) : Option (List String × List Char) := do
  match ← readKey (cs.length + 1) cs with
  | (key, '=' :: rest) => some (key, skipSpaces rest)
  | _ => none

/-! ### Values -/

/-- A value without quotes or brackets. A date and a time of day may be separated by a space. -/
def readScalar (cs : List Char) : Reading Value :=
  let first := cs.takeWhile isScalarChar
  let rest := cs.dropWhile isScalarChar
  match isMoment first && !first.contains ':', rest with
  | true, ' ' :: digit :: more =>
    if digit.isDigit then
      let time := (digit :: more).takeWhile isScalarChar
      (scalar? (first ++ 'T' :: time)).map (·, (digit :: more).dropWhile isScalarChar)
    else (scalar? first).map (·, rest)
  | _, _ => (scalar? first).map (·, rest)

mutual

/-- A value; the fuel bounds the calls that read values, items and members. -/
def readValue : (fuel : Nat) → List Char → Reading Value
  | 0, _ => none
  | fuel + 1, cs =>
    match cs with
    | '"' :: _ | '\'' :: _ => (readText cs).map fun (content, rest) => (.text content, rest)
    | '[' :: rest => readItems fuel [] rest
    | '\x7b' :: rest =>
      match skipSpaces rest with
      | '\x7d' :: rest => some (.table .inline [], rest)
      | rest => readMembers fuel [] rest
    | cs => readScalar cs

/-- The items of a list up to its closing bracket; `before` holds those already read, the last one first. -/
def readItems : (fuel : Nat) → List Value → List Char → Reading Value
  | 0, _, _ => none
  | fuel + 1, before, cs =>
    match skipLines (cs.length + 1) cs with
    | ']' :: rest => some (.list before.reverse, rest)
    | cs =>
      match readValue fuel cs with
      | none => none
      | some (item, rest) =>
        match skipLines (rest.length + 1) rest with
        | ',' :: rest => readItems fuel (item :: before) rest
        | ']' :: rest => some (.list (item :: before).reverse, rest)
        | _ => none

/-- The members of an inline table up to its closing brace, at least one. -/
def readMembers : (fuel : Nat) → Entries → List Char → Reading Value
  | 0, _, _ => none
  | fuel + 1, entries, cs =>
    match readKeySign cs with
    | none => none
    | some (key, rest) =>
      match readValue fuel rest with
      | none => none
      | some (value, rest) =>
        match entries.define value key with
        | none => none
        | some entries =>
          match skipSpaces rest with
          | ',' :: rest => readMembers fuel entries rest
          | '\x7d' :: rest => some (.table .inline entries, rest)
          | _ => none

end

/-! ### Documents -/

/-- A document so far: all entries, and the path of the table that is meant. -/
structure Draft where
  root : Entries
  here : List String

namespace Draft

/-- The draft after a header, a repeated one or not. -/
def enter (d : Draft) (path : List String) (repeated : Bool) : Option Draft := do
  let name ← path.getLast?
  let step := if repeated then Entries.extend name else Entries.introduce name
  some ⟨← d.root.modifyAt step path.dropLast, path⟩

/-- The draft with a value under a key of the table that is meant. -/
def define (d : Draft) (key : List String) (value : Value) : Option Draft := do
  some ⟨← d.root.modifyAt (Entries.define value key) d.here, d.here⟩

/-- The draft after one line that is not blank, and what follows the line. -/
def readLine (d : Draft) (cs : List Char) : Option (Draft × List Char) :=
  match cs with
  | '[' :: '[' :: rest => do
    match ← readKey (rest.length + 1) rest with
    | (path, ']' :: ']' :: rest) => some (← d.enter path true, ← endLine rest)
    | _ => none
  | '[' :: rest => do
    match ← readKey (rest.length + 1) rest with
    | (path, ']' :: rest) => some (← d.enter path false, ← endLine rest)
    | _ => none
  | cs => do
    let (key, rest) ← readKeySign cs
    let (value, rest) ← readValue (rest.length + 1) rest
    some (← d.define key value, ← endLine rest)

end Draft

/-- The lines of a document, of which at most `fuel` are not blank. -/
def readLines : (fuel : Nat) → Draft → List Char → Option Entries
  | 0, _, _ => none
  | fuel + 1, d, cs =>
    match skipComment (skipLines (cs.length + 1) cs) with
    | [] => some d.root
    | cs =>
      match d.readLine cs with
      | some (d, rest) => readLines fuel d rest
      | none => none

/-- The entries of the document that a text holds, if it is well formed. A byte order mark in front is skipped. -/
def parse (document : String) : Option Entries :=
  let cs := match document.toList with
    | '\uFEFF' :: rest => rest
    | cs => cs
  readLines (cs.length + 1) ⟨[], []⟩ cs

end StationFinder.Toml
