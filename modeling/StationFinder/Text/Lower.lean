import StationFinder.Text.CaseTable

/-!
# Lower case

Full lower-casing by the rules of Unicode: each capital by the table, the dotted capital I as `i` with a dot
above, and the capital sigma by its place. A sigma that ends a word is written `ς`, any other `σ`; it ends a
word when a letter with case stands before it and none after it, not counting marks and apostrophes.
-/

namespace StationFinder.Text

/-- Does a code point lie in one of the closed intervals? -/
def inIntervals (table : List (Nat × Nat)) (n : Nat) : Bool :=
  table.any fun (first, last) => first ≤ n && n ≤ last

/-- Does the character have case, as letters do? -/
def isCased (c : Char) : Bool :=
  if c.toNat < 0x80 then c.isAlpha else inIntervals casedIntervals c.toNat

/-- Is the character looked through when the surroundings of a sigma are examined? -/
def isCaseIgnorable (c : Char) : Bool := inIntervals ignorableIntervals c.toNat

/-- A character in lower case, its surroundings aside. -/
def lowerChar (c : Char) : List Char :=
  if c.toNat < 0x80 then [c.toLower]
  else if c = 'İ' then ['i', '\u0307']
  else match capitalRuns.find? (·.holds c.toNat) with
    | some run => [Char.ofNat (c.toNat + run.shift).toNat]
    | none => [c]

/-- Does a cased character come next, when ignorable ones are passed over? -/
def startsCased (cs : List Char) : Bool :=
  match cs.dropWhile isCaseIgnorable with
  | c :: _ => isCased c
  | [] => false

/-- Characters in lower case; `afterCased` says whether a cased character stands just before them, ignorable
ones passed over. -/
def lowerAfter (afterCased : Bool) : List Char → List Char
  | [] => []
  | c :: rest =>
    (if c = 'Σ' then [if afterCased && !startsCased rest then 'ς' else 'σ'] else lowerChar c) ++
      lowerAfter (if isCaseIgnorable c then afterCased else isCased c) rest

/-- The text in lower case. -/
def lower (s : String) : String := String.ofList (lowerAfter false s.toList)

end StationFinder.Text
