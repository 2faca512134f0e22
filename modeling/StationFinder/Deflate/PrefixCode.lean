import StationFinder.Deflate.Bits

/-!
# Prefix codes

A code for symbols as a binary tree: a bit chooses a branch, a leaf is a symbol. A code is given by the lengths of
the code words. The words are handed out in order, shorter ones first and those of one length by symbol; each takes
the leftmost place of its depth that is free.
-/

namespace StationFinder.Deflate

/-- A prefix code. -/
inductive PrefixCode where
  /-- No word starts like this. -/
  | gap
  | symbol (s : Nat)
  | branch (zero one : PrefixCode)
deriving Repr

namespace PrefixCode

/-- Does every sequence of bits lead to a symbol? -/
def isComplete : PrefixCode → Bool
  | gap => false
  | symbol _ => true
  | branch zero one => zero.isComplete && one.isComplete

/-- The code with one more symbol, in the leftmost free place at a depth, if there is one. -/
def add (s : Nat) : (depth : Nat) → PrefixCode → Option PrefixCode
  | 0, gap => some (symbol s)
  | depth + 1, gap => (add s depth gap).map (branch · gap)
  | depth + 1, branch zero one =>
    match add s depth zero with
    | some zero => some (branch zero one)
    | none => (add s depth one).map (branch zero ·)
  | _, _ => none

/-- The longest length of a code word. -/
def maxLength : Nat := 15

/-- The code in which the symbols from zero on have words of the given lengths; length zero means that a symbol has
none. There is no such code if the words do not fit. -/
def ofLengths (lengths : List Nat) : Option PrefixCode :=
  let ofLength (length : Nat) : List Nat := (lengths.zipIdx.filter (·.1 = length)).map Prod.snd
  let words := ((List.range maxLength).map (· + 1)).flatMap fun length => (ofLength length).map (length, ·)
  words.foldlM (fun code (length, s) => code.add s length) gap

/-- The symbol that the next bits stand for. -/
def read : PrefixCode → Step Nat
  | gap => throw .corrupt
  | symbol s => return s
  | branch zero one => do
    if (← nextBit) = 0 then zero.read else one.read

end PrefixCode

end StationFinder.Deflate
