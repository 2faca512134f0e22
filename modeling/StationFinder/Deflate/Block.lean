import StationFinder.Deflate.PrefixCode

/-!
# Blocks

A compressed stream is a series of blocks, the last one marked. A block holds bytes as they are, or symbols of two
prefix codes, which are either fixed or described in front of the symbols, by lengths that are themselves written
in a prefix code. A symbol is a byte, the end of the block, or the length of a piece of earlier output that is to be
repeated; how far back that piece starts follows in the second code. What lies before the start of the output counts
as zeros.
-/

namespace StationFinder.Deflate

/-! ### Repeated pieces -/

/-- The byte some places back in the output. -/
def byteBack (output : ByteArray) (distance : Nat) : UInt8 :=
  if h : 0 < distance ∧ distance ≤ output.size then
    have : output.size - distance < output.size := by omega
    output[output.size - distance]
  else 0

/-- The output after a piece of it, which may reach into what it adds, is repeated. -/
def repeatPiece (distance : Nat) : (length : Nat) → ByteArray → ByteArray
  | 0, output => output
  | length + 1, output => repeatPiece distance length (output.push (byteBack output distance))

/-- A table of intervals, by their least numbers and the number of bits that choose within each. -/
abbrev Intervals := List (Nat × Nat)

/-- Intervals that follow each other from a least number on, given the bits that choose within each. -/
def intervalsFrom (least : Nat) : List Nat → Intervals
  | [] => []
  | bits :: rest => (least, bits) :: intervalsFrom (least + (1 <<< bits)) rest

/-- The lengths of pieces. The greatest length has a symbol of its own, though the interval before it could
express it. -/
def pieceLengths : Intervals :=
  intervalsFrom 3 [0, 0, 0, 0, 0, 0, 0, 0, 1, 1, 1, 1, 2, 2, 2, 2, 3, 3, 3, 3, 4, 4, 4, 4, 5, 5, 5, 5] ++ [(258, 0)]

/-- How far back pieces start. -/
def pieceDistances : Intervals :=
  intervalsFrom 1 [0, 0, 0, 0, 1, 1, 2, 2, 3, 3, 4, 4, 5, 5, 6, 6, 7, 7, 8, 8, 9, 9, 10, 10, 11, 11, 12, 12, 13, 13]

/-- A number: the interval is known, the bits that choose within it come next. -/
def readInInterval (intervals : Intervals) (index : Nat) : Step Nat :=
  match intervals[index]? with
  | some (least, bits) => return least + (← readBits bits)
  | none => throw .corrupt

/-! ### Symbols -/

/-- The symbol that ends a block; smaller ones are bytes, greater ones lengths. -/
def endOfBlock : Nat := 256

/-- Reads symbols up to the end of the block, for at most `fuel` of them. -/
def readSymbols (literals distances : PrefixCode) : (fuel : Nat) → Step Unit
  | 0 => throw .truncated
  | fuel + 1 => do
    let s ← literals.read
    if s < endOfBlock then
      emit s.toUInt8
      readSymbols literals distances fuel
    else if s = endOfBlock then return ()
    else
      let length ← readInInterval pieceLengths (s - endOfBlock - 1)
      let distance ← readInInterval pieceDistances (← distances.read)
      modify fun state => { state with output := repeatPiece distance length state.output }
      readSymbols literals distances fuel

/-- The lengths of the words in the fixed code for bytes and lengths. -/
def fixedLiterals : List Nat :=
  List.replicate 144 8 ++ List.replicate 112 9 ++ List.replicate 24 7 ++ List.replicate 8 8

/-- The lengths of the words in the fixed code for distances. -/
def fixedDistances : List Nat := List.replicate 32 5

/-- The code of words of given lengths. It may have gaps only if it has at most one word. -/
def codeOfLengths (lengths : List Nat) : Step PrefixCode :=
  match PrefixCode.ofLengths lengths with
  | some code =>
    if code.isComplete || (lengths.filter (· ≠ 0)).length ≤ 1 then return code else throw .corrupt
  | none => throw .corrupt

/-! ### Described codes -/

/-- The order in which the lengths of the code for lengths are written. -/
def lengthOrder : List Nat := [16, 17, 18, 0, 8, 7, 9, 6, 10, 5, 11, 4, 12, 3, 13, 2, 14, 1, 15]

/-- Reads word lengths until there are as many as needed; `before` holds those already read, the last one first.
Besides the lengths themselves there are signs that repeat the last length, or zero, several times. -/
def readLengths (code : PrefixCode) (needed : Nat) : (fuel : Nat) → (before : List Nat) → Step (List Nat)
  | 0, _ => throw .corrupt
  | fuel + 1, before => do
    if before.length = needed then return before.reverse
    else if needed < before.length then throw .corrupt
    else
      let s ← code.read
      if s < 16 then readLengths code needed fuel (s :: before)
      else
        let (least, bits, length?) := match s with
          | 16 => (3, 2, before.head?)
          | 17 => (3, 3, some 0)
          | _ => (11, 7, some 0)
        match length? with
        | none => throw .corrupt
        | some length =>
          let times := least + (← readBits bits)
          readLengths code needed fuel (List.replicate times length ++ before)

/-- Reads the description of the two codes of a block. -/
def readCodes : Step (PrefixCode × PrefixCode) := do
  let literalCount := 257 + (← readBits 5)
  let distanceCount := 1 + (← readBits 5)
  let lengthCount := 4 + (← readBits 4)
  if 286 < literalCount || 30 < distanceCount then throw .corrupt
  let written ← (lengthOrder.take lengthCount).mapM fun s => return (s, ← readBits 3)
  let lengths := (List.range lengthOrder.length).map fun s => (written.lookup s).getD 0
  match PrefixCode.ofLengths lengths with
  | none => throw .corrupt
  | some code =>
    if !code.isComplete then throw .corrupt
    let lengths ← readLengths code (literalCount + distanceCount) (literalCount + distanceCount + 1) []
    return (← codeOfLengths (lengths.take literalCount), ← codeOfLengths (lengths.drop literalCount))

/-! ### Blocks -/

/-- Copies bytes from the input to the output. -/
def copyBytes : Nat → Step Unit
  | 0 => return ()
  | n + 1 => do
    emit (← nextByte)
    copyBytes n

/-- Reads a block that holds bytes as they are. -/
def readStored : Step Unit := do
  alignToByte
  let length ← readBits 16
  let check ← readBits 16
  if length + check = 0xFFFF then copyBytes length else throw .corrupt

/-- Reads one block, with at most `fuel` symbols, and says whether it is the last one. -/
def readBlock (fuel : Nat) : Step Bool := do
  let last ← nextBit
  match ← readBits 2 with
  | 0 => readStored
  | 1 => readSymbols (← codeOfLengths fixedLiterals) (← codeOfLengths fixedDistances) fuel
  | 2 =>
    let (literals, distances) ← readCodes
    readSymbols literals distances fuel
  | _ => throw .corrupt
  return last = 1

/-- Reads blocks up to the last one, for at most `fuel` of them. -/
def readBlocks : (fuel : Nat) → Step Unit
  | 0 => throw .truncated
  | fuel + 1 => do
    if ← readBlock (fuel + 1) then return () else readBlocks fuel

end StationFinder.Deflate
