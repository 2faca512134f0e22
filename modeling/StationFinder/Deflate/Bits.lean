/-!
# Reading bits

The state of a decompression: the compressed bytes, how many bits of them are used up, and the bytes that came out
so far. Bits are taken from the low end of each byte. A read beyond the end stops the decompression, and so does
anything that cannot be part of a compressed stream.

What comes out is handed on in parts. A part ends when as much has come in, or is about to go out, as a page holds.
If the stream turns out to be corrupt within a part, that part is not handed on; `settled` counts the bytes of the
parts that end with a page of input.
-/

namespace StationFinder.Deflate

/-- Why a decompression ends before its time. -/
inductive Stop where
  | truncated
  | corrupt
deriving DecidableEq, Repr

/-- A decompression under way. -/
structure State where
  input : ByteArray
  /-- How many bits are used up. -/
  bit : Nat
  output : ByteArray
  /-- How many bytes of output were complete when the current page of input began. -/
  settled : Nat

/-- A step of a decompression. -/
abbrev Step := EStateM Stop State

/-- The bytes of input, or of output, that make a page. -/
def pageSize : Nat := 32768

namespace State

/-- The state with some bits used up, in which a page of input begins if it does so with these bits. -/
def advance (s : State) (bits : Nat) : State :=
  let settled := if s.bit % (8 * pageSize) = 0 then s.output.size else s.settled
  { s with bit := s.bit + bits, settled }

/-- The output of the parts that are complete. -/
def completeOutput (s : State) : ByteArray :=
  s.output.extract 0 (max s.settled ((s.output.size - 1) / pageSize * pageSize))

end State

/-- The next bit. -/
def nextBit : Step Nat := do
  let s ← get
  if h : s.bit / 8 < s.input.size then
    set (s.advance 1)
    return (s.input[s.bit / 8].toNat >>> (s.bit % 8)) % 2
  else throw .truncated

/-- The number in the next bits, the lowest bit first. -/
def readBits : Nat → Step Nat
  | 0 => return 0
  | n + 1 => do
    let low ← nextBit
    let rest ← readBits n
    return low + 2 * rest

/-- Leaves out the bits that are left in the current byte. -/
def alignToByte : Step Unit := modify fun s => { s with bit := (s.bit + 7) / 8 * 8 }

/-- The next byte, at a byte boundary. -/
def nextByte : Step UInt8 := do
  let s ← get
  if h : s.bit / 8 < s.input.size then
    set (s.advance 8)
    return s.input[s.bit / 8]
  else throw .truncated

/-- Adds a byte to the output. -/
def emit (byte : UInt8) : Step Unit := modify fun s => { s with output := s.output.push byte }

end StationFinder.Deflate
