import StationFinder.Deflate.Block

/-!
# Streams

A stream in its wrapping: two bytes of header, the blocks, and a checksum of the output. The header names the method
and the size of the window, and is itself a multiple of thirty-one. What follows the checksum is not looked at.

`expand` gives what a stream delivers and whether it came to a clean end. A stream that breaks off delivers all that
it held; one that is corrupt delivers the parts before the one where that shows.
-/

namespace StationFinder.Deflate

/-- The checksum of bytes: one plus their sum, and the sum of all these sums, in sixteen bits each. -/
def checksum (bytes : ByteArray) : Nat :=
  let (low, high) := bytes.foldl
    (fun (low, high) byte =>
      let low := (low + byte.toNat) % 65521
      (low, (high + low) % 65521))
    (1, 0)
  high * 65536 + low

/-- Reads the header. -/
def readHeader : Step Unit := do
  let first := (← nextByte).toNat
  let second := (← nextByte).toNat
  if (first * 256 + second) % 31 ≠ 0 || first % 16 ≠ 8 || 7 < first / 16 || (second / 32) % 2 = 1 then
    throw .corrupt

/-- Reads the checksum and compares it with that of the output. -/
def readChecksum : Step Unit := do
  alignToByte
  let mut written := 0
  for _ in [0:4] do
    written := written * 256 + (← nextByte).toNat
  if checksum (← get).output ≠ written then throw .corrupt

/-- Reads a stream. Each block and each symbol takes at least one bit, so that the number of bits bounds both. -/
def readStream (input : ByteArray) : Step Unit := do
  readHeader
  readBlocks (8 * input.size)
  readChecksum

/-- What a stream delivers. -/
structure Delivery where
  bytes : ByteArray
  /-- Did the stream come to a clean end? -/
  clean : Bool

/-- What a stream delivers, and whether it comes to a clean end. -/
def expand (input : ByteArray) : Delivery :=
  match (readStream input).run ⟨input, 0, .empty, 0⟩ with
  | .ok _ s => ⟨s.output, true⟩
  | .error .truncated s => ⟨s.output, false⟩
  | .error .corrupt s => ⟨s.completeOutput, false⟩

end StationFinder.Deflate
