import StationFinder.Deflate.Stream

/-!
# Plain streams

The simplest stream for given bytes: the bytes as they are, in blocks of at most sixty-four kilobytes.
-/

namespace StationFinder.Deflate

/-- The most bytes that fit in one block. -/
def maxStored : Nat := 65535

/-- A number below `2 ^ 16` in two bytes, the low one first. -/
def lowFirst (n : Nat) : List UInt8 := [(n % 256).toUInt8, (n / 256 % 256).toUInt8]

/-- The blocks for bytes, for at most `fuel` of them beside the last. -/
def storedBlocks : (fuel : Nat) → List UInt8 → List UInt8
  | fuel + 1, bytes =>
    if bytes.length ≤ maxStored then
      [1] ++ lowFirst bytes.length ++ lowFirst (0xFFFF - bytes.length) ++ bytes
    else
      [0] ++ lowFirst maxStored ++ lowFirst 0 ++ bytes.take maxStored ++ storedBlocks fuel (bytes.drop maxStored)
  | 0, bytes => [1] ++ lowFirst bytes.length ++ lowFirst (0xFFFF - bytes.length) ++ bytes

/-- A stream that expands to the given bytes. -/
def wrap (bytes : ByteArray) : ByteArray :=
  let sum := checksum bytes
  let tail := lowFirst (sum / 65536) ++ lowFirst (sum % 65536)
  let tail := (tail.take 2).reverse ++ (tail.drop 2).reverse
  ⟨([0x78, 0x01] ++ storedBlocks (bytes.size / maxStored) bytes.toList ++ tail).toArray⟩

end StationFinder.Deflate
