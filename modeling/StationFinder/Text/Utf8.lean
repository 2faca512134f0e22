/-!
# UTF-8

Bytes as text. Whether bytes are the encoding of a text is decided by the standard library; this module says
where and how an encoding breaks, and how a broken one is read with marks in the place of broken characters.

The first byte of a character fixes the intervals in which the following bytes must lie. A break is reported at
the first byte of the character in which it occurs, with the number of bytes that still looked like its
beginning; there is no such number when the bytes end before the character does.
-/

namespace StationFinder.Text.Utf8

/-- Where the encoding breaks. -/
structure Break where
  /-- The place of the first byte of the broken character. -/
  index : Nat
  /-- How many bytes were taken for its beginning; none when the bytes ended inside it. -/
  width : Option Nat
deriving DecidableEq, Repr

/-- The break in words. -/
def Break.message : Break → String
  | ⟨index, some width⟩ => s!"invalid utf-8 sequence of {width} bytes from index {index}"
  | ⟨index, none⟩ => s!"incomplete utf-8 byte sequence from index {index}"

/-- The intervals for the bytes that must follow a first byte; none if no character starts with it. -/
def followers (first : Nat) : Option (List (Nat × Nat)) :=
  let any := (0x80, 0xBF)
  if first < 0x80 then some []
  else if first < 0xC2 then none
  else if first < 0xE0 then some [any]
  else if first = 0xE0 then some [(0xA0, 0xBF), any]
  else if first = 0xED then some [(0x80, 0x9F), any]
  else if first < 0xF0 then some [any, any]
  else if first = 0xF0 then some [(0x90, 0xBF), any, any]
  else if first < 0xF4 then some [any, any, any]
  else if first = 0xF4 then some [(0x80, 0x8F), any, any]
  else none

/-- The first break in the bytes, when a character that started at `start` has `seen` bytes so far and still
needs bytes in the `expected` intervals. -/
def breakFrom (start seen : Nat) (expected : List (Nat × Nat)) : List UInt8 → Option Break
  | [] => if expected.isEmpty then none else some ⟨start, none⟩
  | byte :: rest =>
    match expected with
    | (low, high) :: expected =>
      if low ≤ byte.toNat && byte.toNat ≤ high then breakFrom start (seen + 1) expected rest
      else some ⟨start, some seen⟩
    | [] =>
      match followers byte.toNat with
      | some expected => breakFrom (start + seen) 1 expected rest
      | none => some ⟨start + seen, some 1⟩

/-- The first break in the bytes, if there is one. -/
def firstBreak (bytes : List UInt8) : Option Break := breakFrom 0 0 [] bytes

theorem fromUTF8?_eq_some_iff {bytes : ByteArray} {text : String} :
    String.fromUTF8? bytes = some text ↔ bytes = text.toUTF8 := by
  rw [String.fromUTF8?, Option.dite_none_right_eq_some]
  constructor
  · rintro ⟨hvalid, hbytes⟩
    obtain rfl := Option.some.inj hbytes
    rfl
  · rintro rfl
    exact ⟨text.isValidUTF8, rfl⟩

/-- The text that the bytes encode, or where they break. -/
def decode (bytes : ByteArray) : Except Break String :=
  match String.fromUTF8? bytes with
  | some text => .ok text
  | none => .error ((firstBreak bytes.toList).getD ⟨bytes.size, none⟩)

/-- The text with each broken character replaced by a mark, for at most `fuel` of them. -/
def decodeMarkedWithin (mark : String) : (fuel : Nat) → List UInt8 → String
  | 0, _ => ""
  | fuel + 1, bytes =>
    match firstBreak bytes with
    | none => (String.fromUTF8? ⟨bytes.toArray⟩).getD ""
    | some ⟨index, width⟩ =>
      let sound := (String.fromUTF8? ⟨(bytes.take index).toArray⟩).getD ""
      let rest := match width with
        | some width => decodeMarkedWithin mark fuel (bytes.drop (index + width))
        | none => ""
      sound ++ mark ++ rest

/-- The text that the bytes encode, with a mark for every break. -/
def decodeMarked (mark : String) (bytes : List UInt8) : String := decodeMarkedWithin mark (bytes.length + 1) bytes

/-- The text that the bytes encode, with a replacement character for every break. -/
def decodeLossy (bytes : List UInt8) : String := decodeMarked "\uFFFD" bytes

end StationFinder.Text.Utf8
