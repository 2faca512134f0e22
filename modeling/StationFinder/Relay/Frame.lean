import StationFinder.Deflate.Stream
import StationFinder.Relay.Announcement

/-!
# Frames

The relay sends each message as a compressed stream, a frame. What it holds is a text of limited size; a frame that
delivers more is refused for that, whatever comes after.
-/

namespace StationFinder.Frame

/-- What somebody has who takes bytes from a delivery until no more come, but no more than a limit. That the stream is
broken only shows when he asks for a byte that is not there, and leaves him with nothing. -/
def taken? (delivery : Deflate.Delivery) (limit : Nat) : Option ByteArray :=
  if delivery.bytes.size < limit && !delivery.clean then none else some (delivery.bytes.extract 0 limit)

/-- The text that a delivery makes, if it is clean, encodes a text, and is not too large. One byte more than a text may
have is taken, which tells whether it is too large. -/
def textOf (delivery : Deflate.Delivery) (maxBytes : Nat) : Except Fault String :=
  match taken? delivery (maxBytes + 1) with
  | none => .error (.frame .corrupt)
  | some bytes =>
    if maxBytes < bytes.size then .error (.frame (.tooLarge maxBytes))
    else match Text.Utf8.decode bytes with
      | .ok text => .ok text
      | .error place => .error (.frame (.notText place))

/-- The text in a frame. Sizes are counted in sixty-four bits, so the largest such number can be no limit for a message:
one byte more could not be counted. -/
def inflate (frame : ByteArray) (maxBytes : Nat) : Except Fault String := textOf (Deflate.expand frame) maxBytes

/-- The announcement in a frame. -/
def announcement (catalog : Catalog) (maxBytes : Nat) (frame : ByteArray) : Except Fault Announcement := do
  Announcement.ofPayload catalog (← inflate frame maxBytes)

end StationFinder.Frame
