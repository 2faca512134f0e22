import StationFinder.Galaxy.Store
import StationFinder.Relay.Frame
import StationFinder.Settings.Basic

/-!
# Receiving

What is done with the frames of the relay: each is decoded and what it announces goes to the store. A frame that
cannot be decoded is counted and otherwise left without effect.
-/

namespace StationFinder

/-- Counts of what came over the relay, and of what went wrong with the connection. -/
structure Traffic where
  framesReceived : Nat
  shipyardApplied : Nat
  outfittingApplied : Nat
  /-- Messages of no interest. -/
  discarded : Nat
  decompressionErrors : Nat
  parseErrors : Nat
  unknownShips : Nat
  unknownModules : Nat
  transportErrors : Nat
  timeouts : Nat
  panics : Nat
deriving DecidableEq, Repr

def Traffic.zero : Traffic := ⟨0, 0, 0, 0, 0, 0, 0, 0, 0, 0, 0⟩

/-- The store as the relay fills it, with the counts. -/
structure Receiver where
  store : Store
  traffic : Traffic

/-- What is needed to listen to the relay and to understand it. -/
structure Tuning where
  catalog : Catalog
  feed : FeedSettings

namespace Traffic

/-- One more frame, which could not be decoded. -/
def countFault (t : Traffic) : Fault → Traffic
  | .frame _ => { t with decompressionErrors := t.decompressionErrors + 1 }
  | _ => { t with parseErrors := t.parseErrors + 1 }

/-- One more announcement. -/
def countAnnouncement (t : Traffic) : Announcement → Traffic
  | .discarded => { t with discarded := t.discarded + 1 }
  | .ships _ _ _ unknown =>
    { t with shipyardApplied := t.shipyardApplied + 1, unknownShips := t.unknownShips + unknown.length }
  | .modules _ _ _ unknown _ =>
    { t with outfittingApplied := t.outfittingApplied + 1, unknownModules := t.unknownModules + unknown.length }

end Traffic

/-- The store after an announcement. -/
def Store.apply (s : Store) (now : Nat) : Announcement → Store
  | .discarded => s
  | .ships system station ships _ => (s.updateShips system station ships now).2
  | .modules system station update _ _ => (s.updateModules system station update now).2

namespace Receiver

/-- Takes in a frame. -/
def handleFrame (r : Receiver) (t : Tuning) (now : Nat) (frame : ByteArray) : Except Fault Unit × Receiver :=
  let traffic := { r.traffic with framesReceived := r.traffic.framesReceived + 1 }
  match Frame.announcement t.catalog t.feed.maxFrameBytes frame with
  | .error fault => (.error fault, { r with traffic := traffic.countFault fault })
  | .ok a => (.ok (), ⟨r.store.apply now a, traffic.countAnnouncement a⟩)

end Receiver

end StationFinder
