import StationFinder.Relay.Receiver

/-!
# The listener

The listener keeps a connection to the relay and takes in its frames. It is always in one of a few phases, in each of
which it waits for the answer to something it has asked for, and an answer takes it to the next one. A failure makes
it close the connection, pause, and connect again; the pauses get longer with each failure until a frame is taken in
without an error. When no frame comes for a long time it closes the connection and connects again at once. Once it is
told that the transport is terminated, or that it shall stop, it closes the connection and ends.

The deeds of a listener are what it does to its transport, in order, each with the state that it shows at that time.
-/

namespace StationFinder

/-- What a listener shows of itself. -/
inductive ConnectionState where
  | disconnected
  | connecting
  | listening
  | terminated
deriving DecidableEq, Repr

/-- How a listener ends. -/
inductive Ending where
  /-- It was asked to stop. -/
  | stopped
  /-- The transport was terminated on purpose. -/
  | terminated
deriving DecidableEq, Repr

/-- What a listener is waiting for. -/
inductive Phase where
  /-- A first connection, or one after a failure. -/
  | connecting
  /-- A frame. -/
  | receiving
  /-- A fresh connection in the place of one that fell silent. A request to stop has to wait until it stands. -/
  | reconnecting
  /-- The end of a pause after a failure. -/
  | pausing (seconds : Nat)
  /-- Nothing any more. -/
  | ended (how : Ending)
deriving DecidableEq, Repr

/-- The state that a listener shows in a phase. -/
def Phase.state : Phase → ConnectionState
  | connecting => .connecting
  | receiving | reconnecting => .listening
  | pausing _ | ended .stopped => .disconnected
  | ended .terminated => .terminated

/-- What can come of waiting. -/
inductive Reply where
  | connected
  /-- A frame came in at a time. -/
  | frame (now : Nat) (bytes : ByteArray)
  /-- No frame came for as long as the listener waits. -/
  | silence
  | failed (reason : String)
  | terminated
  /-- The pause is over. -/
  | rested
  /-- The listener shall stop. -/
  | stop

/-- What a listener does. -/
inductive Deed where
  | connect
  | recv
  | close
  | pause (seconds : Nat)
deriving DecidableEq, Repr

/-- A listener at work. -/
structure Listener where
  phase : Phase
  /-- The failures since the start, or since the last frame that was taken in without an error. -/
  failures : Nat
  receiver : Receiver

/-- Deeds, each with the state shown at that time. -/
abbrev Deeds := List (Deed × ConnectionState)

namespace Listener

/-! ### What follows an answer -/

/-- Connects. -/
def connect (l : Listener) : Listener × Deeds := ({ l with phase := .connecting }, [(.connect, .connecting)])

/-- Waits for a frame. -/
def listen (l : Listener) : Listener × Deeds := ({ l with phase := .receiving }, [(.recv, .listening)])

/-- Ends because it was asked to. -/
def finish (l : Listener) : Listener × Deeds := ({ l with phase := .ended .stopped }, [(.close, l.phase.state)])

/-- Ends because the transport is terminated. -/
def giveUp (l : Listener) : Listener × Deeds := ({ l with phase := .ended .terminated }, [(.close, .disconnected)])

/-- Pauses after a failure. -/
def retreat (l : Listener) (t : Tuning) : Listener × Deeds :=
  let traffic := { l.receiver.traffic with transportErrors := l.receiver.traffic.transportErrors + 1 }
  let seconds := t.feed.backoff l.failures
  ({ phase := .pausing seconds, failures := l.failures + 1, receiver := { l.receiver with traffic } },
    [(.close, .disconnected), (.pause seconds, .disconnected)])

/-- Connects again after a silence. -/
def refresh (l : Listener) : Listener × Deeds :=
  let traffic := { l.receiver.traffic with timeouts := l.receiver.traffic.timeouts + 1 }
  ({ l with phase := .reconnecting, receiver := { l.receiver with traffic } },
    [(.close, .listening), (.connect, .listening)])

/-- Takes in a frame and waits for the next one. -/
def takeIn (l : Listener) (t : Tuning) (now : Nat) (bytes : ByteArray) : Listener × Deeds :=
  match l.receiver.handleFrame t now bytes with
  | (.ok _, receiver) => listen { l with failures := 0, receiver }
  | (.error _, receiver) => listen { l with receiver }

/-! ### Runs -/

/-- What an answer makes a listener do; one that it is not waiting for changes nothing. -/
def step (t : Tuning) (l : Listener) (reply : Reply) : Listener × Deeds :=
  match l.phase, reply with
  | .connecting, .connected | .reconnecting, .connected => l.listen
  | .connecting, .failed _ | .receiving, .failed _ | .reconnecting, .failed _ => l.retreat t
  | .connecting, .terminated | .receiving, .terminated | .reconnecting, .terminated => l.giveUp
  | .connecting, .stop | .receiving, .stop | .pausing _, .stop => l.finish
  | .receiving, .frame now bytes => l.takeIn t now bytes
  | .receiving, .silence => l.refresh
  | .pausing _, .rested => l.connect
  | _, _ => (l, [])

/-- A listener at the start of a run, which ends at once if it was asked to stop before. -/
def start (receiver : Receiver) (stopped : Bool) : Listener × Deeds :=
  let l : Listener := { phase := .ended .stopped, failures := 0, receiver }
  if stopped then l.finish else l.connect

/-- A listener after a series of answers, with all it has done. -/
def run (t : Tuning) (l : Listener) : List Reply → Listener × Deeds
  | [] => (l, [])
  | reply :: replies =>
    let (l, deeds) := l.step t reply
    let (l, later) := l.run t replies
    (l, deeds ++ later)

end Listener

end StationFinder
