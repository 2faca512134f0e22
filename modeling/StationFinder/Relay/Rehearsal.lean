import StationFinder.Relay.Listener

/-!
# Rehearsals

A listener run against a transport that follows a script, on a clock that jumps from one event to the next. Each call
of the transport takes the next cue from the script and answers after a delay. A request to stop, or the time after
which a silence counts as too long, may come before the answer; the cue is lost then. A transport that hangs never
answers, so that only one of those two ends the wait.
-/

namespace StationFinder

/-- What a scripted call comes to. -/
inductive Event where
  | ok
  | frame (bytes : ByteArray)
  | fail (reason : String)
  | terminate
  /-- The call never returns. -/
  | hang
  /-- The call makes the listener be asked to stop, and never returns. -/
  | shutdown
  /-- The task of the listener breaks down in the call. -/
  | panic

namespace Event

def name : Event → String
  | ok => "ok"
  | frame _ => "frame"
  | fail _ => "fail"
  | terminate => "terminate"
  | hang => "hang"
  | shutdown => "shutdown"
  | panic => "panic"

/-- The answer to a connection that is tried, if there is one. -/
def connectReply? : Event → Option Reply
  | ok | frame _ => some .connected
  | fail reason => some (.failed reason)
  | terminate => some .terminated
  | hang | shutdown | panic => none

/-- The answer to a frame that is waited for, at a time, if there is one. Success without a frame counts as an empty
one. -/
def recvReply? (now : Nat) : Event → Option Reply
  | ok => some (.frame now .empty)
  | frame bytes => some (.frame now bytes)
  | fail reason => some (.failed reason)
  | terminate => some .terminated
  | hang | shutdown | panic => none

end Event

/-- An event, and after how many milliseconds it comes. -/
structure Cue where
  delay : Nat
  event : Event

/-- The events that calls of the transport take, one each. -/
structure Script where
  connects : List Cue
  recvs : List Cue

/-- A call of the transport that was noticed. -/
structure LoggedCall where
  time : Nat
  deed : Deed
  /-- What the call came to; closing comes to nothing. -/
  event : Option Event
  state : ConnectionState

/-- A rehearsal under way. -/
structure Rehearsal where
  /-- The time in milliseconds. -/
  clock : Nat
  script : Script
  /-- When the listener is asked to stop. -/
  stopAt : Option Nat
  listener : Listener

/-- How a wait ends: when, with which answer, and what was noticed of a call. -/
structure WaitEnd where
  time : Nat
  reply : Reply
  heard : List LoggedCall

namespace Rehearsal

/-- The earlier of a request to stop and the end of patience, with the answer that it means. -/
def interruption? (stopAt patience : Option Nat) : Option (Nat × Reply) :=
  match stopAt, patience with
  | some s, some p => if s < p then some (s, .stop) else some (p, .silence)
  | some s, none => some (s, .stop)
  | none, some p => some (p, .silence)
  | none, none => none

/-- How a call ends, if it ends: by its event, or by an interruption that comes first. Whoever waits for it can be
asked to stop, and loses patience at some time, or neither. -/
def endCall? (s : Rehearsal) (deed : Deed) (cue : Cue) (stoppable : Bool) (patience : Option Nat)
    (reply? : Event → Option Reply) : Option WaitEnd :=
  let time := s.clock + cue.delay
  let heard : List LoggedCall := [⟨time, deed, some cue.event, s.listener.phase.state⟩]
  let interrupted? := interruption? (if stoppable then s.stopAt else none) patience
  match interrupted?.filter (·.1 < time), cue.event, reply? cue.event with
  | some (early, reply), _, _ => some ⟨max s.clock early, reply, []⟩
  | none, .shutdown, _ => if stoppable then some ⟨time, .stop, heard⟩ else none
  | none, _, some reply => some ⟨time, reply, heard⟩
  | none, _, none => interrupted?.map fun (late, reply) => ⟨late, reply, heard⟩

/-- The cue for the next connection: success, unless the script says otherwise. -/
def connectCue (s : Rehearsal) : Cue := s.script.connects.headD ⟨0, .ok⟩

/-- The cue for the next frame: termination, unless the script says otherwise. -/
def recvCue (s : Rehearsal) : Cue := s.script.recvs.headD ⟨0, .terminate⟩

/-- How the present wait ends, if it ends, and the script after it. Frames are stamped with the time since `began`. -/
def await (s : Rehearsal) (t : Tuning) (began : Nat) : Option WaitEnd × Script :=
  match s.listener.phase with
  | .connecting =>
    (s.endCall? .connect s.connectCue true none Event.connectReply?,
      { s.script with connects := s.script.connects.tail })
  | .reconnecting =>
    (s.endCall? .connect s.connectCue false none Event.connectReply?,
      { s.script with connects := s.script.connects.tail })
  | .receiving =>
    (s.endCall? .recv s.recvCue true (some (s.clock + 1000 * t.feed.recvTimeoutSecs))
        (Event.recvReply? (began + s.clock + s.recvCue.delay)),
      { s.script with recvs := s.script.recvs.tail })
  | .pausing seconds =>
    let wake := s.clock + 1000 * seconds
    match s.stopAt.filter (· < wake) with
    | some early => (some ⟨max s.clock early, .stop, []⟩, s.script)
    | none => (some ⟨wake, .rested, []⟩, s.script)
  | .ended _ => (none, s.script)

/-- The calls that closed a connection. -/
def closings (time : Nat) (deeds : Deeds) : List LoggedCall :=
  deeds.filterMap fun (deed, state) => if deed = .close then some ⟨time, deed, none, state⟩ else none

/-- Goes on until the listener ends or waits for ever, for at most `fuel` waits, and gives the calls noticed. -/
def play (t : Tuning) (began : Nat) : (fuel : Nat) → Rehearsal → List LoggedCall × Rehearsal
  | 0, s => ([], s)
  | fuel + 1, s =>
    match s.await t began with
    | (none, _) => ([], s)
    | (some wait, script) =>
      let (listener, deeds) := s.listener.step t wait.reply
      let (later, s) := play t began fuel { s with clock := wait.time, script, listener }
      (wait.heard ++ closings wait.time deeds ++ later, s)

/-- How many waits there can be: at most four for each cue, as every wait for a frame uses one up or is the last. -/
def waits (script : Script) : Nat := 4 * (script.connects.length + script.recvs.length + 1)

/-- The whole of a run: the calls noticed, and how things stand at the end. -/
def perform (t : Tuning) (began : Nat) (script : Script) (stopAt : Option Nat) (receiver : Receiver) :
    List LoggedCall × Rehearsal :=
  let (listener, deeds) := Listener.start receiver (stopAt = some 0)
  let (later, s) := play t began (waits script) ⟨0, script, stopAt, listener⟩
  (closings 0 deeds ++ later, s)

end Rehearsal

end StationFinder
