import StationFinder.Relay.Rehearsal
import StationFinder.Relay.Supervisor

/-!
# The stage

A supervisor whose transports all follow one script. Nothing takes any time: what is in the script happens at once, and
when it has no more frames the listener waits. More can be added to the script at any time. A call that hangs keeps the
listener waiting until it is stopped.
-/

namespace StationFinder

/-- A supervisor with the script of its transports. -/
structure Stage where
  supervisor : Supervisor
  script : Script
  /-- Does the call that the listener waits for hang? -/
  hung : Bool
  /-- How often the transports were told to connect, and to close. -/
  connects : Nat
  closes : Nat

namespace Stage

/-- The stage at the start. -/
def ofScript (receiver : Receiver) (script : Script) : Stage := ⟨.idle receiver, script, false, 0, 0⟩

/-- The stage once the supervisor has moved on. -/
def follow (s : Stage) (moved : Supervisor × Deeds) : Stage :=
  { s with
    supervisor := moved.1
    connects := s.connects + (moved.2.filter (·.1 = .connect)).length
    closes := s.closes + (moved.2.filter (·.1 = .close)).length }

/-- What an event comes to: an incident, or nothing if the call hangs. -/
def incident? (reply? : Event → Option Reply) : Event → Option Incident
  | .panic => some .breakdown
  | event => (reply? event).map .reply

/-- The stage after an event has been taken from the script. -/
def take (s : Stage) (t : Tuning) (event : Event) (reply? : Event → Option Reply) : Stage :=
  match incident? reply? event with
  | some incident => s.follow (s.supervisor.handle t incident)
  | none => { s with hung := true }

/-- What happens next, unless the listener waits; frames are stamped with a time. -/
def next? (s : Stage) (t : Tuning) (now : Nat) : Option Stage :=
  match s.supervisor.worker.map Worker.phase with
  | none | some .done => none
  | some (.recovering _) => some (s.follow (s.supervisor.handle t .rested))
  | some .working =>
    if s.hung then none
    else match s.supervisor.listener.phase with
      | .connecting | .reconnecting =>
        let s' := { s with script := { s.script with connects := s.script.connects.tail } }
        some (s'.take t (s.script.connects.headD ⟨0, .ok⟩).event Event.connectReply?)
      | .receiving =>
        match s.script.recvs with
        | [] => none
        | cue :: recvs =>
          let s' := { s with script := { s.script with recvs } }
          some (s'.take t cue.event (Event.recvReply? now))
      | .pausing _ => some (s.follow (s.supervisor.handle t (.reply .rested)))
      | .ended _ => none

/-- Lets things happen until the listener waits, for at most `fuel` steps. The clock is read at each step. -/
def settleWithin (t : Tuning) (clock : Clock) : (fuel : Nat) → Stage → Stage
  | 0, s => s
  | fuel + 1, s =>
    match s.next? t (clock 0) with
    | some s => settleWithin t (fun reading => clock (reading + 1)) fuel s
    | none => s

/-- Lets things happen until the listener waits. -/
def settle (s : Stage) (t : Tuning) (clock : Clock) : Stage := settleWithin t clock (Rehearsal.waits s.script) s

/-- Adds events to the script. -/
def extend (s : Stage) (more : Script) : Stage :=
  { s with script := ⟨s.script.connects ++ more.connects, s.script.recvs ++ more.recvs⟩ }

/-- Starts the supervisor. -/
def start (s : Stage) (provision : Provision) : Except Fault Unit × Stage :=
  let (result, moved) := s.supervisor.start provision
  (result, s.follow moved)

/-- Stops the supervisor; a call that hangs is given up. -/
def stop (s : Stage) (t : Tuning) : Stage := { s.follow (s.supervisor.stop t) with hung := false }

/-- For each transport built so far, whether its context is terminated. -/
def terminations (s : Stage) : List Bool :=
  s.supervisor.transports.map fun context => (s.supervisor.contexts[context]?).getD false

end Stage

end StationFinder
