import StationFinder.Health
import StationFinder.Relay.Listener

/-!
# The supervisor

The supervisor starts the listener and stops it. For each start there is a worker with a context of its own, which
lets every transport built for that worker be terminated at once. When the listener breaks down, the worker pauses,
longer after each breakdown, and then lets it run again on a new transport of the same context. A listener that ends
is not started again, except by a new order. A worker takes a thread and a runtime. Without a thread there is none, and
the order fails; without a runtime it ends before the listener goes to work.

An order to stop terminates the context and tells the worker, in this order, and waits for it to end. Until then the
listener goes on, and may still break down. A journal keeps record of what the workers have done.
-/

namespace StationFinder

/-- What a worker is about. -/
inductive WorkerPhase where
  /-- The listener runs. -/
  | working
  /-- The listener has broken down, and a pause has to pass. -/
  | recovering (seconds : Nat)
  /-- The listener has ended. -/
  | done
deriving DecidableEq, Repr

/-- A worker. -/
structure Worker where
  /-- The number of its context. -/
  context : Nat
  /-- How often the listener has broken down under it. -/
  breakdowns : Nat
  /-- Has it been told to stop? -/
  told : Bool
  phase : WorkerPhase
deriving DecidableEq, Repr

/-- What there is for a new worker to run on. -/
inductive Provision where
  /-- A thread with a runtime. -/
  | full
  /-- A thread, on which no runtime can be built. -/
  | noRuntime
  /-- No thread can be had. -/
  | noThread (reason : String)
deriving DecidableEq, Repr

/-- What is on record of a worker. -/
inductive Mark where
  /-- A transport was built, and the listener went to work on it. -/
  | built
  /-- The listener broke down, and a pause of so many seconds began. There is none once the worker is told to stop. -/
  | broke (pause : Option Nat)
  /-- The pause after a breakdown passed without being cut short. -/
  | rested
  /-- There was no runtime for the worker, which ended at once. -/
  | stranded
  /-- The worker was told to stop. -/
  | told
  /-- The worker ended, as its listener did or else after a breakdown, because it had been told to stop. -/
  | left (how : Option Ending)
deriving DecidableEq, Repr

/-- The listener with the worker that runs it, if there is one. -/
structure Supervisor where
  listener : Listener
  worker : Option Worker
  /-- For each context made so far, whether it is terminated. -/
  contexts : List Bool
  /-- What is on record of all workers so far, each mark with the number of the context. -/
  journal : List (Nat × Mark)

/-- What happens to a worker. -/
inductive Incident where
  /-- The listener gets an answer. -/
  | reply (reply : Reply)
  /-- The task of the listener breaks down. -/
  | breakdown
  /-- The pause after a breakdown is over. -/
  | rested
  /-- The pause after a breakdown is cut short, as it can be once the worker is told to stop. -/
  | halted

namespace Supervisor

/-- The supervisor before any order. -/
def idle (receiver : Receiver) : Supervisor := ⟨⟨.ended .stopped, 0, receiver⟩, none, [], []⟩

/-- For each transport built so far, the number of its context. -/
def transports (s : Supervisor) : List Nat :=
  s.journal.filterMap fun (context, mark) => if mark = .built then some context else none

/-- Is there a worker that has not ended? -/
def isAlive (s : Supervisor) : Bool := s.worker.any (·.phase ≠ .done)

/-- The state that the listener shows. -/
def state (s : Supervisor) : ConnectionState := s.listener.phase.state

/-- Is the listener at work and connected? -/
def isRunning (s : Supervisor) : Bool := s.isAlive && s.state = .listening

/-- The health of the feed: it is well while the listener is connected. -/
def health (s : Supervisor) : Health :=
  if s.isRunning then .fine
  else match s.state with
    | .terminated => .ill "feed transport terminated"
    | .connecting => .ill "connecting to feed"
    | _ => .ill "not connected to feed"

/-! ### Workers -/

/-- Puts something on record of a worker. -/
def note (s : Supervisor) (w : Worker) (mark : Mark) : Supervisor :=
  { s with journal := s.journal ++ [(w.context, mark)] }

/-- Goes on with what the listener has come to; the worker ends with it. -/
def proceed (s : Supervisor) (w : Worker) (moved : Listener × Deeds) : Supervisor × Deeds :=
  match moved.1.phase with
  | .ended how =>
    ({ s.note w (.left (some how)) with listener := moved.1, worker := some { w with phase := .done } }, moved.2)
  | _ => ({ s with listener := moved.1, worker := some { w with phase := .working } }, moved.2)

/-- Lets the listener run on a new transport, for a worker. -/
def launch (s : Supervisor) (w : Worker) : Supervisor × Deeds :=
  (s.note w .built).proceed w (Listener.start s.listener.receiver w.told)

/-- What a breakdown of the listener does: it is counted, and the worker pauses unless it is told to stop. -/
def collapse (s : Supervisor) (t : Tuning) (w : Worker) : Supervisor × Deeds :=
  let receiver := s.listener.receiver
  let traffic := { receiver.traffic with panics := receiver.traffic.panics + 1 }
  let s := { s with listener := ⟨.ended .stopped, 0, { receiver with traffic }⟩ }
  if w.told then
    ({ (s.note w (.broke none)).note w (.left none) with
        worker := some { w with breakdowns := w.breakdowns + 1, phase := .done } }, [])
  else
    let seconds := t.feed.backoff w.breakdowns
    ({ s.note w (.broke (some seconds)) with
        worker := some { w with breakdowns := w.breakdowns + 1, phase := .recovering seconds } },
      [(.pause seconds, .disconnected)])

/-- What an incident does to a worker; one that does not fit what the worker is about changes nothing. -/
def handle (s : Supervisor) (t : Tuning) (incident : Incident) : Supervisor × Deeds :=
  match s.worker with
  | none => (s, [])
  | some w =>
    match w.phase, incident with
    | .working, .reply reply => s.proceed w (s.listener.step t reply)
    | .working, .breakdown => s.collapse t w
    | .recovering _, .rested => (s.note w .rested).launch w
    | .recovering _, .halted =>
      if w.told then ({ s.note w (.left none) with worker := some { w with phase := .done } }, []) else (s, [])
    | _, _ => (s, [])

/-- What a series of incidents does. -/
def handleAll (s : Supervisor) (t : Tuning) : List Incident → Supervisor × Deeds
  | [] => (s, [])
  | incident :: incidents =>
    let (s, deeds) := s.handle t incident
    let (s, later) := s.handleAll t incidents
    (s, deeds ++ later)

/-! ### Orders -/

/-- Makes a worker with a new context, unless there is one that has not ended. -/
def start (s : Supervisor) (provision : Provision) : Except Fault Unit × Supervisor × Deeds :=
  if s.isAlive then (.ok (), s, [])
  else
    let w : Worker := { context := s.contexts.length, breakdowns := 0, told := false, phase := .working }
    let prepared := { s with contexts := s.contexts ++ [false] }
    match provision with
    | .full => (.ok (), prepared.launch w)
    | .noRuntime => (.ok (), { prepared.note w .stranded with worker := some { w with phase := .done } }, [])
    | .noThread reason => (.error (.io reason), { s with worker := none }, [])

/-- Terminates a context. -/
def terminate (s : Supervisor) (context : Nat) : Supervisor := { s with contexts := s.contexts.set context true }

/-- Tells the worker to stop. -/
def tell (s : Supervisor) : Supervisor :=
  match s.worker with
  | some w => { s.note w .told with worker := some { w with told := true } }
  | none => s

/-- Sees a worker that was told to stop to its end: what the listener waits for from the transport comes to its
termination, and a pause is cut short. -/
def windUp (s : Supervisor) (t : Tuning) : Supervisor × Deeds :=
  match s.worker.map Worker.phase, s.listener.phase with
  | some (.recovering _), _ => s.handle t .halted
  | _, .pausing _ => s.handle t (.reply .stop)
  | _, _ => s.handle t (.reply .terminated)

/-- Lets go of the worker, which has ended. -/
def dismiss (s : Supervisor) : Supervisor :=
  { s with listener := { s.listener with phase := .ended .stopped }, worker := none }

/-- Terminates the context of the worker, if there is one, tells it to stop and sees it to its end, while some things
still happen: `first` before it is told, and `later` after that. -/
def stopAmid (s : Supervisor) (t : Tuning) (first later : List Incident) : Supervisor × Deeds :=
  match s.worker with
  | none => (s, [])
  | some w =>
    let (s, deeds) := (s.terminate w.context).handleAll t first
    let (s, deeds') := s.tell.handleAll t later
    let (s, deeds'') := s.windUp t
    (s.dismiss, deeds ++ deeds' ++ deeds'')

/-- Stops at once. -/
def stop (s : Supervisor) (t : Tuning) : Supervisor × Deeds := s.stopAmid t [] []

/-- Stops, while some things still happen, and starts. -/
def restartAmid (s : Supervisor) (t : Tuning) (first later : List Incident) (provision : Provision) :
    Except Fault Unit × Supervisor × Deeds :=
  let (s, deeds) := s.stopAmid t first later
  let (result, s, deeds') := s.start provision
  (result, s, deeds ++ deeds')

/-- Stops and starts. -/
def restart (s : Supervisor) (t : Tuning) (provision : Provision) : Except Fault Unit × Supervisor × Deeds :=
  s.restartAmid t [] [] provision

end Supervisor

end StationFinder
