import StationFinder.Proofs.Relay.LastWord
import StationFinder.Relay.Listener

/-!
# Conversations of a listener

A listener asks for a connection, a frame or a pause and waits for the answer. Which answers it waits for depends on
its phase (`Phase.awaits`); what it makes of one that it waits for depends on the answer alone
(`Listener.step_eq_respond`), and any other changes nothing. So the answers that were heeded tell what is on the books
of the listener after them (`Listener.accounts_run`): the store is as the frames among them make it, taken in one by
one, and every failure and every silence is counted once.
-/

namespace StationFinder

/-! ### Answers -/

namespace Reply

/-- The frame that an answer brings, with its time of arrival. -/
def frame? : Reply → Option (Nat × ByteArray)
  | frame now bytes => some (now, bytes)
  | _ => none

/-- Did a call fail, other than for good? -/
def isFailure : Reply → Bool
  | failed _ => true
  | _ => false

/-- Did no frame come for too long? -/
def isSilence : Reply → Bool
  | silence => true
  | _ => false

end Reply

/-- The answer that makes a listener end in a certain way. -/
def Ending.reply : Ending → Reply
  | stopped => .stop
  | terminated => .terminated

namespace Phase

/-- Does a listener in a phase wait for an answer? The fresh connection after a silence cannot be interrupted. -/
def awaits : Phase → Reply → Bool
  | connecting, .connected | connecting, .failed _ | connecting, .terminated | connecting, .stop => true
  | receiving, .frame .. | receiving, .silence => true
  | receiving, .failed _ | receiving, .terminated | receiving, .stop => true
  | reconnecting, .connected | reconnecting, .failed _ | reconnecting, .terminated => true
  | pausing _, .rested | pausing _, .stop => true
  | _, _ => false

/-- The phase to which an answer leads, `seconds` being the pause that is due after a failure. -/
def after (seconds : Nat) : Reply → Phase
  | .connected | .frame .. => receiving
  | .silence => reconnecting
  | .failed _ => pausing seconds
  | .rested => connecting
  | .terminated => ended .terminated
  | .stop => ended .stopped

end Phase

namespace Listener

/-- What a listener makes of an answer that it waits for. -/
def respond (t : Tuning) (l : Listener) : Reply → Listener × Deeds
  | .connected => l.listen
  | .frame now bytes => l.takeIn t now bytes
  | .silence => l.refresh
  | .failed _ => l.retreat t
  | .terminated => l.giveUp
  | .rested => l.connect
  | .stop => l.finish

theorem step_eq_respond (t : Tuning) {l : Listener} {reply : Reply} (h : l.phase.awaits reply = true) :
    l.step t reply = l.respond t reply := by
  obtain ⟨phase, failures, receiver⟩ := l
  cases phase <;> cases reply <;> cases h <;> rfl

theorem step_eq_self (t : Tuning) {l : Listener} {reply : Reply} (h : l.phase.awaits reply = false) :
    l.step t reply = (l, []) := by
  obtain ⟨phase, failures, receiver⟩ := l
  cases phase <;> cases reply <;> cases h <;> rfl

theorem takeIn_fst (t : Tuning) (l : Listener) (now : Nat) (bytes : ByteArray) :
    (l.takeIn t now bytes).1.phase = .receiving ∧
      (l.takeIn t now bytes).1.receiver = (l.receiver.handleFrame t now bytes).2 := by
  unfold takeIn
  split
  · next receiver hframe => simp [listen, hframe]
  · next receiver hframe => simp [listen, hframe]

theorem phase_respond (t : Tuning) (l : Listener) (reply : Reply) :
    (l.respond t reply).1.phase = .after (t.feed.backoff l.failures) reply := by
  cases reply with
  | frame now bytes => exact (l.takeIn_fst t now bytes).1
  | connected | silence | failed | terminated | rested | stop => rfl

end Listener

/-! ### What an answer does to the books -/

namespace Receiver

/-- The receiver with more failures and silences of its connection on the books. -/
def charge (r : Receiver) (failures silences : Nat) : Receiver :=
  { r with traffic :=
    { r.traffic with
      transportErrors := r.traffic.transportErrors + failures
      timeouts := r.traffic.timeouts + silences } }

/-- The receiver after an answer to its listener. -/
def note (r : Receiver) (t : Tuning) : Reply → Receiver
  | .frame now bytes => (r.handleFrame t now bytes).2
  | .failed _ => r.charge 1 0
  | .silence => r.charge 0 1
  | _ => r

theorem charge_charge (r : Receiver) (m n m' n' : Nat) :
    (r.charge m n).charge m' n' = r.charge (m + m') (n + n') := by
  simp only [charge, Nat.add_assoc]

/-- A frame is taken in the same way whatever went wrong with the connection. -/
theorem handleFrame_charge (r : Receiver) (m n : Nat) (t : Tuning) (now : Nat) (bytes : ByteArray) :
    ((r.charge m n).handleFrame t now bytes).2 = (r.handleFrame t now bytes).2.charge m n := by
  unfold handleFrame
  cases Frame.announcement t.catalog t.feed.maxFrameBytes bytes with
  | error fault => cases fault <;> rfl
  | ok x => cases x <;> rfl

/-- A frame is counted as received, and leaves the counts of the connection alone. -/
theorem traffic_handleFrame (r : Receiver) (t : Tuning) (now : Nat) (bytes : ByteArray) :
    (r.handleFrame t now bytes).2.traffic.framesReceived = r.traffic.framesReceived + 1 ∧
      (r.handleFrame t now bytes).2.traffic.transportErrors = r.traffic.transportErrors ∧
      (r.handleFrame t now bytes).2.traffic.timeouts = r.traffic.timeouts := by
  unfold handleFrame
  cases Frame.announcement t.catalog t.feed.maxFrameBytes bytes with
  | error fault => cases fault <;> exact ⟨rfl, rfl, rfl⟩
  | ok x => cases x <;> exact ⟨rfl, rfl, rfl⟩

theorem traffic_handleAll (r : Receiver) (t : Tuning) (frames : List (Nat × ByteArray)) :
    (r.handleAll t frames).traffic.framesReceived = r.traffic.framesReceived + frames.length ∧
      (r.handleAll t frames).traffic.transportErrors = r.traffic.transportErrors ∧
      (r.handleAll t frames).traffic.timeouts = r.traffic.timeouts := by
  induction frames using List.reverseRecOn with
  | nil => exact ⟨rfl, rfl, rfl⟩
  | append_singleton frames frame ih =>
    obtain ⟨hreceived, herrors, htimeouts⟩ := ih
    obtain ⟨hreceived', herrors', htimeouts'⟩ := (r.handleAll t frames).traffic_handleFrame t frame.1 frame.2
    rw [handleAll_concat, List.length_append, List.length_singleton]
    refine ⟨?_, herrors'.trans herrors, htimeouts'.trans htimeouts⟩
    rw [hreceived', hreceived, Nat.add_assoc]

/-- Some answers leave the receiver as their frames alone would, with their failures and silences on the books. -/
theorem foldl_note (r : Receiver) (t : Tuning) (answers : List Reply) :
    answers.foldl (fun r reply => r.note t reply) r =
      (r.handleAll t (answers.filterMap Reply.frame?)).charge (answers.countP Reply.isFailure)
        (answers.countP Reply.isSilence) := by
  induction answers using List.reverseRecOn with
  | nil => rfl
  | append_singleton answers reply ih =>
    rw [List.foldl_append, ih, List.filterMap_append, List.countP_append, List.countP_append]
    cases reply with
    | frame now bytes =>
      change ((charge _ _ _).handleFrame t now bytes).2 = (r.handleAll t (_ ++ [(now, bytes)])).charge _ _
      rw [handleFrame_charge, handleAll_concat]
      rfl
    | failed reason =>
      change (charge _ _ _).charge 1 0 = _
      rw [charge_charge, show [Reply.failed reason].filterMap Reply.frame? = [] from rfl, List.append_nil]
      rfl
    | silence =>
      change (charge _ _ _).charge 0 1 = _
      rw [charge_charge, show [Reply.silence].filterMap Reply.frame? = [] from rfl, List.append_nil]
      rfl
    | connected | terminated | rested | stop =>
      change charge _ _ _ = _
      rw [show List.filterMap Reply.frame? [_] = [] from rfl, List.append_nil]
      rfl

end Receiver

namespace Listener

theorem receiver_respond (t : Tuning) (l : Listener) (reply : Reply) :
    (l.respond t reply).1.receiver = l.receiver.note t reply := by
  cases reply with
  | frame now bytes => exact (l.takeIn_fst t now bytes).2
  | connected | silence | failed | terminated | rested | stop => rfl

theorem receiver_start (r : Receiver) (stopped : Bool) : (start r stopped).1.receiver = r := by
  unfold start
  split <;> rfl

/-! ### Runs -/

/-- The answers among some that come while the listener waits for them. -/
def heeded (t : Tuning) (l : Listener) : List Reply → List Reply
  | [] => []
  | reply :: replies =>
    let later := heeded t (l.step t reply).1 replies
    if l.phase.awaits reply then reply :: later else later

theorem heeded_cons_of_awaits (t : Tuning) {l : Listener} {reply : Reply} (h : l.phase.awaits reply = true)
    (replies : List Reply) :
    l.heeded t (reply :: replies) = reply :: (l.respond t reply).1.heeded t replies := by
  rw [heeded, step_eq_respond t h, if_pos h]

theorem heeded_cons_of_not_awaits (t : Tuning) {l : Listener} {reply : Reply} (h : l.phase.awaits reply = false)
    (replies : List Reply) : l.heeded t (reply :: replies) = l.heeded t replies := by
  rw [heeded, step_eq_self t h, if_neg (h ▸ Bool.false_ne_true)]

theorem run_cons (t : Tuning) (l : Listener) (reply : Reply) (replies : List Reply) :
    (l.run t (reply :: replies)).1 = ((l.step t reply).1.run t replies).1 := rfl

theorem receiver_run (t : Tuning) (l : Listener) (replies : List Reply) :
    (l.run t replies).1.receiver = (l.heeded t replies).foldl (fun r reply => r.note t reply) l.receiver := by
  induction replies generalizing l with
  | nil => rfl
  | cons reply replies ih =>
    rw [run_cons]
    cases h : l.phase.awaits reply with
    | true => rw [heeded_cons_of_awaits t h, List.foldl_cons, step_eq_respond t h, ih, receiver_respond]
    | false => rw [heeded_cons_of_not_awaits t h, step_eq_self t h, ih]

/-- The phase after some answers is the one to which the last of them that was heeded leads. -/
theorem phase_run (t : Tuning) (l : Listener) (replies : List Reply) :
    match (l.heeded t replies).getLast? with
    | none => (l.run t replies).1.phase = l.phase
    | some last => ∃ seconds, (l.run t replies).1.phase = .after seconds last := by
  induction replies generalizing l with
  | nil => rfl
  | cons reply replies ih =>
    rw [run_cons]
    cases h : l.phase.awaits reply with
    | true =>
      rw [heeded_cons_of_awaits t h, step_eq_respond t h]
      have hlater := ih (l.respond t reply).1
      cases hlast : ((l.respond t reply).1.heeded t replies).getLast? with
      | none =>
        rw [hlast] at hlater
        rw [List.getLast?_eq_none_iff.1 hlast]
        exact ⟨_, hlater.trans (l.phase_respond t reply)⟩
      | some last =>
        rw [hlast] at hlater
        rw [List.getLast?_cons, hlast]
        exact hlater
    | false =>
      rw [heeded_cons_of_not_awaits t h, step_eq_self t h]
      exact ih l

/-- What a listener has done with some answers, having started with a receiver. -/
structure Accounts (t : Tuning) (r : Receiver) (answers : List Reply) (l : Listener) : Prop where
  /-- The store is as the frames make it, each taken in once and in the order in which they came. -/
  store : l.receiver.store = (r.handleAll t (answers.filterMap Reply.frame?)).store
  /-- The counts are as the frames make them, but that failures and silences are on the books. -/
  traffic : l.receiver.traffic =
    { (r.handleAll t (answers.filterMap Reply.frame?)).traffic with
      transportErrors := r.traffic.transportErrors + answers.countP Reply.isFailure
      timeouts := r.traffic.timeouts + answers.countP Reply.isSilence }
  framesReceived : l.receiver.traffic.framesReceived =
    r.traffic.framesReceived + (answers.filterMap Reply.frame?).length
  /-- After a frame, whatever came of it, the listener waits for the next one. -/
  goesOn : ∀ now bytes, answers.getLast? = some (.frame now bytes) → l.phase = .receiving
  /-- Only the transport's termination and a request to stop make the listener end. -/
  ended : ∀ how last, l.phase = .ended how → answers.getLast? = some last → last = how.reply

theorem accounts_run (t : Tuning) (l : Listener) (replies : List Reply) :
    Accounts t l.receiver (l.heeded t replies) (l.run t replies).1 := by
  have hreceiver := l.receiver_run t replies
  have hphase := l.phase_run t replies
  obtain ⟨hreceived, herrors, htimeouts⟩ :=
    l.receiver.traffic_handleAll t ((l.heeded t replies).filterMap Reply.frame?)
  rw [Receiver.foldl_note] at hreceiver
  refine ⟨?_, ?_, ?_, ?_, ?_⟩
  · rw [hreceiver]
    rfl
  · rw [hreceiver, Receiver.charge, herrors, htimeouts]
  · rw [hreceiver]
    exact hreceived
  · intro now bytes hlast
    rw [hlast] at hphase
    obtain ⟨seconds, hphase⟩ := hphase
    exact hphase
  · intro how last hended hlast
    rw [hlast] at hphase
    obtain ⟨seconds, hphase⟩ := hphase
    rw [hended] at hphase
    cases last with
    | terminated | stop =>
      cases hphase
      rfl
    | connected | frame | silence | failed | rested => cases hphase

end Listener

end StationFinder
