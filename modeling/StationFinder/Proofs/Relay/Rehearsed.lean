import StationFinder.Proofs.Relay.Conversation
import StationFinder.Relay.Rehearsal

/-!
# What a rehearsal shows

A rehearsal is a conversation: its waits end with answers that the listener waits for, and the calls noticed are those
that the answers came from (`Rehearsal.await_eq_some`). Each wait uses up some of the
script or brings the listener nearer to its end, so a rehearsal goes on until the listener has ended or waits for ever
(`Rehearsal.await_perform`). The books of the listener can therefore be read off the log of its calls
(`Listener.every_frame_counts`).
-/

namespace StationFinder

namespace LoggedCall

/-- The frame that a call delivered, with its time of arrival in a rehearsal that began at some time. -/
def frame? (began : Nat) (c : LoggedCall) : Option (Nat × ByteArray) :=
  match c.deed, c.event with
  | .recv, some (.frame bytes) => some (began + c.time, bytes)
  | .recv, some .ok => some (began + c.time, .empty)
  | _, _ => none

/-- Did the call fail, other than for good? -/
def isFailure (c : LoggedCall) : Bool :=
  match c.event with
  | some (.fail _) => true
  | _ => false

end LoggedCall

namespace Rehearsal

/-! ### How calls end -/

theorem interruption?_eq_some {stopAt patience : Option Nat} {time : Nat} {reply : Reply}
    (h : interruption? stopAt patience = some (time, reply)) :
    reply = .stop ∧ stopAt = some time ∨ reply = .silence ∧ patience = some time := by
  unfold interruption? at h
  split at h
  · split at h
    · cases h
      exact .inl ⟨rfl, rfl⟩
    · cases h
      exact .inr ⟨rfl, rfl⟩
  · cases h
    exact .inl ⟨rfl, rfl⟩
  · cases h
    exact .inr ⟨rfl, rfl⟩
  · cases h

/-- A call as it is noticed when its event comes. -/
def called (s : Rehearsal) (deed : Deed) (cue : Cue) : LoggedCall :=
  ⟨s.clock + cue.delay, deed, some cue.event, s.listener.phase.state⟩

/-- A call ends with what its event answers, or is given up: the listener shall stop, or has waited too long. A call
that is given up before its event comes is not noticed. -/
theorem endCall?_eq_some {s : Rehearsal} {deed : Deed} {cue : Cue} {stoppable : Bool} {patience : Option Nat}
    {reply? : Event → Option Reply} (hshutdown : reply? .shutdown = none) {wait : WaitEnd}
    (h : s.endCall? deed cue stoppable patience reply? = some wait) :
    (reply? cue.event = some wait.reply ∧ wait.heard = [s.called deed cue]) ∨
      ((wait.reply = .stop ∧ stoppable = true ∨
          wait.reply = .silence ∧ ∃ p, patience = some p ∧ (p < s.clock + cue.delay ∨ reply? cue.event = none)) ∧
        (wait.heard = [] ∨ reply? cue.event = none ∧ wait.heard = [s.called deed cue])) := by
  simp only [endCall?] at h
  generalize hinterrupted : interruption? (if stoppable then s.stopAt else none) patience = interrupted? at h
  have hstop {time : Nat} {reply : Reply} (hearly : interrupted? = some (time, reply)) :
      reply = .stop ∧ stoppable = true ∨ reply = .silence ∧ patience = some time := by
    refine (interruption?_eq_some (hinterrupted.trans hearly)).imp_left fun hstop => ⟨hstop.1, ?_⟩
    by_contra hno
    simp [hno] at hstop
  split at h
  · next early reply hearly =>
    cases h
    obtain ⟨hearly, htime⟩ := Option.filter_eq_some_iff.1 hearly
    refine .inr ⟨(hstop hearly).imp_right fun hsilent => ⟨hsilent.1, early, hsilent.2, .inl ?_⟩, .inl rfl⟩
    exact of_decide_eq_true htime
  · next hevent =>
    split at h
    · next hstoppable =>
      cases h
      exact .inr ⟨.inl ⟨rfl, hstoppable⟩, .inr ⟨hevent ▸ hshutdown, by rw [called, hevent]⟩⟩
    · cases h
  · next hreply _ =>
    cases h
    exact .inl ⟨hreply, rfl⟩
  · next hreply _ =>
    obtain ⟨⟨late, reply⟩, hlate, rfl⟩ := Option.map_eq_some_iff.1 h
    refine .inr ⟨(hstop hlate).imp_right fun hsilent => ⟨hsilent.1, late, hsilent.2, .inr hreply⟩, ?_⟩
    exact .inr ⟨hreply, rfl⟩

/-- The calls that were noticed deliver the frame and report the failure that an answer is about. -/
def Tells (began : Nat) (heard : List LoggedCall) (reply : Reply) : Prop :=
  heard.filterMap (LoggedCall.frame? began) = [reply].filterMap Reply.frame? ∧
    heard.countP LoggedCall.isFailure = [reply].countP Reply.isFailure

theorem tells_called_connect (s : Rehearsal) (began : Nat) (cue : Cue) :
    Tells began [s.called .connect cue] (cue.event.connectReply?.getD .stop) := by
  obtain ⟨delay, event⟩ := cue
  cases event <;> exact ⟨rfl, rfl⟩

theorem tells_called_recv (s : Rehearsal) (began : Nat) (cue : Cue) :
    Tells began [s.called .recv cue] ((cue.event.recvReply? (began + (s.clock + cue.delay))).getD .stop) := by
  obtain ⟨delay, event⟩ := cue
  cases event <;> exact ⟨rfl, rfl⟩

/-- If a call tells of the answer that its event makes, then what is noticed of the call tells of the answer with which
it ends. -/
theorem tells_of_endCall? {s : Rehearsal} {began : Nat} {deed : Deed} {cue : Cue} {stoppable : Bool}
    {patience : Option Nat} {reply? : Event → Option Reply} (hshutdown : reply? .shutdown = none)
    (hcalled : Tells began [s.called deed cue] ((reply? cue.event).getD .stop)) {wait : WaitEnd}
    (h : s.endCall? deed cue stoppable patience reply? = some wait) : Tells began wait.heard wait.reply := by
  rcases endCall?_eq_some hshutdown h with ⟨hreply, hheard⟩ | ⟨hgiven, hheard⟩
  · rw [hreply, Option.getD_some] at hcalled
    rw [hheard]
    exact hcalled
  · -- A call that is given up tells nothing, noticed or not.
    have hnothing : Tells began wait.heard .stop := by
      rcases hheard with hheard | ⟨hreply, hheard⟩
      · rw [hheard]
        exact ⟨rfl, rfl⟩
      · rw [hreply, Option.getD_none] at hcalled
        rw [hheard]
        exact hcalled
    rcases hgiven with ⟨hstop, -⟩ | ⟨hsilent, -⟩
    · rw [hstop]
      exact hnothing
    · rw [hsilent]
      exact hnothing

/-! ### How waits end -/

/-- How many cues are left. -/
def cuesLeft (script : Script) : Nat := script.connects.length + script.recvs.length

/-- How many cues an answer takes at least: only a script makes a frame come, a call fail, or the listener wait. -/
def cuesTaken : Reply → Nat
  | .frame .. | .silence | .failed _ => 1
  | .connected | .terminated | .rested | .stop => 0

theorem length_tail_add_le {l : List Cue} {n : Nat} (h : n = 0 ∨ n = 1 ∧ l ≠ []) :
    l.tail.length + n ≤ l.length := by
  rcases h with rfl | ⟨rfl, hl⟩
  · rw [List.length_tail]
    omega
  · have := List.length_pos_iff.2 hl
    rw [List.length_tail]
    omega

/-- An attempt to connect ends with an answer that the listener waits for, and takes a cue if it fails. -/
theorem connect_of_endCall? {s : Rehearsal} {stoppable : Bool} {wait : WaitEnd}
    (h : s.endCall? .connect s.connectCue stoppable none Event.connectReply? = some wait) :
    (if stoppable then Phase.connecting else .reconnecting).awaits wait.reply = true ∧
      s.script.connects.tail.length + cuesTaken wait.reply ≤ s.script.connects.length := by
  obtain ⟨time, reply, heard⟩ := wait
  suffices hreply : (if stoppable then Phase.connecting else .reconnecting).awaits reply = true ∧
      (cuesTaken reply = 0 ∨ cuesTaken reply = 1 ∧ s.script.connects ≠ []) from
    hreply.imp_right length_tail_add_le
  rcases endCall?_eq_some rfl h with ⟨hreply, -⟩ | ⟨⟨rfl, rfl⟩ | ⟨-, p, hp, -⟩, -⟩
  · cases hevent : s.connectCue.event with
    | ok | frame | terminate =>
      rw [hevent] at hreply
      cases hreply
      exact ⟨by cases stoppable <;> rfl, .inl rfl⟩
    | fail reason =>
      rw [hevent] at hreply
      cases hreply
      refine ⟨by cases stoppable <;> rfl, .inr ⟨rfl, fun hempty => ?_⟩⟩
      simp [connectCue, hempty] at hevent
    | hang | shutdown | panic =>
      rw [hevent] at hreply
      cases hreply
  · exact ⟨rfl, .inl rfl⟩
  · cases hp

/-- Waiting for a frame ends with an answer that the listener waits for, and takes a cue unless it ends for good. -/
theorem recv_of_endCall? {s : Rehearsal} {now patience : Nat} {wait : WaitEnd}
    (h : s.endCall? .recv s.recvCue true (some (s.clock + patience)) (Event.recvReply? now) = some wait) :
    Phase.receiving.awaits wait.reply = true ∧
      s.script.recvs.tail.length + cuesTaken wait.reply ≤ s.script.recvs.length := by
  obtain ⟨time, reply, heard⟩ := wait
  suffices hreply : Phase.receiving.awaits reply = true ∧
      (cuesTaken reply = 0 ∨ cuesTaken reply = 1 ∧ s.script.recvs ≠ []) from
    hreply.imp_right length_tail_add_le
  -- When the script has no more frames the transport is terminated at once, before anybody loses patience.
  have hcue (hempty : s.script.recvs = []) : s.recvCue = ⟨0, .terminate⟩ := by
    rw [recvCue, hempty, List.headD_nil]
  rcases endCall?_eq_some rfl h with ⟨hreply, -⟩ | ⟨⟨rfl, -⟩ | ⟨rfl, p, hp, hlate⟩, -⟩
  · cases hevent : s.recvCue.event with
    | terminate =>
      rw [hevent] at hreply
      cases hreply
      exact ⟨rfl, .inl rfl⟩
    | ok | frame | fail =>
      rw [hevent] at hreply
      cases hreply
      refine ⟨rfl, .inr ⟨rfl, fun hempty => ?_⟩⟩
      rw [hcue hempty] at hevent
      cases hevent
    | hang | shutdown | panic =>
      rw [hevent] at hreply
      cases hreply
  · exact ⟨rfl, .inl rfl⟩
  · refine ⟨rfl, .inr ⟨rfl, fun hempty => ?_⟩⟩
    obtain rfl := Option.some.inj hp
    rw [hcue hempty] at hlate
    rcases hlate with hlate | hlate
    · exact absurd hlate (by simp)
    · cases hlate

/-- A wait ends with an answer that the listener waits for and takes its cues from the script, and what is noticed in it
tells of the answer. -/
theorem await_eq_some {s : Rehearsal} {t : Tuning} {began : Nat} {wait : WaitEnd} {script : Script}
    (h : s.await t began = (some wait, script)) :
    s.listener.phase.awaits wait.reply = true ∧ cuesLeft script + cuesTaken wait.reply ≤ cuesLeft s.script ∧
      Tells began wait.heard wait.reply := by
  unfold await at h
  unfold cuesLeft
  cases hphase : s.listener.phase with
  | connecting =>
    rw [hphase] at h
    obtain ⟨hend, rfl⟩ := Prod.mk.inj h
    obtain ⟨hawaits, htaken⟩ := connect_of_endCall? hend
    refine ⟨hawaits, ?_, tells_of_endCall? rfl (s.tells_called_connect began s.connectCue) hend⟩
    dsimp only
    omega
  | reconnecting =>
    rw [hphase] at h
    obtain ⟨hend, rfl⟩ := Prod.mk.inj h
    obtain ⟨hawaits, htaken⟩ := connect_of_endCall? hend
    refine ⟨hawaits, ?_, tells_of_endCall? rfl (s.tells_called_connect began s.connectCue) hend⟩
    dsimp only
    omega
  | receiving =>
    rw [hphase] at h
    obtain ⟨hend, rfl⟩ := Prod.mk.inj h
    obtain ⟨hawaits, htaken⟩ := recv_of_endCall? hend
    refine ⟨hawaits, ?_, tells_of_endCall? rfl ?_ hend⟩
    · dsimp only
      omega
    · rw [Nat.add_assoc]
      exact s.tells_called_recv began s.recvCue
  | pausing seconds =>
    rw [hphase] at h
    dsimp only at h
    split at h
    · cases h
      exact ⟨rfl, Nat.le_refl _, rfl, rfl⟩
    · cases h
      exact ⟨rfl, Nat.le_refl _, rfl, rfl⟩
  | ended how =>
    rw [hphase] at h
    cases h

/-! ### How rehearsals go on -/

/-- The rehearsal after a wait, `script` being what is left of the script. -/
def advance (s : Rehearsal) (t : Tuning) (wait : WaitEnd) (script : Script) : Rehearsal :=
  ⟨wait.time, script, s.stopAt, (s.listener.step t wait.reply).1⟩

theorem listener_advance {s : Rehearsal} {t : Tuning} {wait : WaitEnd} {script : Script}
    (h : s.listener.phase.awaits wait.reply = true) :
    (s.advance t wait script).listener = (s.listener.respond t wait.reply).1 := by
  rw [advance, Listener.step_eq_respond t h]

/-- The answers with which the waits of a rehearsal end, for at most `fuel` of them. -/
def answers (t : Tuning) (began : Nat) : (fuel : Nat) → Rehearsal → List Reply
  | 0, _ => []
  | fuel + 1, s =>
    match s.await t began with
    | (none, _) => []
    | (some wait, script) => wait.reply :: answers t began fuel (s.advance t wait script)

theorem play_succ_of_none {t : Tuning} {began fuel : Nat} {s : Rehearsal} (h : (s.await t began).1 = none) :
    play t began (fuel + 1) s = ([], s) := by
  obtain ⟨script, h⟩ : ∃ script, s.await t began = (none, script) := ⟨_, Prod.ext h rfl⟩
  rw [play, h]

theorem play_succ_of_some {t : Tuning} {began fuel : Nat} {s : Rehearsal} {wait : WaitEnd} {script : Script}
    (h : s.await t began = (some wait, script)) :
    play t began (fuel + 1) s =
      (wait.heard ++ closings wait.time (s.listener.step t wait.reply).2 ++
          (play t began fuel (s.advance t wait script)).1,
        (play t began fuel (s.advance t wait script)).2) := by
  rw [play, h]
  rfl

/-- How much can still happen in a rehearsal: four waits for each cue, and those that lead on to the next frame. -/
def potential (s : Rehearsal) : Nat :=
  4 * cuesLeft s.script +
    match s.listener.phase with
    | .ended _ => 0
    | .receiving => 1
    | .connecting | .reconnecting => 2
    | .pausing _ => 3

theorem potential_advance_lt {s : Rehearsal} {t : Tuning} {began : Nat} {wait : WaitEnd} {script : Script}
    (h : s.await t began = (some wait, script)) : (s.advance t wait script).potential < s.potential := by
  obtain ⟨hawaits, htaken, -⟩ := await_eq_some h
  have hphase : (s.advance t wait script).listener.phase = .after (t.feed.backoff s.listener.failures) wait.reply := by
    rw [listener_advance hawaits, Listener.phase_respond]
  unfold potential
  rw [hphase, show (s.advance t wait script).script = script from rfl]
  generalize s.listener.phase = phase at hawaits
  generalize wait.reply = reply at hawaits htaken
  cases phase <;> cases reply <;> cases hawaits <;> simp only [cuesTaken, Phase.after] at htaken ⊢ <;> omega

/-- With waits enough a rehearsal goes on until no wait ends any more. -/
theorem await_play (t : Tuning) (began : Nat) {fuel : Nat} {s : Rehearsal} (hfuel : s.potential < fuel) :
    ((play t began fuel s).2.await t began).1 = none := by
  induction fuel generalizing s with
  | zero => exact absurd hfuel (Nat.not_lt_zero _)
  | succ fuel ih =>
    obtain ⟨wait?, script, h⟩ : ∃ wait? script, s.await t began = (wait?, script) := ⟨_, _, rfl⟩
    cases wait? with
    | none =>
      rw [play_succ_of_none (by rw [h]), h]
    | some wait =>
      rw [play_succ_of_some h]
      have hless := potential_advance_lt h
      exact ih (by omega)

/-- A rehearsal is the conversation that its waits end with. -/
theorem listener_play (t : Tuning) (began fuel : Nat) (s : Rehearsal) :
    s.listener.heeded t (answers t began fuel s) = answers t began fuel s ∧
      (play t began fuel s).2.listener = (s.listener.run t (answers t began fuel s)).1 := by
  induction fuel generalizing s with
  | zero => exact ⟨rfl, rfl⟩
  | succ fuel ih =>
    obtain ⟨wait?, script, h⟩ : ∃ wait? script, s.await t began = (wait?, script) := ⟨_, _, rfl⟩
    rw [answers, h]
    cases wait? with
    | none =>
      rw [play_succ_of_none (by rw [h])]
      exact ⟨rfl, rfl⟩
    | some wait =>
      obtain ⟨hawaits, -, -⟩ := await_eq_some h
      obtain ⟨hheeded, hlistener⟩ := ih (s.advance t wait script)
      rw [play_succ_of_some h]
      refine ⟨?_, hlistener⟩
      rw [Listener.heeded_cons_of_awaits t hawaits, ← listener_advance hawaits, hheeded]

theorem event_of_mem_closings {time : Nat} {deeds : Deeds} {c : LoggedCall} (h : c ∈ closings time deeds) :
    c.event = none := by
  obtain ⟨⟨deed, state⟩, -, hc⟩ := List.mem_filterMap.1 h
  rw [Option.ite_none_right_eq_some, Option.some.injEq] at hc
  rw [← hc.2]

/-- To close a connection delivers nothing and cannot fail. -/
theorem tells_nothing_closings (began time : Nat) (deeds : Deeds) :
    (closings time deeds).filterMap (LoggedCall.frame? began) = [] ∧
      (closings time deeds).countP LoggedCall.isFailure = 0 := by
  constructor
  · refine List.filterMap_eq_nil_iff.2 fun c hc => ?_
    rw [LoggedCall.frame?, event_of_mem_closings hc]
    cases c.deed <;> rfl
  · refine List.countP_eq_zero.2 fun c hc => ?_
    rw [LoggedCall.isFailure, event_of_mem_closings hc]
    exact Bool.false_ne_true

/-- The log delivers the frames and reports the failures that the waits end with. -/
theorem log_play (t : Tuning) (began fuel : Nat) (s : Rehearsal) :
    (play t began fuel s).1.filterMap (LoggedCall.frame? began) =
        (answers t began fuel s).filterMap Reply.frame? ∧
      (play t began fuel s).1.countP LoggedCall.isFailure = (answers t began fuel s).countP Reply.isFailure := by
  induction fuel generalizing s with
  | zero => exact ⟨rfl, rfl⟩
  | succ fuel ih =>
    obtain ⟨wait?, script, h⟩ : ∃ wait? script, s.await t began = (wait?, script) := ⟨_, _, rfl⟩
    rw [answers, h]
    cases wait? with
    | none =>
      rw [play_succ_of_none (by rw [h])]
      exact ⟨rfl, rfl⟩
    | some wait =>
      obtain ⟨-, -, hframe, hfailure⟩ := await_eq_some h
      obtain ⟨hframes, hfailures⟩ := ih (s.advance t wait script)
      obtain ⟨hclosed, hclosed'⟩ := tells_nothing_closings began wait.time (s.listener.step t wait.reply).2
      rw [play_succ_of_some h]
      constructor
      · rw [List.filterMap_append, List.filterMap_append, hframe, hclosed, hframes, List.append_nil,
          ← List.filterMap_append, List.singleton_append]
      · rw [List.countP_append, List.countP_append, hfailure, hclosed', hfailures, Nat.add_zero,
          ← List.countP_append, List.singleton_append]

/-- The rehearsal of a script before the first wait. -/
def opening (script : Script) (stopAt : Option Nat) (receiver : Receiver) : Rehearsal :=
  ⟨0, script, stopAt, (Listener.start receiver (stopAt = some 0)).1⟩

theorem perform_eq (t : Tuning) (began : Nat) (script : Script) (stopAt : Option Nat) (receiver : Receiver) :
    perform t began script stopAt receiver =
      (closings 0 (Listener.start receiver (stopAt = some 0)).2 ++
          (play t began (waits script) (opening script stopAt receiver)).1,
        (play t began (waits script) (opening script stopAt receiver)).2) := rfl

theorem potential_opening_lt (script : Script) (stopAt : Option Nat) (receiver : Receiver) :
    (opening script stopAt receiver).potential < waits script := by
  unfold opening Listener.start waits potential cuesLeft
  split
  · simp only [Listener.finish]
    omega
  · simp only [Listener.connect]
    omega

end Rehearsal

namespace Listener

open Rehearsal in
/-- **Every frame counts once.** Whatever answers a listener gets, and also in the rehearsal of any script, with a
request to stop at any time or none: the store and the counts are as the frames that were delivered make them, each
taken in once and in the order of delivery, but that every failure of a call counts as an error of the transport and
every silence as a timeout. A frame that cannot be taken in does not end the run. The rehearsal goes on until the
listener has ended or waits for ever, and its log shows the calls that delivered the frames and those that failed. -/
theorem every_frame_counts (t : Tuning) (r : Receiver) :
    (∀ (stopped : Bool) (replies : List Reply),
      let l := (start r stopped).1
      Accounts t r (l.heeded t replies) (l.run t replies).1) ∧
    ∀ (began : Nat) (script : Script) (stopAt : Option Nat),
      let (log, done) := perform t began script stopAt r
      let answers := Rehearsal.answers t began (waits script) (opening script stopAt r)
      Accounts t r answers done.listener ∧ (done.await t began).1 = none ∧
        answers.filterMap Reply.frame? = log.filterMap (LoggedCall.frame? began) ∧
        answers.countP Reply.isFailure = log.countP LoggedCall.isFailure := by
  refine ⟨fun stopped replies => ?_, fun began script stopAt => ?_⟩
  · have haccounts := (start r stopped).1.accounts_run t replies
    rwa [receiver_start] at haccounts
  · obtain ⟨hheeded, hlistener⟩ := listener_play t began (waits script) (opening script stopAt r)
    obtain ⟨hframes, hfailures⟩ := log_play t began (waits script) (opening script stopAt r)
    obtain ⟨hclosed, hclosed'⟩ := tells_nothing_closings began 0 (start r (stopAt = some 0)).2
    rw [perform_eq]
    refine ⟨?_, await_play t began (potential_opening_lt script stopAt r), ?_, ?_⟩
    · have haccounts := (opening script stopAt r).listener.accounts_run t
        (answers t began (waits script) (opening script stopAt r))
      rw [hheeded, ← hlistener] at haccounts
      rwa [show (opening script stopAt r).listener.receiver = r from receiver_start r _] at haccounts
    · rw [List.filterMap_append, hclosed, List.nil_append, hframes]
    · rw [List.countP_append, hclosed', Nat.zero_add, hfailures]

end Listener

end StationFinder
