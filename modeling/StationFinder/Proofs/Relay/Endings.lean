import Mathlib.Data.List.Basic
import StationFinder.Proofs.Relay.Balance
import StationFinder.Proofs.Relay.Rehearsed

/-!
# How listeners end

The life of a listener is what it hears and does, in order (`Listener.life`). Each answer that it heeds adds a few
moments to it, and what they are can be told from the phase; the other way round the phase tells how the life so far
ends (`Phase.Fits`). Step by step this shows that a listener waits for frames only on a connection that stands, pauses
only after it has closed a connection that failed, and does nothing more once it is told that the transport is
terminated, but to close it (`Listener.truthful_run`). So it is in rehearsals, whose logs show what the listener was
told (`Listener.endings_are_truthful`).
-/

namespace StationFinder

/-! ### Lives -/

/-- A moment in the life of a listener. -/
inductive Moment where
  /-- An answer that the listener heeds. -/
  | heard (reply : Reply)
  /-- Something that it does, with the state that it shows. -/
  | did (deed : Deed × ConnectionState)

namespace Moment

def answer? : Moment → Option Reply
  | heard reply => some reply
  | did _ => none

def deed? : Moment → Option (Deed × ConnectionState)
  | heard _ => none
  | did deed => some deed

/-- Is a frame waited for, or does one come in? -/
def isTraffic : Moment → Bool
  | heard (.frame ..) | did (.recv, _) => true
  | _ => false

end Moment

namespace Listener

/-- What a listener hears and does with some answers. -/
def history (t : Tuning) (l : Listener) : List Reply → List Moment
  | [] => []
  | reply :: replies =>
    let (next, deeds) := l.step t reply
    (if l.phase.awaits reply then [.heard reply] else []) ++ deeds.map .did ++ history t next replies

/-- All that a listener hears and does with some answers from its start on. -/
def life (t : Tuning) (r : Receiver) (stopped : Bool) (replies : List Reply) : List Moment :=
  (start r stopped).2.map .did ++ (start r stopped).1.history t replies

theorem history_cons_of_awaits (t : Tuning) {l : Listener} {reply : Reply} (h : l.phase.awaits reply = true)
    (replies : List Reply) :
    l.history t (reply :: replies) =
      .heard reply :: (l.respond t reply).2.map .did ++ (l.respond t reply).1.history t replies := by
  rw [history, step_eq_respond t h, if_pos h]
  rfl

theorem history_cons_of_not_awaits (t : Tuning) {l : Listener} {reply : Reply} (h : l.phase.awaits reply = false)
    (replies : List Reply) : l.history t (reply :: replies) = l.history t replies := by
  rw [history, step_eq_self t h, if_neg (h ▸ Bool.false_ne_true)]
  rfl

/-- What a listener does is no answer. -/
theorem answers_deeds (deeds : Deeds) : (deeds.map Moment.did).filterMap Moment.answer? = [] := by
  rw [List.filterMap_map, List.filterMap_eq_nil_iff]
  intro deed _
  rfl

/-- The answers in a history are those that the listener heeds. -/
theorem answers_history (t : Tuning) (l : Listener) (replies : List Reply) :
    (l.history t replies).filterMap Moment.answer? = l.heeded t replies := by
  induction replies generalizing l with
  | nil => rfl
  | cons reply replies ih =>
    cases h : l.phase.awaits reply with
    | true =>
      have hheard : (Moment.heard reply).answer? = some reply := rfl
      rw [history_cons_of_awaits t h, heeded_cons_of_awaits t h, List.cons_append,
        List.filterMap_cons_some hheard, List.filterMap_append, answers_deeds, List.nil_append, ih]
    | false => rw [history_cons_of_not_awaits t h, heeded_cons_of_not_awaits t h, ih]

theorem run_cons_snd (t : Tuning) (l : Listener) (reply : Reply) (replies : List Reply) :
    (l.run t (reply :: replies)).2 = (l.step t reply).2 ++ ((l.step t reply).1.run t replies).2 := rfl

/-- The deeds in a history are those of the run. -/
theorem deeds_history (t : Tuning) (l : Listener) (replies : List Reply) :
    (l.history t replies).filterMap Moment.deed? = (l.run t replies).2 := by
  have hdeeds (deeds : Deeds) : (deeds.map Moment.did).filterMap Moment.deed? = deeds := by
    rw [List.filterMap_map]
    exact List.filterMap_some
  induction replies generalizing l with
  | nil => rfl
  | cons reply replies ih =>
    rw [run_cons_snd]
    cases h : l.phase.awaits reply with
    | true =>
      have hheard : (Moment.heard reply).deed? = none := rfl
      rw [history_cons_of_awaits t h, List.cons_append, List.filterMap_cons_none hheard, List.filterMap_append, hdeeds,
        step_eq_respond t h, ih]
    | false =>
      rw [history_cons_of_not_awaits t h, step_eq_self t h, ih]
      rfl

end Listener

/-! ### What may follow what -/

/-- Each entry of a list may follow those before it. -/
def Orderly {α : Type} (MayFollow : List α → α → Prop) (entries : List α) : Prop :=
  ∀ before m after, entries = before ++ m :: after → MayFollow before m

theorem orderly_nil {α : Type} (MayFollow : List α → α → Prop) : Orderly MayFollow [] := by
  intro before m after h
  simp at h

theorem Orderly.concat {α : Type} {MayFollow : List α → α → Prop} {entries : List α} (h : Orderly MayFollow entries)
    {m : α} (hm : MayFollow entries m) : Orderly MayFollow (entries ++ [m]) := by
  intro before m' after heq
  rcases List.eq_nil_or_concat after with rfl | ⟨later, last, rfl⟩
  · obtain ⟨rfl, hlast⟩ := List.append_inj' heq rfl
    obtain rfl := List.singleton_inj.1 hlast
    exact hm
  · rw [List.concat_eq_append, ← List.cons_append, ← List.append_assoc] at heq
    exact h before m' later (List.append_inj' heq rfl).1

/-- The life of a listener so far ends with a connection that stands, and frames since. -/
def EndsConnected (life : List Moment) : Prop :=
  ∃ earlier shown since, life = earlier ++ .did (.connect, shown) :: .heard .connected :: since ∧
    ∀ m ∈ since, m.isTraffic = true

/-- A moment may follow others: a listener waits for a frame only while it shows that it listens, on a connection that
stands, and pauses only while it shows that it is disconnected, having just closed a connection that failed. -/
def Moment.MayFollow (life : List Moment) : Moment → Prop
  | did (.recv, state) => state = .listening ∧ EndsConnected life
  | did (.pause _, state) => state = .disconnected ∧
      ∃ earlier reason, life = earlier ++ [.heard (.failed reason), .did (.close, .disconnected)]
  | _ => True

/-- How the life of a listener ends, by its phase. -/
def Phase.Fits (life : List Moment) : Phase → Prop
  | connecting | reconnecting => ∃ earlier shown, life = earlier ++ [.did (.connect, shown)]
  | receiving => ∃ earlier, life = earlier ++ [.did (.recv, .listening)] ∧ EndsConnected earlier
  | pausing _ => True
  | ended .terminated => ∃ earlier, life = earlier ++ [.heard .terminated, .did (.close, .disconnected)] ∧
      .heard .terminated ∉ earlier
  | ended .stopped => life = [.did (.close, .disconnected)] ∨
      ∃ earlier shown, life = earlier ++ [.heard .stop, .did (.close, shown)]

/-- Whoever waits for a connection has asked for one. -/
theorem Phase.Fits.of_awaits_connected {life : List Moment} {phase : Phase} (h : phase.Fits life)
    (hawaits : phase.awaits .connected = true) : ∃ earlier shown, life = earlier ++ [.did (.connect, shown)] := by
  cases phase with
  | connecting | reconnecting => exact h
  | receiving | pausing | ended => cases hawaits

/-- Whoever waits for a frame has asked for one, on a connection that stands. -/
theorem Phase.Fits.of_awaits_frame {life : List Moment} {phase : Phase} (h : phase.Fits life) {now : Nat}
    {bytes : ByteArray} (hawaits : phase.awaits (.frame now bytes) = true) :
    ∃ earlier, life = earlier ++ [.did (.recv, .listening)] ∧ EndsConnected earlier := by
  cases phase with
  | receiving => exact h
  | connecting | reconnecting | pausing | ended => cases hawaits

/-- What holds of a life at any time, with the phase that the listener is in. -/
structure SoundLife (life : List Moment) (phase : Phase) : Prop where
  orderly : Orderly Moment.MayFollow life
  fits : phase.Fits life
  /-- The termination was not heard yet, unless the listener has ended so. -/
  unterminated : phase ≠ .ended .terminated → .heard .terminated ∉ life

namespace Listener

theorem sound_start (r : Receiver) (stopped : Bool) :
    SoundLife ((start r stopped).2.map .did) (start r stopped).1.phase := by
  cases stopped with
  | true =>
    refine ⟨(orderly_nil _).concat trivial, .inl rfl, fun _ => ?_⟩
    intro h
    cases List.mem_singleton.1 h
  | false =>
    refine ⟨(orderly_nil _).concat trivial, ⟨[], _, rfl⟩, fun _ => ?_⟩
    intro h
    cases List.mem_singleton.1 h

theorem snd_takeIn (t : Tuning) (l : Listener) (now : Nat) (bytes : ByteArray) :
    (l.takeIn t now bytes).2 = [(.recv, .listening)] := by
  unfold takeIn
  split
  · rfl
  · rfl

/-- An answer that is not the termination does not bring it into a life. -/
theorem terminated_not_mem_append {life : List Moment} (hlife : .heard .terminated ∉ life) {reply : Reply}
    (hreply : reply ≠ .terminated) (deeds : Deeds) :
    .heard .terminated ∉ life ++ .heard reply :: deeds.map .did := by
  intro hmem
  rcases List.mem_append.1 hmem with hmem | hmem
  · exact hlife hmem
  rcases List.mem_cons.1 hmem with heq | hmem
  · cases heq
    exact hreply rfl
  · obtain ⟨deed, -, heq⟩ := List.mem_map.1 hmem
    cases heq

/-- What a listener makes of an answer keeps its life sound. -/
theorem sound_respond (t : Tuning) {l : Listener} {life : List Moment} (h : SoundLife life l.phase) {reply : Reply}
    (hawaits : l.phase.awaits reply = true) :
    SoundLife (life ++ .heard reply :: (l.respond t reply).2.map .did) (l.respond t reply).1.phase := by
  obtain ⟨horderly, hfits, hunterminated⟩ := h
  have hnot : .heard .terminated ∉ life := by
    refine hunterminated fun hended => ?_
    rw [hended] at hawaits
    cases reply <;> cases hawaits
  have hheard : Orderly Moment.MayFollow (life ++ [.heard reply]) := horderly.concat trivial
  have hstill (hreply : reply ≠ .terminated) :
      .heard .terminated ∉ life ++ [.heard reply] ++ (l.respond t reply).2.map .did := by
    rw [← List.append_cons]
    exact terminated_not_mem_append hnot hreply _
  rw [phase_respond, List.append_cons]
  cases reply with
  | connected =>
    have hconnected : EndsConnected (life ++ [.heard .connected]) := by
      obtain ⟨earlier, shown, rfl⟩ := hfits.of_awaits_connected hawaits
      refine ⟨earlier, shown, [], ?_, fun m hm => ?_⟩
      · rw [List.append_assoc, List.singleton_append]
      · cases hm
    exact ⟨hheard.concat ⟨rfl, hconnected⟩, ⟨_, rfl, hconnected⟩, fun _ => hstill nofun⟩
  | frame now bytes =>
    have hconnected : EndsConnected (life ++ [.heard (.frame now bytes)]) := by
      obtain ⟨-, rfl, earlier, shown, since, rfl, hsince⟩ := hfits.of_awaits_frame hawaits
      refine ⟨earlier, shown, since ++ [.did (.recv, .listening), .heard (.frame now bytes)], ?_, fun m hm => ?_⟩
      · simp only [List.append_assoc, List.cons_append, List.nil_append]
      · rw [List.mem_append, List.mem_cons, List.mem_singleton] at hm
        rcases hm with hm | rfl | rfl
        · exact hsince m hm
        · rfl
        · rfl
    have hdeeds : (l.respond t (.frame now bytes)).2 = [(.recv, .listening)] := l.snd_takeIn t now bytes
    rw [hdeeds] at hstill ⊢
    exact ⟨hheard.concat ⟨rfl, hconnected⟩, ⟨_, rfl, hconnected⟩, fun _ => hstill nofun⟩
  | silence =>
    have hclosed := hheard.concat (m := .did (.close, .listening)) trivial
    have hconnect := hclosed.concat (m := .did (.connect, .listening)) trivial
    rw [List.append_assoc _ [_] [_]] at hconnect
    exact ⟨hconnect, ⟨life ++ [.heard .silence] ++ [.did (.close, .listening)], .listening, List.append_cons _ _ _⟩,
      fun _ => hstill nofun⟩
  | failed reason =>
    have hclosed := hheard.concat (m := .did (.close, .disconnected)) trivial
    have hpause := hclosed.concat (m := .did (.pause (t.feed.backoff l.failures), .disconnected))
      ⟨rfl, life, reason, List.append_assoc _ [_] [_]⟩
    rw [List.append_assoc _ [_] [_]] at hpause
    exact ⟨hpause, trivial, fun _ => hstill nofun⟩
  | terminated =>
    refine ⟨hheard.concat trivial, ⟨life, List.append_assoc _ [_] [_], hnot⟩, fun hended => ?_⟩
    exact absurd rfl hended
  | rested =>
    exact ⟨hheard.concat trivial, ⟨_, _, rfl⟩, fun _ => hstill nofun⟩
  | stop =>
    exact ⟨hheard.concat trivial, .inr ⟨life, l.phase.state, List.append_assoc _ [_] [_]⟩, fun _ => hstill nofun⟩

theorem sound_run (t : Tuning) {l : Listener} {life : List Moment} (h : SoundLife life l.phase) (replies : List Reply) :
    SoundLife (life ++ l.history t replies) (l.run t replies).1.phase := by
  induction replies generalizing l life with
  | nil =>
    rw [history, List.append_nil]
    exact h
  | cons reply replies ih =>
    rw [run_cons]
    cases hawaits : l.phase.awaits reply with
    | true =>
      rw [history_cons_of_awaits t hawaits, step_eq_respond t hawaits, ← List.append_assoc]
      exact ih (sound_respond t h hawaits)
    | false =>
      rw [history_cons_of_not_awaits t hawaits, step_eq_self t hawaits]
      exact ih h

/-- The life of a listener is sound whatever it is answered. -/
theorem sound_life (t : Tuning) (r : Receiver) (stopped : Bool) (replies : List Reply) :
    SoundLife (life t r stopped replies) ((start r stopped).1.run t replies).1.phase :=
  sound_run t (sound_start r stopped) replies

/-- How a life ended, or how it is going, agrees with what the listener shows, and the listener has kept to the rules. -/
structure Truthful (r : Receiver) (stopped : Bool) (life : List Moment) (l : Listener) : Prop where
  /-- Once the termination is heard, the transport is closed and nothing else happens. The listener has ended and shows
  why. -/
  terminated : ∀ before after, life = before ++ .heard .terminated :: after →
    after = [.did (.close, .disconnected)] ∧ l.phase = .ended .terminated ∧ l.phase.state = .terminated
  /-- A listener ends so only if it hears the termination. -/
  of_terminated : l.phase = .ended .terminated → .heard .terminated ∈ life
  /-- A listener that ends otherwise shows that it is disconnected, and was asked to stop: before it started, or last of
  all that it heard. -/
  of_stopped : l.phase = .ended .stopped → l.phase.state = .disconnected ∧
    (stopped = true ∧ life = [.did (.close, .disconnected)] ∨
      ∃ earlier shown, life = earlier ++ [.heard .stop, .did (.close, shown)])
  /-- The failures that it heard are on the books, and the termination is not. -/
  transportErrors : l.receiver.traffic.transportErrors =
    r.traffic.transportErrors + (life.filterMap Moment.answer?).countP Reply.isFailure
  /-- It waits for a frame only while it shows that it listens, on a connection that was made, with nothing but frames
  since. -/
  recv : ∀ before state after, life = before ++ .did (.recv, state) :: after → state = .listening ∧
    ∃ earlier shown since, before = earlier ++ .did (.connect, shown) :: .heard .connected :: since ∧
      ∀ m ∈ since, m.isTraffic = true
  /-- It pauses only while it shows that it is disconnected, when it has just closed a connection that failed. -/
  pause : ∀ before seconds state after, life = before ++ .did (.pause seconds, state) :: after →
    state = .disconnected ∧
      ∃ earlier reason, before = earlier ++ [.heard (.failed reason), .did (.close, .disconnected)]

theorem mem_answers_iff {life : List Moment} {reply : Reply} :
    reply ∈ life.filterMap Moment.answer? ↔ .heard reply ∈ life := by
  rw [List.mem_filterMap]
  constructor
  · rintro ⟨m, hm, hanswer⟩
    cases m with
    | heard reply' =>
      cases hanswer
      exact hm
    | did deed => cases hanswer
  · intro hm
    exact ⟨_, hm, rfl⟩

theorem answers_life (t : Tuning) (r : Receiver) (stopped : Bool) (replies : List Reply) :
    (life t r stopped replies).filterMap Moment.answer? = (start r stopped).1.heeded t replies := by
  rw [life, List.filterMap_append, answers_history]
  cases stopped with
  | true => rfl
  | false => rfl

theorem deeds_life (t : Tuning) (r : Receiver) (stopped : Bool) (replies : List Reply) :
    (life t r stopped replies).filterMap Moment.deed? =
      (start r stopped).2 ++ ((start r stopped).1.run t replies).2 := by
  rw [life, List.filterMap_append, deeds_history]
  cases stopped with
  | true => rfl
  | false => rfl

theorem truthful_run (t : Tuning) (r : Receiver) (stopped : Bool) (replies : List Reply) :
    Truthful r stopped (life t r stopped replies) ((start r stopped).1.run t replies).1 := by
  obtain ⟨horderly, hfits, hunterminated⟩ := sound_life t r stopped replies
  have haccounts := (start r stopped).1.accounts_run t replies
  refine ⟨?_, ?_, ?_, ?_, ?_, ?_⟩
  · intro before after hlife
    have hended : ((start r stopped).1.run t replies).1.phase = .ended .terminated := by
      by_contra hno
      have hmem : .heard .terminated ∈ life t r stopped replies := by
        rw [hlife]
        exact List.mem_append_right _ List.mem_cons_self
      exact hunterminated hno hmem
    rw [hended] at hfits ⊢
    obtain ⟨earlier, hends, hearlier⟩ := hfits
    rw [hlife, eq_comm, List.append_cons_inj_of_notMem hearlier (by simp)] at hends
    exact ⟨hends.2.2.symm, rfl, rfl⟩
  · intro hended
    rw [hended] at hfits
    obtain ⟨earlier, hends, -⟩ := hfits
    rw [hends]
    exact List.mem_append_right _ List.mem_cons_self
  · intro hended
    rw [hended] at hfits ⊢
    refine ⟨rfl, ?_⟩
    rcases hfits with honly | hheard
    · refine .inl ⟨?_, honly⟩
      by_contra hgoing
      rw [Bool.not_eq_true] at hgoing
      subst hgoing
      -- A listener that starts connects.
      cases honly
    · exact .inr hheard
  · rw [answers_life, haccounts.traffic, receiver_start]
  · intro before state after hlife
    exact horderly before _ after hlife
  · intro before seconds state after hlife
    exact horderly before _ after hlife

end Listener

/-! ### Rehearsed lives -/

/-- What a listener has asked for in a phase, with the state that it shows. -/
def Phase.pending : Phase → Deeds
  | connecting => [(.connect, .connecting)]
  | receiving => [(.recv, .listening)]
  | reconnecting => [(.connect, .listening)]
  | pausing seconds => [(.pause seconds, .disconnected)]
  | ended _ => []

/-- What was called, with the state shown at that time. -/
def LoggedCall.shown (c : LoggedCall) : Deed × ConnectionState := (c.deed, c.state)

namespace Rehearsal

/-- The closings that are logged are the deeds that close a connection. -/
theorem map_shown_closings (time : Nat) (deeds : Deeds) :
    (closings time deeds).map LoggedCall.shown = deeds.filter fun deed => deed.1 = .close := by
  induction deeds with
  | nil => rfl
  | cons deed deeds ih =>
    obtain ⟨deed, state⟩ := deed
    cases deed with
    | close => exact congrArg ((Deed.close, state) :: ·) ih
    | connect | recv | pause => exact ih

/-- A listener closes what it has to, and then asks for the next thing. -/
theorem deeds_respond (t : Tuning) (l : Listener) (reply : Reply) :
    (l.respond t reply).2 =
      (l.respond t reply).2.filter (fun deed => deed.1 = .close) ++ (l.respond t reply).1.phase.pending := by
  cases reply with
  | frame now bytes =>
    rw [Listener.phase_respond, show (l.respond t (.frame now bytes)).2 = _ from l.snd_takeIn t now bytes]
    rfl
  | connected | silence | failed | terminated | rested | stop => rfl

theorem deeds_start (r : Receiver) (stopped : Bool) :
    (Listener.start r stopped).2 =
      (Listener.start r stopped).2.filter (fun deed => deed.1 = .close) ++
        (Listener.start r stopped).1.phase.pending := by
  cases stopped with
  | true => rfl
  | false => rfl

/-- Somebody asked for a stop: the time for it has come, or a call asked. -/
def IsSignalled (stopAt : Option Nat) (time : Nat) (log : List LoggedCall) : Prop :=
  (∃ asked, stopAt = some asked ∧ asked ≤ time) ∨ ∃ c ∈ log, c.event = some .shutdown

/-- A call that ends because the listener shall stop ends so because somebody asked for it. -/
theorem isSignalled_of_endCall? {s : Rehearsal} {deed : Deed} {cue : Cue} {stoppable : Bool} {patience : Option Nat}
    {reply? : Event → Option Reply} (hreply? : reply? cue.event ≠ some .stop) {wait : WaitEnd}
    (h : s.endCall? deed cue stoppable patience reply? = some wait) (hstop : wait.reply = .stop) :
    IsSignalled s.stopAt wait.time wait.heard := by
  simp only [endCall?] at h
  generalize hinterrupted : interruption? (if stoppable then s.stopAt else none) patience = interrupted? at h
  have hasked {time : Nat} (hearly : interrupted? = some (time, .stop)) : s.stopAt = some time := by
    rcases interruption?_eq_some (hinterrupted.trans hearly) with ⟨-, hasked⟩ | ⟨hsilent, -⟩
    · rw [Option.ite_none_right_eq_some] at hasked
      exact hasked.2
    · cases hsilent
  split at h
  · next early reply hearly =>
    cases h
    subst hstop
    exact .inl ⟨early, hasked (Option.filter_eq_some_iff.1 hearly).1, Nat.le_max_right _ _⟩
  · next hevent =>
    split at h
    · cases h
      exact .inr ⟨_, List.mem_singleton_self _, congrArg some hevent⟩
    · cases h
  · next hreply _ =>
    cases h
    subst hstop
    exact absurd hreply hreply?
  · obtain ⟨⟨late, reply⟩, hlate, rfl⟩ := Option.map_eq_some_iff.1 h
    subst hstop
    exact .inl ⟨late, hasked hlate, Nat.le_refl _⟩

/-- What was noticed of a call is at most the call, and tells of the termination exactly if that was the answer. -/
theorem noticed_of_endCall? {s : Rehearsal} {deed : Deed} {cue : Cue} {stoppable : Bool} {patience : Option Nat}
    {reply? : Event → Option Reply} (hshutdown : reply? .shutdown = none)
    (hterminate : reply? cue.event = some .terminated ↔ cue.event = .terminate) {wait : WaitEnd}
    (h : s.endCall? deed cue stoppable patience reply? = some wait) :
    (wait.heard = [] ∨ wait.heard = [s.called deed cue]) ∧
      ((∃ c ∈ wait.heard, c.event = some .terminate) ↔ wait.reply = .terminated) := by
  have hcalled : (∃ c ∈ [s.called deed cue], c.event = some .terminate) ↔ cue.event = .terminate := by
    simp [called]
  rcases endCall?_eq_some hshutdown h with ⟨hreply, hheard⟩ | ⟨hgiven, hheard⟩
  · refine ⟨.inr hheard, ?_⟩
    rw [hheard, hcalled, ← hterminate, hreply, Option.some.injEq]
  · have hno : wait.reply ≠ .terminated := by
      intro hreply
      rw [hreply] at hgiven
      rcases hgiven with ⟨hstop, -⟩ | ⟨hsilent, -⟩
      · cases hstop
      · cases hsilent
    refine ⟨hheard.imp_right And.right, iff_of_false ?_ hno⟩
    rcases hheard with hheard | ⟨hreply, hheard⟩
    · simp [hheard]
    · rw [hheard, hcalled, ← hterminate, hreply]
      exact (Option.some_ne_none _).symm

/-- What was noticed in a wait is at most the call that the listener had asked for. It tells of the termination exactly
if that was the answer, and a wait that ends with a stop does so because somebody asked for it. -/
theorem noticed_of_await {s : Rehearsal} {t : Tuning} {began : Nat} {wait : WaitEnd} {script : Script}
    (h : s.await t began = (some wait, script)) :
    (wait.heard.map LoggedCall.shown).Sublist s.listener.phase.pending ∧
      ((∃ c ∈ wait.heard, c.event = some .terminate) ↔ wait.reply = .terminated) ∧
      (wait.reply = .stop → IsSignalled s.stopAt wait.time wait.heard) := by
  have hconnect (cue : Cue) : cue.event.connectReply? = some .terminated ↔ cue.event = .terminate := by
    cases cue.event <;> simp [Event.connectReply?]
  have hrecv (now : Nat) (cue : Cue) : cue.event.recvReply? now = some .terminated ↔ cue.event = .terminate := by
    cases cue.event <;> simp [Event.recvReply?]
  have hconnect_stop (cue : Cue) : cue.event.connectReply? ≠ some .stop := by
    cases cue.event <;> simp [Event.connectReply?]
  have hrecv_stop (now : Nat) (cue : Cue) : cue.event.recvReply? now ≠ some .stop := by
    cases cue.event <;> simp [Event.recvReply?]
  have hsublist {deed : Deed} {cue : Cue} (hheard : wait.heard = [] ∨ wait.heard = [s.called deed cue])
      (hpending : s.listener.phase.pending = [(deed, s.listener.phase.state)]) :
      (wait.heard.map LoggedCall.shown).Sublist s.listener.phase.pending := by
    rcases hheard with hheard | hheard
    · rw [hheard]
      exact List.nil_sublist _
    · rw [hheard, hpending]
      exact List.Sublist.refl _
  unfold await at h
  cases hphase : s.listener.phase with
  | connecting =>
    rw [hphase] at h
    have hend := (Prod.mk.inj h).1
    obtain ⟨hheard, hterminated⟩ := noticed_of_endCall? rfl (hconnect _) hend
    exact ⟨hphase ▸ hsublist hheard (by rw [hphase]; rfl), hterminated, isSignalled_of_endCall? (hconnect_stop _) hend⟩
  | reconnecting =>
    rw [hphase] at h
    have hend := (Prod.mk.inj h).1
    obtain ⟨hheard, hterminated⟩ := noticed_of_endCall? rfl (hconnect _) hend
    exact ⟨hphase ▸ hsublist hheard (by rw [hphase]; rfl), hterminated, isSignalled_of_endCall? (hconnect_stop _) hend⟩
  | receiving =>
    rw [hphase] at h
    have hend := (Prod.mk.inj h).1
    obtain ⟨hheard, hterminated⟩ := noticed_of_endCall? rfl (hrecv _ _) hend
    exact ⟨hphase ▸ hsublist hheard (by rw [hphase]; rfl), hterminated, isSignalled_of_endCall? (hrecv_stop _ _) hend⟩
  | pausing seconds =>
    rw [hphase] at h
    dsimp only at h
    split at h
    · next early hearly =>
      cases h
      obtain ⟨hasked, -⟩ := Option.filter_eq_some_iff.1 hearly
      exact ⟨List.nil_sublist _, by simp, fun _ => .inl ⟨early, hasked, Nat.le_max_right _ _⟩⟩
    · cases h
      exact ⟨List.nil_sublist _, by simp, nofun⟩
  | ended how =>
    rw [hphase] at h
    cases h

theorem play_of_ended {t : Tuning} {began fuel : Nat} {s : Rehearsal} {how : Ending}
    (h : s.listener.phase = .ended how) : play t began fuel s = ([], s) := by
  cases fuel with
  | zero => rfl
  | succ fuel =>
    refine play_succ_of_none ?_
    rw [await, h]

/-- What was called, as the log shows it, is among the deeds of the listener, in order. -/
theorem shown_play (t : Tuning) (began fuel : Nat) (s : Rehearsal) :
    ((play t began fuel s).1.map LoggedCall.shown).Sublist
      (s.listener.phase.pending ++ (s.listener.run t (answers t began fuel s)).2) := by
  induction fuel generalizing s with
  | zero => exact List.nil_sublist _
  | succ fuel ih =>
    obtain ⟨wait?, script, h⟩ : ∃ wait? script, s.await t began = (wait?, script) := ⟨_, _, rfl⟩
    rw [answers, h]
    cases wait? with
    | none =>
      rw [play_succ_of_none (by rw [h])]
      exact List.nil_sublist _
    | some wait =>
      obtain ⟨hawaits, -, -⟩ := await_eq_some h
      obtain ⟨hheard, -, -⟩ := noticed_of_await h
      have hlater := ih (s.advance t wait script)
      rw [listener_advance hawaits] at hlater
      have hdeeds : (s.listener.respond t wait.reply).2 ++
            ((s.listener.respond t wait.reply).1.run t (answers t began fuel (s.advance t wait script))).2 =
          (s.listener.respond t wait.reply).2.filter (fun deed => deed.1 = .close) ++
            ((s.listener.respond t wait.reply).1.phase.pending ++
              ((s.listener.respond t wait.reply).1.run t (answers t began fuel (s.advance t wait script))).2) := by
        rw [← List.append_assoc, ← deeds_respond]
      rw [play_succ_of_some h, Listener.run_cons_snd, Listener.step_eq_respond t hawaits, hdeeds, List.map_append,
        List.map_append, map_shown_closings, List.append_assoc]
      exact hheard.append ((List.Sublist.refl _).append hlater)

/-- The log tells of the termination exactly if the listener was told of it. -/
theorem terminated_play (t : Tuning) (began fuel : Nat) (s : Rehearsal) :
    .terminated ∈ answers t began fuel s ↔ ∃ c ∈ (play t began fuel s).1, c.event = some .terminate := by
  induction fuel generalizing s with
  | zero =>
    rw [answers, play]
    simp
  | succ fuel ih =>
    obtain ⟨wait?, script, h⟩ : ∃ wait? script, s.await t began = (wait?, script) := ⟨_, _, rfl⟩
    rw [answers, h]
    cases wait? with
    | none =>
      rw [play_succ_of_none (by rw [h])]
      simp
    | some wait =>
      obtain ⟨-, hterminated, -⟩ := noticed_of_await h
      have hclosings : ¬ ∃ c ∈ closings wait.time (s.listener.step t wait.reply).2, c.event = some .terminate := by
        rintro ⟨c, hc, hevent⟩
        rw [event_of_mem_closings hc] at hevent
        cases hevent
      rw [play_succ_of_some h]
      simp only [List.mem_cons, List.mem_append, or_and_right, exists_or]
      rw [ih (s.advance t wait script), hterminated, or_iff_left hclosings, eq_comm]

theorem IsSignalled.mono {stopAt : Option Nat} {time time' : Nat} {log log' : List LoggedCall}
    (h : IsSignalled stopAt time log) (htime : time ≤ time') (hlog : log ⊆ log') : IsSignalled stopAt time' log' := by
  rcases h with ⟨asked, hasked, hle⟩ | ⟨c, hc, hevent⟩
  · exact .inl ⟨asked, hasked, Nat.le_trans hle htime⟩
  · exact .inr ⟨c, hlog hc, hevent⟩

/-- A listener that is told to stop is told so because somebody asked for it. -/
theorem isSignalled_play (t : Tuning) (began fuel : Nat) {s : Rehearsal} (h : .stop ∈ answers t began fuel s) :
    IsSignalled s.stopAt (play t began fuel s).2.clock (play t began fuel s).1 := by
  induction fuel generalizing s with
  | zero => cases h
  | succ fuel ih =>
    obtain ⟨wait?, script, hawait⟩ : ∃ wait? script, s.await t began = (wait?, script) := ⟨_, _, rfl⟩
    rw [answers, hawait] at h
    cases wait? with
    | none => cases h
    | some wait =>
      obtain ⟨hawaits, -, -⟩ := await_eq_some hawait
      obtain ⟨-, -, hsignalled⟩ := noticed_of_await hawait
      rw [play_succ_of_some hawait]
      rcases List.mem_cons.1 h with hstop | hlater
      · -- The listener ends, and nothing more happens.
        have hended : (s.advance t wait script).listener.phase = .ended .stopped := by
          rw [listener_advance hawaits, Listener.phase_respond, ← hstop]
          rfl
        rw [play_of_ended hended, List.append_nil]
        exact (hsignalled hstop.symm).mono (Nat.le_refl _) (List.subset_append_left _ _)
      · exact (ih hlater).mono (Nat.le_refl _) (List.subset_append_right _ _)

end Rehearsal

namespace Listener

open Rehearsal in
/-- **Termination is final, and the state shown is true.** Whatever a listener is answered, it is truthful about how it
ends and keeps to the rules (`Truthful`): once it hears the termination it closes the transport, and that is all; it
ends terminated only then, and otherwise only when it is asked to stop; it waits for frames on connections that stand,
and pauses after closing those that failed. In the rehearsal of any script, with a request to stop at any time or none,
the same holds of what the listener hears, and the rehearsal goes on until the listener has ended or waits for ever. The
log shows what was called, in order and with the state that was shown; it shows that a call reported the termination
exactly if the listener heard it; and a listener that stopped was asked to, by then or by a call. -/
theorem endings_are_truthful (t : Tuning) (r : Receiver) :
    (∀ (stopped : Bool) (replies : List Reply),
      Truthful r stopped (life t r stopped replies) ((start r stopped).1.run t replies).1) ∧
    ∀ (began : Nat) (script : Script) (stopAt : Option Nat),
      let log := (perform t began script stopAt r).1
      let done := (perform t began script stopAt r).2
      let life := life t r (stopAt = some 0) (answers t began (waits script) (opening script stopAt r))
      Truthful r (stopAt = some 0) life done.listener ∧ (done.await t began).1 = none ∧
        (log.map LoggedCall.shown).Sublist (life.filterMap Moment.deed?) ∧
        (.heard .terminated ∈ life ↔ ∃ c ∈ log, c.event = some .terminate) ∧
        (done.listener.phase = .ended .stopped → IsSignalled stopAt done.clock log) := by
  refine ⟨truthful_run t r, fun began script stopAt => ?_⟩
  obtain ⟨hheeded, hlistener⟩ := listener_play t began (waits script) (opening script stopAt r)
  have hshown := shown_play t began (waits script) (opening script stopAt r)
  have hlog := terminated_play t began (waits script) (opening script stopAt r)
  have hstop := isSignalled_play t began (waits script) (s := opening script stopAt r)
  have hanswers := answers_life t r (stopAt = some 0) (answers t began (waits script) (opening script stopAt r))
  have hdeeds := deeds_life t r (stopAt = some 0) (answers t began (waits script) (opening script stopAt r))
  have htruthful := truthful_run t r (stopAt = some 0) (answers t began (waits script) (opening script stopAt r))
  rw [show (start r (stopAt = some 0)).1 = (opening script stopAt r).listener from rfl] at hanswers hdeeds htruthful
  rw [hheeded] at hanswers
  rw [← hlistener] at htruthful
  rw [perform_eq]
  dsimp only
  refine ⟨htruthful, await_play t began (potential_opening_lt script stopAt r), ?_, ?_, fun hended => ?_⟩
  · have hclosed :=
      (List.Sublist.refl ((start r (stopAt = some 0)).2.filter fun deed => deed.1 = .close)).append hshown
    rw [← List.append_assoc, show (opening script stopAt r).listener = (start r (stopAt = some 0)).1 from rfl,
      ← deeds_start] at hclosed
    rw [hdeeds, List.map_append, map_shown_closings]
    exact hclosed
  · have hclosings : ¬ ∃ c ∈ closings 0 (start r (stopAt = some 0)).2, c.event = some .terminate := by
      rintro ⟨c, hc, hevent⟩
      rw [event_of_mem_closings hc] at hevent
      cases hevent
    simp only [List.mem_append, or_and_right, exists_or]
    rw [← mem_answers_iff, hanswers, hlog, or_iff_right hclosings]
  · rcases (htruthful.of_stopped hended).2 with ⟨hbefore, -⟩ | ⟨earlier, shown, hlast⟩
    · exact .inl ⟨0, of_decide_eq_true hbefore, Nat.zero_le _⟩
    · have hheard : .heard .stop ∈ life t r (stopAt = some 0) (answers t began (waits script)
          (opening script stopAt r)) := by
        rw [hlast]
        exact List.mem_append_right _ List.mem_cons_self
      rw [← mem_answers_iff, hanswers] at hheard
      exact (hstop hheard).mono (Nat.le_refl _) (List.subset_append_right _ _)

/-- An empty frame comes in on a first connection, which then fails; the second one finds the transport terminated. -/
def twoConnections : Script :=
  ⟨[⟨5, .ok⟩, ⟨5, .terminate⟩], [⟨10, .frame .empty⟩, ⟨10, .fail "connection reset"⟩]⟩

open Rehearsal in
/-- The listener ends terminated if nobody asks it to stop, and stopped if somebody does in the pause. -/
theorem twoConnections_endings :
    let untold := perform Receiver.bareTuning 0 twoConnections none .fresh
    let told := perform Receiver.bareTuning 0 twoConnections (some 30) .fresh
    (untold.2.listener.phase = .ended .terminated ∧ ∃ c ∈ untold.1, c.event = some .terminate) ∧
    told.2.listener.phase = .ended .stopped ∧ told.2.listener.phase.state = .disconnected ∧
      IsSignalled (some 30) told.2.clock told.1 := by
  have hterminated : (perform Receiver.bareTuning 0 twoConnections none .fresh).2.listener.phase =
      .ended .terminated := by decide +kernel
  have hstopped : (perform Receiver.bareTuning 0 twoConnections (some 30) .fresh).2.listener.phase =
      .ended .stopped := by decide +kernel
  obtain ⟨-, hrehearsed⟩ := endings_are_truthful Receiver.bareTuning .fresh
  obtain ⟨huntold, -, -, hlog, -⟩ := hrehearsed 0 twoConnections none
  obtain ⟨htold, -, -, -, hsignalled⟩ := hrehearsed 0 twoConnections (some 30)
  have hreported := hlog.1 (huntold.of_terminated hterminated)
  exact ⟨⟨hterminated, hreported⟩, hstopped, (htold.of_stopped hstopped).1, hsignalled hstopped⟩

end Listener

end StationFinder
