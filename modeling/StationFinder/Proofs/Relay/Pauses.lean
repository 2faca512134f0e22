import Mathlib.Data.List.DropRight
import StationFinder.Proofs.Relay.Endings

/-!
# The pauses of a listener

A listener pauses after each failure, and the longer the more failures there were before it. What counts is the failures
since it started, or since the last frame that it took in without an error (`failuresSince`); connections that are made,
silences and frames that cannot be taken in are no matter. That the listener keeps this count is shown one answer at a
time (`Listener.failures_respond`), and that its pauses follow the count is shown for whole lives, rehearsed or not
(`Listener.pauses_follow_failures`).
-/

namespace StationFinder

/-! ### Counting failures -/

/-- Does an answer bring a frame that can be taken in without an error? -/
def Reply.isTakenIn (t : Tuning) : Reply → Bool
  | .frame _ bytes => (Frame.announcement t.catalog t.feed.maxFrameBytes bytes).isOk
  | _ => false

/-- The failures among some answers, since the last frame that was taken in without an error or since the start. -/
def failuresSince (t : Tuning) (answers : List Reply) : Nat :=
  (answers.rtakeWhile fun reply => !reply.isTakenIn t).countP Reply.isFailure

/-- Whether a frame is taken in is a matter of the frame alone, whatever it announces and whatever is stored. -/
theorem Receiver.isTakenIn_frame_iff (r : Receiver) (t : Tuning) (now : Nat) (bytes : ByteArray) :
    (Reply.frame now bytes).isTakenIn t = true ↔ (r.handleFrame t now bytes).1 = .ok () := by
  change (Frame.announcement t.catalog t.feed.maxFrameBytes bytes).isOk = true ↔ _
  unfold handleFrame
  cases Frame.announcement t.catalog t.feed.maxFrameBytes bytes with
  | error fault => exact iff_of_false Bool.false_ne_true nofun
  | ok x => exact iff_of_true rfl rfl

/-- One more answer starts the count anew, adds to it or leaves it alone. -/
theorem failuresSince_concat (t : Tuning) (answers : List Reply) (reply : Reply) :
    failuresSince t (answers ++ [reply]) =
      if reply.isTakenIn t then 0 else failuresSince t answers + if reply.isFailure then 1 else 0 := by
  unfold failuresSince
  rw [List.rtakeWhile_concat]
  cases reply.isTakenIn t with
  | true => rfl
  | false => simp [List.countP_append, List.countP_cons]

namespace Listener

/-- A listener counts as it is told. -/
theorem failures_respond (t : Tuning) (l : Listener) (reply : Reply) :
    (l.respond t reply).1.failures =
      if reply.isTakenIn t then 0 else l.failures + if reply.isFailure then 1 else 0 := by
  cases reply with
  | frame now bytes =>
    have htaken := l.receiver.isTakenIn_frame_iff t now bytes
    change (l.takeIn t now bytes).1.failures = _
    unfold takeIn
    split
    · next receiver hframe =>
      rw [hframe] at htaken
      rw [if_pos (htaken.2 rfl)]
      rfl
    · next fault receiver hframe =>
      rw [hframe] at htaken
      rw [if_neg fun h => nomatch htaken.1 h]
      rfl
  | connected | silence | failed | terminated | rested | stop => rfl

end Listener

/-! ### Pauses in a life -/

namespace Moment

/-- Is the moment a pause? -/
def isPause : Moment → Bool
  | did (.pause _, _) => true
  | _ => false

/-- Is the moment a failure? -/
def isFailure : Moment → Bool
  | heard reply => reply.isFailure
  | did _ => false

/-- A pause is due when a call has just failed and the connection is closed. How long it is depends on the failures
before that one. -/
def IsDue (t : Tuning) (life : List Moment) : Moment → Prop
  | did (.pause seconds, _) => ∃ earlier reason,
      life = earlier ++ [.heard (.failed reason), .did (.close, .disconnected)] ∧
        seconds = t.feed.backoff (failuresSince t (earlier.filterMap answer?))
  | _ => True

end Moment

/-- A listener has paused once for each failure, as long as was due. -/
structure Paced (t : Tuning) (life : List Moment) : Prop where
  due : Orderly (Moment.IsDue t) life
  once : life.countP Moment.isPause = life.countP Moment.isFailure

namespace Listener

/-- A life is paced, and the listener has counted right. -/
structure Counts (t : Tuning) (life : List Moment) (l : Listener) : Prop where
  paced : Paced t life
  failures : l.failures = failuresSince t (life.filterMap Moment.answer?)

theorem counts_start (t : Tuning) (r : Receiver) (stopped : Bool) :
    Counts t ((start r stopped).2.map .did) (start r stopped).1 := by
  cases stopped with
  | true => exact ⟨⟨(orderly_nil _).concat trivial, rfl⟩, rfl⟩
  | false => exact ⟨⟨(orderly_nil _).concat trivial, rfl⟩, rfl⟩

/-- The answers in a life that has one more answer, with what the listener made of it. -/
theorem answers_append (life : List Moment) (reply : Reply) (deeds : Deeds) :
    (life ++ Moment.heard reply :: deeds.map .did).filterMap Moment.answer? =
      life.filterMap Moment.answer? ++ [reply] := by
  have hheard : (Moment.heard reply).answer? = some reply := rfl
  rw [List.filterMap_append, List.filterMap_cons_some hheard, answers_deeds]

/-- What a listener makes of an answer keeps its life paced. -/
theorem counts_respond (t : Tuning) {l : Listener} {life : List Moment} (h : Counts t life l) (reply : Reply) :
    Counts t (life ++ .heard reply :: (l.respond t reply).2.map .did) (l.respond t reply).1 := by
  obtain ⟨⟨hdue, honce⟩, hfailures⟩ := h
  refine ⟨⟨?_, ?_⟩, ?_⟩
  · have hheard : Orderly (Moment.IsDue t) (life ++ [.heard reply]) := hdue.concat trivial
    rw [List.append_cons]
    cases reply with
    | frame now bytes =>
      rw [show (l.respond t (.frame now bytes)).2 = _ from l.snd_takeIn t now bytes]
      exact hheard.concat trivial
    | failed reason =>
      have hclosed := hheard.concat (m := .did (.close, .disconnected)) trivial
      have hpause := hclosed.concat (m := .did (.pause (t.feed.backoff l.failures), .disconnected))
        ⟨life, reason, List.append_assoc _ [_] [_], by rw [hfailures]⟩
      rwa [List.append_assoc _ [_] [_]] at hpause
    | silence =>
      have hclosed := hheard.concat (m := .did (.close, .listening)) trivial
      have hconnect := hclosed.concat (m := .did (.connect, .listening)) trivial
      rwa [List.append_assoc _ [_] [_]] at hconnect
    | connected | terminated | rested | stop => exact hheard.concat trivial
  · rw [List.countP_append, List.countP_append, honce]
    cases reply with
    | frame now bytes =>
      rw [show (l.respond t (.frame now bytes)).2 = _ from l.snd_takeIn t now bytes]
      rfl
    | connected | silence | failed | terminated | rested | stop => rfl
  · rw [failures_respond, answers_append, failuresSince_concat, hfailures]

theorem counts_run (t : Tuning) {l : Listener} {life : List Moment} (h : Counts t life l) (replies : List Reply) :
    Counts t (life ++ l.history t replies) (l.run t replies).1 := by
  induction replies generalizing l life with
  | nil =>
    rw [history, List.append_nil]
    exact h
  | cons reply replies ih =>
    rw [run_cons]
    cases hawaits : l.phase.awaits reply with
    | true =>
      rw [history_cons_of_awaits t hawaits, step_eq_respond t hawaits, ← List.append_assoc]
      exact ih (counts_respond t h reply)
    | false =>
      rw [history_cons_of_not_awaits t hawaits, step_eq_self t hawaits]
      exact ih h

/-- A life is paced whatever the listener is answered. -/
theorem paced_life (t : Tuning) (r : Receiver) (stopped : Bool) (replies : List Reply) :
    Paced t (life t r stopped replies) :=
  (counts_run t (counts_start t r stopped) replies).paced

open Rehearsal in
/-- **Pauses follow the count of failures.** Whatever a listener is answered, and also in the rehearsal of any script,
it pauses once for each call that fails, after closing the connection, and as long as is due after the failures before
that one, since it started or since the last frame that it took in without an error. A failure adds one to the count and
such a frame starts it anew; no other answer changes it. Which frames are taken in is decided by the frames alone: those
of no interest are, and so are those about systems and stations that are not stored. -/
theorem pauses_follow_failures (t : Tuning) (r : Receiver) :
    (∀ (stopped : Bool) (replies : List Reply), Paced t (life t r stopped replies)) ∧
    (∀ (began : Nat) (script : Script) (stopAt : Option Nat),
      Paced t (life t r (stopAt = some 0) (answers t began (waits script) (opening script stopAt r))) ∧
        ((perform t began script stopAt r).2.await t began).1 = none) ∧
    failuresSince t [] = 0 ∧
    (∀ (answers : List Reply) (reason : String),
      failuresSince t (answers ++ [.failed reason]) = failuresSince t answers + 1) ∧
    (∀ (answers : List Reply) (reply : Reply), reply.isTakenIn t = true →
      failuresSince t (answers ++ [reply]) = 0) ∧
    (∀ (answers : List Reply) (reply : Reply), reply.isTakenIn t = false → reply.isFailure = false →
      failuresSince t (answers ++ [reply]) = failuresSince t answers) ∧
    ∀ (r : Receiver) (now : Nat) (bytes : ByteArray),
      (Reply.frame now bytes).isTakenIn t = true ↔ (r.handleFrame t now bytes).1 = .ok () := by
  refine ⟨paced_life t r, fun began script stopAt => ⟨paced_life t r _ _, ?_⟩, rfl, fun answers reason => ?_,
    fun answers reply htaken => ?_, fun answers reply htaken hfailure => ?_,
    fun r now bytes => r.isTakenIn_frame_iff t now bytes⟩
  · rw [perform_eq]
    exact await_play t began (potential_opening_lt script stopAt r)
  · rw [failuresSince_concat]
    rfl
  · rw [failuresSince_concat, if_pos htaken]
  · rw [failuresSince_concat, if_neg (Bool.eq_false_iff.1 htaken), if_neg (Bool.eq_false_iff.1 hfailure), Nat.add_zero]

/-- Two connections are refused; the third one brings a frame of no interest, and then fails. -/
def refusedTwice : List Reply :=
  [.failed "refused", .rested, .failed "refused", .rested, .connected, .frame 7 Receiver.blankFrame, .failed "reset"]

/-- The second pause is twice as long as the first, and the third is as short as the first again. -/
theorem refusedTwice_pauses :
    let t := Receiver.bareTuning
    let life := life t .fresh false refusedTwice
    life.filterMap (fun m => match m with
      | .did (.pause seconds, _) => some seconds
      | _ => none) = [15, 30, 15] ∧
    life.countP Moment.isFailure = 3 ∧ life.countP Moment.isPause = 3 ∧
    (Reply.frame 7 Receiver.blankFrame).isTakenIn t = true ∧
    failuresSince t ([.failed "refused", .rested, .failed "refused"] ++ [.rested]) = 2 ∧
    failuresSince t ([.failed "refused", .rested, .failed "refused", .rested, .connected] ++
      [.frame 7 Receiver.blankFrame]) = 0 := by
  intro t life
  obtain ⟨hpaced, -, -, -, hanew, hsame, htaken⟩ := pauses_follow_failures t .fresh
  have hframe : (Receiver.handleFrame .fresh t 7 Receiver.blankFrame).1.isOk = true := by decide +kernel
  have hok : (Receiver.handleFrame .fresh t 7 Receiver.blankFrame).1 = .ok () := by
    cases h : (Receiver.handleFrame .fresh t 7 Receiver.blankFrame).1 with
    | error fault =>
      rw [h] at hframe
      cases hframe
    | ok u => rfl
  have hfailures : life.countP Moment.isFailure = 3 := by decide +kernel
  have hread : (Reply.frame 7 Receiver.blankFrame).isTakenIn t = true := (htaken _ _ _).2 hok
  exact ⟨by decide +kernel, hfailures, (hpaced _ _).once.trans hfailures, hread, hsame _ _ rfl rfl, hanew _ _ hread⟩

end Listener

end StationFinder
