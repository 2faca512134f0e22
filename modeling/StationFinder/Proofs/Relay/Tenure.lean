import StationFinder.Proofs.Relay.Endings
import StationFinder.Relay.Supervisor

/-!
# The tenure of a worker

What is on record of a worker grows in a few ways only (`Tenure`). So each mark keeps to rules about the marks before
it (`Mark.MayFollow`): transports are built first of all, if there is a runtime, and after each pause that passed, the
pauses follow the breakdowns and grow with them, and nothing is built once the worker has left. What state the worker is
in can be told from its record (`Tenure.tells`), and it has built at most one more transport than there were breakdowns
(`Tenure.served`).
-/

namespace StationFinder

/-! ### The record of one worker -/

namespace Mark

def isBreakdown : Mark → Bool
  | broke _ => true
  | _ => false

def isLeaving : Mark → Bool
  | left _ | stranded => true
  | _ => false

end Mark

/-- How the record of a worker grows, with the breakdowns so far, whether the worker was told to stop, and what it is
about. -/
inductive Tenure (t : Tuning) : List Mark → (breakdowns : Nat) → (told : Bool) → WorkerPhase → Prop
  | engaged : Tenure t [.built] 0 false .working
  | stranded : Tenure t [.stranded] 0 false .done
  | told {record n told phase} : Tenure t record n told phase → Tenure t (record ++ [.told]) n true phase
  | broke {record n} : Tenure t record n false .working →
      Tenure t (record ++ [.broke (some (t.feed.backoff n))]) (n + 1) false (.recovering (t.feed.backoff n))
  | collapsed {record n} : Tenure t record n true .working →
      Tenure t (record ++ [.broke none, .left none]) (n + 1) true .done
  | resumed {record n told seconds} : Tenure t record n told (.recovering seconds) →
      Tenure t (record ++ [.rested, .built]) n told .working
  | halted {record n seconds} : Tenure t record n true (.recovering seconds) →
      Tenure t (record ++ [.left none]) n true .done
  | ended {record n told} (how : Ending) : Tenure t record n told .working →
      Tenure t (record ++ [.left (some how)]) n told .done

/-- A mark may follow others on the record of a worker. -/
structure Mark.MayFollow (t : Tuning) (record : List Mark) (mark : Mark) : Prop where
  /-- A transport is built first of all and whenever a pause has passed, and at no other time. -/
  built : mark = .built ∨ mark = .stranded ↔ record = [] ∨ record.getLast? = some .rested
  /-- Only the first one can be missing, for want of a runtime. -/
  stranded : mark = .stranded → record = []
  /-- A pause that passes was due since a breakdown, though the worker may have been told to stop in between. -/
  rested : mark = .rested → ∃ seconds, (record.filter (· ≠ .told)).getLast? = some (.broke (some seconds))
  /-- The pause after a breakdown is the longer the more breakdowns there were. There is none once the worker is told to
  stop. -/
  broke : ∀ pause, mark = .broke pause →
    pause = if .told ∈ record then none else some (t.feed.backoff (record.countP Mark.isBreakdown))
  /-- Unless its listener ends, a worker leaves only if it is told to stop. -/
  dropped : mark = .left none → .told ∈ record
  /-- A worker that has left can be told to stop, and that is all. -/
  left : record.any Mark.isLeaving = true → mark = .told

/-- What the record of a worker tells of its state. -/
structure Tenure.Tells (t : Tuning) (record : List Mark) (n : Nat) (told : Bool) (phase : WorkerPhase) : Prop where
  orderly : Orderly (Mark.MayFollow t) record
  not_nil : record ≠ []
  last : record.getLast? ≠ some .rested
  breakdowns : record.countP Mark.isBreakdown = n
  told_iff : .told ∈ record ↔ told = true
  left_eq : record.any Mark.isLeaving = decide (phase = .done)
  transports : record.countP (· = .built) ≤ n + 1
  /-- In a pause there is a new breakdown for which no transport was built yet. -/
  recovering : ∀ seconds, phase = .recovering seconds →
    (record.filter (· ≠ .told)).getLast? = some (.broke (some seconds)) ∧ record.countP (· = .built) ≤ n

namespace Tenure

variable {t : Tuning} {record : List Mark} {n : Nat} {told : Bool} {phase : WorkerPhase}

/-- A mark other than a new transport may follow if it keeps to the rules about its own kind. -/
theorem Tells.mayFollow (h : Tells t record n told phase) {mark : Mark} (hbuilt : mark ≠ .built)
    (hstranded : mark ≠ .stranded) (hrested : mark = .rested → ∃ seconds, phase = .recovering seconds)
    (hbroke : ∀ pause, mark = .broke pause → pause = if told then none else some (t.feed.backoff n))
    (hdropped : mark = .left none → told = true) (hleft : phase = .done → mark = .told) :
    mark.MayFollow t record := by
  refine ⟨⟨fun heq => (heq.elim hbuilt hstranded).elim, fun hnext => (hnext.elim h.not_nil h.last).elim⟩,
    fun heq => absurd heq hstranded, ?_, ?_, ?_, ?_⟩
  · intro heq
    obtain ⟨seconds, hphase⟩ := hrested heq
    exact ⟨seconds, (h.recovering seconds hphase).1⟩
  · intro pause heq
    rw [hbroke pause heq, h.breakdowns]
    simp only [h.told_iff]
  · intro heq
    exact h.told_iff.2 (hdropped heq)
  · intro hgone
    rw [h.left_eq] at hgone
    exact hleft (of_decide_eq_true hgone)

/-- What a longer record tells of the state can be told from what was added. -/
theorem Tells.append (h : Tells t record n told phase) {marks : List Mark} {phase' : WorkerPhase}
    (horderly : Orderly (Mark.MayFollow t) (record ++ marks)) {last : Mark} (hlast : marks.getLast? = some last)
    (hlast_ne : last ≠ .rested) (hleft : (decide (phase = .done) || marks.any Mark.isLeaving) = decide (phase' = .done))
    (htransports : record.countP (· = .built) + marks.countP (· = .built) ≤ n + marks.countP Mark.isBreakdown + 1)
    (hrecovering : ∀ seconds, phase' = .recovering seconds →
      ((record ++ marks).filter (· ≠ .told)).getLast? = some (.broke (some seconds)) ∧
        record.countP (· = .built) + marks.countP (· = .built) ≤ n + marks.countP Mark.isBreakdown) :
    Tells t (record ++ marks) (n + marks.countP Mark.isBreakdown) (marks.contains .told || told) phase' := by
  refine ⟨horderly, ?_, ?_, ?_, ?_, ?_, ?_, ?_⟩
  · exact List.append_ne_nil_of_left_ne_nil h.not_nil marks
  · rw [List.getLast?_append, hlast]
    exact fun heq => hlast_ne (Option.some.inj heq)
  · rw [List.countP_append, h.breakdowns]
  · rw [List.mem_append, h.told_iff, Bool.or_eq_true, List.contains_iff_mem, or_comm]
  · rw [List.any_append, h.left_eq, hleft]
  · rwa [List.countP_append]
  · rwa [List.countP_append]

theorem tells (h : Tenure t record n told phase) : Tells t record n told phase := by
  induction h with
  | engaged =>
    have hmay : Mark.built.MayFollow t [] := ⟨by simp, nofun, nofun, nofun, nofun, nofun⟩
    exact ⟨(orderly_nil _).concat hmay, by simp, by simp, rfl, by simp, rfl, Nat.le_refl 1, nofun⟩
  | stranded =>
    have hmay : Mark.stranded.MayFollow t [] := ⟨by simp, fun _ => rfl, nofun, nofun, nofun, nofun⟩
    exact ⟨(orderly_nil _).concat hmay, by simp, by simp, rfl, by simp, rfl, Nat.zero_le 1, nofun⟩
  | @told record n told phase h ih =>
    have hmay : Mark.told.MayFollow t record := ih.mayFollow nofun nofun nofun nofun nofun fun _ => rfl
    refine ih.append (ih.orderly.concat hmay) rfl nofun (Bool.or_false _) ih.transports fun seconds hphase => ?_
    obtain ⟨hlast, htransports⟩ := ih.recovering seconds hphase
    rw [List.filter_append]
    exact ⟨by simpa using hlast, htransports⟩
  | @broke record n h ih =>
    have hmay : (Mark.broke (some (t.feed.backoff n))).MayFollow t record := by
      refine ih.mayFollow nofun nofun nofun ?_ nofun nofun
      intro pause heq
      cases heq
      rfl
    refine ih.append (ih.orderly.concat hmay) rfl nofun rfl (Nat.le_succ_of_le ih.transports) fun seconds hphase => ?_
    cases hphase
    exact ⟨by simp, ih.transports⟩
  | @collapsed record n h ih =>
    have hbroke : (Mark.broke none).MayFollow t record := by
      refine ih.mayFollow nofun nofun nofun ?_ nofun nofun
      intro pause heq
      cases heq
      rfl
    have hleft : (Mark.left none).MayFollow t (record ++ [.broke none]) := by
      refine ⟨by simp, nofun, nofun, nofun, fun _ => ?_, ?_⟩
      · exact List.mem_append_left _ (ih.told_iff.2 rfl)
      · rw [List.any_append, ih.left_eq]
        exact nofun
    have horderly := (ih.orderly.concat hbroke).concat hleft
    rw [← List.append_cons] at horderly
    exact ih.append horderly rfl nofun rfl (Nat.le_succ_of_le ih.transports) nofun
  | @resumed record n told seconds h ih =>
    have hrested : Mark.rested.MayFollow t record :=
      ih.mayFollow nofun nofun (fun _ => ⟨seconds, rfl⟩) nofun nofun nofun
    have hbuilt : Mark.built.MayFollow t (record ++ [.rested]) := by
      refine ⟨by simp, nofun, nofun, nofun, nofun, ?_⟩
      rw [List.any_append, ih.left_eq]
      exact nofun
    have horderly := (ih.orderly.concat hrested).concat hbuilt
    rw [← List.append_cons] at horderly
    exact ih.append horderly rfl nofun rfl (Nat.succ_le_succ (ih.recovering seconds rfl).2) nofun
  | @halted record n seconds h ih =>
    have hmay : (Mark.left none).MayFollow t record := ih.mayFollow nofun nofun nofun nofun (fun _ => rfl) nofun
    exact ih.append (ih.orderly.concat hmay) rfl nofun rfl ih.transports nofun
  | @ended record n told how h ih =>
    have hmay : (Mark.left (some how)).MayFollow t record := ih.mayFollow nofun nofun nofun nofun nofun nofun
    exact ih.append (ih.orderly.concat hmay) rfl nofun rfl ih.transports nofun

end Tenure

/-- What the record of a worker shows. -/
structure Served (t : Tuning) (record : List Mark) : Prop where
  orderly : Orderly (Mark.MayFollow t) record
  /-- A worker goes to work at once, so a transport was built, or else there was no runtime. -/
  engaged : record ≠ []
  /-- Whenever a pause has passed, a transport was built. -/
  resumed : record.getLast? ≠ some .rested
  transports : record.countP (· = .built) ≤ record.countP Mark.isBreakdown + 1

theorem Tenure.served {t : Tuning} {record : List Mark} {n : Nat} {told : Bool} {phase : WorkerPhase}
    (h : Tenure t record n told phase) : Served t record := by
  obtain ⟨horderly, hengaged, hresumed, rfl, -, -, htransports, -⟩ := h.tells
  exact ⟨horderly, hengaged, hresumed, htransports⟩

end StationFinder
