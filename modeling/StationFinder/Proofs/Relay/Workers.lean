import Mathlib.Data.List.Pairwise
import StationFinder.Proofs.Relay.Tenure

/-!
# Workers of a supervisor

The journal of a supervisor holds the records of its workers, one after the other, and all workers but the present
one have left (`Booked`). Whatever incidents there are, and whatever orders are given, each adds to the record of the
present worker in one of the ways in which such records grow (`Supervisor.lawful_handle`), or makes a new worker once
the last one has left (`Supervisor.lawful_start`); so it holds at any time (`Supervisor.orderly_afterAll`). From this
follows what is to be expected of workers: there is never more than one that has not left, the transports that each of
them builds are due, and once stopped it is gone (`Supervisor.workers_are_kept`). Things may still happen to a worker
that is being stopped, up to its end.
-/

namespace StationFinder

/-! ### The journal -/

/-- What is on record of the worker of a context. -/
def recordOf (journal : List (Nat × Mark)) (context : Nat) : List Mark :=
  journal.filterMap fun entry => if entry.1 = context then some entry.2 else none

theorem recordOf_append (journal later : List (Nat × Mark)) (context : Nat) :
    recordOf (journal ++ later) context = recordOf journal context ++ recordOf later context :=
  List.filterMap_append

theorem recordOf_map_self (context : Nat) (marks : List Mark) : recordOf (marks.map (context, ·)) context = marks := by
  rw [recordOf, List.filterMap_map]
  simp only [Function.comp_def, if_true]
  exact List.filterMap_some

theorem recordOf_map_of_ne {context other : Nat} (h : context ≠ other) (marks : List Mark) :
    recordOf (marks.map (context, ·)) other = [] := by
  rw [recordOf, List.filterMap_map, List.filterMap_eq_nil_iff]
  intro mark _
  exact if_neg h

theorem recordOf_eq_nil {journal : List (Nat × Mark)} {context : Nat} (h : ∀ entry ∈ journal, entry.1 < context) :
    recordOf journal context = [] := by
  rw [recordOf, List.filterMap_eq_nil_iff]
  intro entry hentry
  exact if_neg (Nat.ne_of_lt (h entry hentry))

/-- The journal holds the records of as many workers as there are contexts, one after the other. The last one may be
present; all others have left. -/
structure Booked (t : Tuning) (contexts : Nat) (journal : List (Nat × Mark)) (worker? : Option Worker) : Prop where
  sorted : journal.Pairwise fun a b => a.1 ≤ b.1
  numbered : ∀ entry ∈ journal, entry.1 < contexts
  present : ∀ w, worker? = some w →
    w.context + 1 = contexts ∧ Tenure t (recordOf journal w.context) w.breakdowns w.told w.phase
  past : ∀ context < contexts, (∀ w, worker? = some w → w.context ≠ context) →
    ∃ n told, Tenure t (recordOf journal context) n told .done

namespace Booked

variable {t : Tuning} {contexts : Nat} {journal : List (Nat × Mark)} {worker? : Option Worker} {w : Worker}

/-- What comes after a journal is about the last worker or a later one. -/
theorem sorted_append (hsorted : journal.Pairwise fun a b => a.1 ≤ b.1) {context : Nat}
    (hnumbered : ∀ entry ∈ journal, entry.1 ≤ context) (marks : List Mark) :
    (journal ++ marks.map (context, ·)).Pairwise fun a b => a.1 ≤ b.1 := by
  rw [List.pairwise_append, List.pairwise_map]
  refine ⟨hsorted, List.pairwise_of_forall fun _ _ => Nat.le_refl _, fun entry hentry later hlater => ?_⟩
  obtain ⟨mark, -, rfl⟩ := List.mem_map.1 hlater
  exact hnumbered entry hentry

/-- More can be put on record of the present worker. -/
theorem write (h : Booked t contexts journal (some w)) (w' : Worker) (hcontext : w'.context = w.context)
    (marks : List Mark)
    (htenure : Tenure t (recordOf journal w.context ++ marks) w'.breakdowns w'.told w'.phase) :
    Booked t contexts (journal ++ marks.map (w.context, ·)) (some w') := by
  obtain ⟨hlast, -⟩ := h.present w rfl
  refine ⟨sorted_append h.sorted (fun entry hentry => ?_) marks, ?_, ?_, ?_⟩
  · have hentry := h.numbered entry hentry
    omega
  · intro entry hentry
    rcases List.mem_append.1 hentry with hentry | hentry
    · exact h.numbered entry hentry
    · obtain ⟨mark, -, rfl⟩ := List.mem_map.1 hentry
      exact Nat.lt_of_succ_le (Nat.le_of_eq hlast)
  · intro w'' heq
    cases heq
    rw [hcontext, recordOf_append, recordOf_map_self]
    exact ⟨hlast, htenure⟩
  · intro context hlt hne
    have hother : w.context ≠ context := hcontext ▸ hne w' rfl
    rw [recordOf_append, recordOf_map_of_ne hother, List.append_nil]
    refine h.past context hlt fun w'' heq => ?_
    cases heq
    exact hother

/-- The records of all workers but the present one are those of workers that have left. -/
theorem dismiss (h : Booked t contexts journal worker?) (hdone : ∀ w, worker? = some w → w.phase = .done) :
    Booked t contexts journal none := by
  refine ⟨h.sorted, h.numbered, nofun, fun context hlt _ => ?_⟩
  by_cases hpast : ∀ w, worker? = some w → w.context ≠ context
  · exact h.past context hlt hpast
  · push Not at hpast
    obtain ⟨w, hw, rfl⟩ := hpast
    obtain ⟨-, htenure⟩ := h.present w hw
    rw [hdone w hw] at htenure
    exact ⟨_, _, htenure⟩

/-- A new worker can be made once there is none that has not left. -/
theorem engage (h : Booked t contexts journal none) {mark : Mark} {n : Nat} {told : Bool} {phase : WorkerPhase}
    (htenure : Tenure t [mark] n told phase) :
    Booked t (contexts + 1) (journal ++ [(contexts, mark)]) (some ⟨contexts, n, told, phase⟩) := by
  have hnew : recordOf (journal ++ [(contexts, mark)]) contexts = [mark] := by
    rw [recordOf_append, recordOf_eq_nil h.numbered]
    exact recordOf_map_self contexts [mark]
  refine ⟨sorted_append h.sorted (fun entry hentry => Nat.le_of_lt (h.numbered entry hentry)) [mark], ?_, ?_, ?_⟩
  · intro entry hentry
    rcases List.mem_append.1 hentry with hentry | hentry
    · exact Nat.lt_succ_of_lt (h.numbered entry hentry)
    · rw [List.mem_singleton.1 hentry]
      exact Nat.lt_succ_self contexts
  · intro w heq
    cases heq
    exact ⟨rfl, hnew ▸ htenure⟩
  · intro context hlt hne
    have hother : contexts ≠ context := hne _ rfl
    have hnone : recordOf [(contexts, mark)] context = [] := recordOf_map_of_ne hother [mark]
    rw [recordOf_append, hnone, List.append_nil]
    exact h.past context (by omega) nofun

end Booked

/-! ### What incidents and orders do -/

/-- An answer leaves the count of breakdowns as it is. -/
theorem Receiver.panics_note (r : Receiver) (t : Tuning) (reply : Reply) :
    (r.note t reply).traffic.panics = r.traffic.panics := by
  cases reply with
  | frame now bytes =>
    change (r.handleFrame t now bytes).2.traffic.panics = _
    unfold handleFrame
    cases Frame.announcement t.catalog t.feed.maxFrameBytes bytes with
    | error fault => cases fault <;> rfl
    | ok x => cases x <;> rfl
  | connected | silence | failed | terminated | rested | stop => rfl

theorem Listener.panics_step (t : Tuning) (l : Listener) (reply : Reply) :
    (l.step t reply).1.receiver.traffic.panics = l.receiver.traffic.panics := by
  cases h : l.phase.awaits reply with
  | true => rw [step_eq_respond t h, receiver_respond, Receiver.panics_note]
  | false => rw [step_eq_self t h]

/-- A listener can be in a phase while its worker, if it has one, is about something. -/
def Phase.Suits (phase : Phase) : Option WorkerPhase → Prop
  | some .working => ∀ how, phase ≠ .ended how
  | some (.recovering _) => phase = .ended .stopped
  | some .done | none => ∃ how, phase = .ended how

/-- The breakdowns in a journal. -/
def breakdownsIn (journal : List (Nat × Mark)) : Nat := journal.countP (·.2.isBreakdown)

theorem breakdownsIn_append (journal later : List (Nat × Mark)) :
    breakdownsIn (journal ++ later) = breakdownsIn journal + breakdownsIn later :=
  List.countP_append

namespace Supervisor

variable {t : Tuning} {r : Receiver} {s : Supervisor} {w : Worker}

/-- What holds of a supervisor at any time, when it was made for a receiver. -/
structure Lawful (t : Tuning) (r : Receiver) (s : Supervisor) : Prop where
  booked : Booked t s.contexts.length s.journal s.worker
  suits : s.listener.phase.Suits (s.worker.map Worker.phase)
  counted : s.listener.receiver.traffic.panics = r.traffic.panics + breakdownsIn s.journal

/-- What is on record of the present worker. -/
theorem Lawful.present (h : Lawful t r s) (hw : s.worker = some w) :
    Booked t s.contexts.length s.journal (some w) ∧
      Tenure t (recordOf s.journal w.context) w.breakdowns w.told w.phase := by
  have hbooked := h.booked
  rw [hw] at hbooked
  exact ⟨hbooked, (hbooked.present w rfl).2⟩

theorem lawful_proceed {moved : Listener × Deeds}
    (hbooked : Booked t s.contexts.length s.journal (some { w with phase := .working }))
    (hcounted : moved.1.receiver.traffic.panics = r.traffic.panics + breakdownsIn s.journal) :
    Lawful t r (s.proceed w moved).1 := by
  obtain ⟨-, htenure⟩ := hbooked.present _ rfl
  unfold proceed
  split
  · next how hended =>
    refine ⟨hbooked.write { w with phase := .done } rfl [.left (some how)] (.ended how htenure), ⟨how, hended⟩, ?_⟩
    rw [note, breakdownsIn_append]
    exact hcounted
  · next hgoing =>
    exact ⟨hbooked, hgoing, hcounted⟩

theorem lawful_launch
    (hbooked : Booked t s.contexts.length (s.journal ++ [(w.context, .built)]) (some { w with phase := .working }))
    (hcounted : s.listener.receiver.traffic.panics = r.traffic.panics + breakdownsIn s.journal) :
    Lawful t r (s.launch w).1 := by
  refine lawful_proceed hbooked ?_
  rw [Listener.receiver_start, note, breakdownsIn_append]
  exact hcounted

theorem lawful_collapse (h : Lawful t r s) (hw : s.worker = some w) (hworking : w.phase = .working) :
    Lawful t r (s.collapse t w).1 := by
  obtain ⟨hbooked, htenure⟩ := h.present hw
  have hcounted := h.counted
  obtain ⟨context, breakdowns, told, phase⟩ := w
  subst hworking
  cases told with
  | true =>
    have hwritten := hbooked.write ⟨context, breakdowns + 1, true, .done⟩ rfl [.broke none, .left none]
      (.collapsed htenure)
    have hbreakdowns : breakdownsIn (s.journal ++ [(context, .broke none), (context, .left none)]) =
        breakdownsIn s.journal + 1 := breakdownsIn_append _ _
    have hjournal : (s.collapse t ⟨context, breakdowns, true, .working⟩).1.journal =
        s.journal ++ [(context, .broke none), (context, .left none)] := List.append_assoc _ [_] [_]
    refine ⟨hjournal ▸ hwritten, ⟨.stopped, rfl⟩, ?_⟩
    rw [hjournal, hbreakdowns, ← Nat.add_assoc, ← hcounted]
    rfl
  | false =>
    have hwritten := hbooked.write ⟨context, breakdowns + 1, false, .recovering (t.feed.backoff breakdowns)⟩ rfl
      [.broke (some (t.feed.backoff breakdowns))] (.broke htenure)
    have hbreakdowns : breakdownsIn (s.journal ++ [(context, .broke (some (t.feed.backoff breakdowns)))]) =
        breakdownsIn s.journal + 1 := breakdownsIn_append _ _
    refine ⟨hwritten, rfl, ?_⟩
    exact (congrArg Nat.succ hcounted).trans (congrArg (r.traffic.panics + ·) hbreakdowns).symm

/-- An incident leaves it so, whatever the worker is about. -/
theorem lawful_handle (h : Lawful t r s) (incident : Incident) : Lawful t r (s.handle t incident).1 := by
  unfold handle
  split
  · exact h
  next w hw =>
  obtain ⟨hbooked, htenure⟩ := h.present hw
  split
  · next reply hworking =>
    refine lawful_proceed ?_ ((s.listener.panics_step t reply).trans h.counted)
    rw [← hworking]
    exact hbooked
  · next hworking => exact lawful_collapse h hw hworking
  · next seconds hrecovering =>
    rw [hrecovering] at htenure
    refine lawful_launch ?_ ?_
    · have hwritten := hbooked.write { w with phase := .working } rfl [.rested, .built] (.resumed htenure)
      rw [show (s.note w .rested).journal ++ [(w.context, .built)] = s.journal ++ [(w.context, .rested), _] from
        List.append_assoc _ [_] [_]]
      exact hwritten
    · rw [note, breakdownsIn_append]
      exact h.counted
  · next seconds hrecovering =>
    split
    · next htold =>
      rw [hrecovering, htold] at htenure
      have hwritten := hbooked.write { w with phase := .done } rfl [.left none] (htold ▸ .halted htenure)
      have hsuits := h.suits
      rw [hw, Option.map_some, hrecovering] at hsuits
      refine ⟨hwritten, ⟨.stopped, hsuits⟩, ?_⟩
      rw [note, breakdownsIn_append]
      exact h.counted
    · exact h
  · exact h

theorem lawful_handleAll (h : Lawful t r s) (incidents : List Incident) : Lawful t r (s.handleAll t incidents).1 := by
  induction incidents generalizing s with
  | nil => exact h
  | cons incident incidents ih => exact ih (lawful_handle h incident)

theorem lawful_terminate (h : Lawful t r s) (context : Nat) : Lawful t r (s.terminate context) := by
  obtain ⟨hbooked, hsuits, hcounted⟩ := h
  refine ⟨?_, hsuits, hcounted⟩
  rw [terminate, List.length_set]
  exact hbooked

theorem lawful_tell (h : Lawful t r s) : Lawful t r s.tell := by
  unfold tell
  split
  · next w hw =>
    obtain ⟨hbooked, htenure⟩ := h.present hw
    have hsuits := h.suits
    rw [hw] at hsuits
    refine ⟨hbooked.write { w with told := true } rfl [.told] (.told htenure), hsuits, ?_⟩
    rw [note, breakdownsIn_append]
    exact h.counted
  · exact h

/-- What sees a worker to its end is an incident as well. -/
theorem windUp_eq_handle (s : Supervisor) (t : Tuning) : ∃ incident, s.windUp t = s.handle t incident := by
  unfold windUp
  split
  · exact ⟨_, rfl⟩
  · exact ⟨_, rfl⟩
  · exact ⟨_, rfl⟩

theorem lawful_windUp (h : Lawful t r s) : Lawful t r (s.windUp t).1 := by
  obtain ⟨incident, heq⟩ := s.windUp_eq_handle t
  rw [heq]
  exact lawful_handle h incident

theorem lawful_dismiss (h : Lawful t r s) (hdone : ∀ w, s.worker = some w → w.phase = .done) : Lawful t r s.dismiss :=
  ⟨h.booked.dismiss hdone, ⟨.stopped, rfl⟩, h.counted⟩

/-- Without a worker that has not ended, the listener has ended. -/
theorem Lawful.exists_ended (h : Lawful t r s) (hgone : s.isAlive = false) : ∃ how, s.listener.phase = .ended how := by
  have hsuits := h.suits
  cases hw : s.worker with
  | none =>
    rw [hw] at hsuits
    exact hsuits
  | some w =>
    have hdone : w.phase = .done := by simpa [isAlive, hw] using hgone
    rw [hw, Option.map_some, hdone] at hsuits
    exact hsuits

theorem lawful_start (h : Lawful t r s) (provision : Provision) : Lawful t r (s.start provision).2.1 := by
  unfold start
  split
  · exact h
  next hgone =>
  have hended := h.exists_ended (Bool.eq_false_iff.2 hgone)
  have hbooked : Booked t s.contexts.length s.journal none := by
    refine h.booked.dismiss fun w hw => ?_
    simpa [isAlive, hw] using hgone
  cases provision with
  | full =>
    refine lawful_launch ?_ h.counted
    rw [List.length_append]
    exact hbooked.engage .engaged
  | noRuntime =>
    refine ⟨?_, hended, ?_⟩
    · dsimp only [note]
      rw [List.length_append]
      exact hbooked.engage .stranded
    · dsimp only [note]
      rw [breakdownsIn_append]
      exact h.counted
  | noThread reason => exact ⟨hbooked, hended, h.counted⟩

/-! ### A worker that is being stopped -/

/-- Which worker there is, by its context, and whether it was told to stop. -/
def badge (s : Supervisor) : Option (Nat × Bool) := s.worker.map fun w => (w.context, w.told)

theorem keeps_proceed (s : Supervisor) (w : Worker) (moved : Listener × Deeds) :
    (s.proceed w moved).1.contexts = s.contexts ∧ (s.proceed w moved).1.badge = some (w.context, w.told) := by
  unfold proceed
  split
  · exact ⟨rfl, rfl⟩
  · exact ⟨rfl, rfl⟩

/-- Incidents change neither the contexts nor which worker there is. -/
theorem keeps_handle (s : Supervisor) (t : Tuning) (incident : Incident) :
    (s.handle t incident).1.contexts = s.contexts ∧ (s.handle t incident).1.badge = s.badge := by
  unfold handle
  split
  · exact ⟨rfl, rfl⟩
  next w hw =>
  have hbadge : s.badge = some (w.context, w.told) := congrArg (Option.map _) hw
  split
  · rw [hbadge]
    exact s.keeps_proceed w _
  · rw [hbadge]
    unfold collapse
    split
    · exact ⟨rfl, rfl⟩
    · exact ⟨rfl, rfl⟩
  · rw [hbadge]
    exact keeps_proceed _ w _
  · split
    · rw [hbadge]
      exact ⟨rfl, rfl⟩
    · exact ⟨rfl, rfl⟩
  · exact ⟨rfl, rfl⟩

theorem keeps_handleAll (s : Supervisor) (t : Tuning) (incidents : List Incident) :
    (s.handleAll t incidents).1.contexts = s.contexts ∧ (s.handleAll t incidents).1.badge = s.badge := by
  induction incidents generalizing s with
  | nil => exact ⟨rfl, rfl⟩
  | cons incident incidents ih =>
    obtain ⟨hcontexts, hbadge⟩ := s.keeps_handle t incident
    obtain ⟨hcontexts', hbadge'⟩ := ih (s.handle t incident).1
    exact ⟨hcontexts'.trans hcontexts, hbadge'.trans hbadge⟩

theorem keeps_tell (s : Supervisor) :
    s.tell.contexts = s.contexts ∧ s.tell.badge = s.badge.map fun badge => (badge.1, true) := by
  unfold tell
  split
  · next w hw =>
    have hbadge : s.badge = some (w.context, w.told) := congrArg (Option.map _) hw
    rw [hbadge]
    exact ⟨rfl, rfl⟩
  · next hnone =>
    have hbadge : s.badge = none := congrArg (Option.map _) hnone
    rw [hbadge]
    exact ⟨rfl, rfl⟩

/-- A worker ends with its listener. -/
theorem phase_handle_ending (hw : s.worker = some w) (hworking : w.phase = .working) (how : Ending)
    (hawaits : s.listener.phase.awaits how.reply = true) :
    (s.handle t (.reply how.reply)).1.worker.map Worker.phase = some .done := by
  have hended : (s.listener.step t how.reply).1.phase = .ended how := by
    rw [Listener.step_eq_respond t hawaits, Listener.phase_respond]
    cases how with
    | stopped | terminated => rfl
  simp only [handle, hw, hworking, proceed, hended]
  rfl

/-- A worker that is told to stop ends. -/
theorem phase_windUp (h : Lawful t r s) {context : Nat} (hbadge : s.badge = some (context, true)) :
    (s.windUp t).1.worker.map Worker.phase = some .done := by
  obtain ⟨w, hw, heq⟩ := Option.map_eq_some_iff.1 hbadge
  have htold : w.told = true := congrArg Prod.snd heq
  have hsuits := h.suits
  rw [hw, Option.map_some] at hsuits
  cases hphase : w.phase with
  | working =>
    rw [hphase] at hsuits
    rw [windUp, hw, Option.map_some, hphase]
    cases hlistener : s.listener.phase with
    | pausing seconds =>
      have hawaits : s.listener.phase.awaits .stop = true := by rw [hlistener]; rfl
      exact phase_handle_ending hw hphase .stopped hawaits
    | connecting | receiving | reconnecting =>
      have hawaits : s.listener.phase.awaits .terminated = true := by rw [hlistener]; rfl
      exact phase_handle_ending hw hphase .terminated hawaits
    | ended how => exact absurd hlistener (hsuits how)
  | recovering seconds =>
    simp only [windUp, handle, hw, Option.map_some, hphase, htold]
    rfl
  | done =>
    have hnothing (incident : Incident) : s.handle t incident = (s, []) := by simp only [handle, hw, hphase]
    obtain ⟨incident, heq⟩ := s.windUp_eq_handle t
    rw [heq, hnothing, hw, Option.map_some, hphase]

/-- A supervisor that is stopping a worker, before it sees it to its end. -/
def stopping (s : Supervisor) (t : Tuning) (w : Worker) (first later : List Incident) : Supervisor :=
  (((s.terminate w.context).handleAll t first).1.tell.handleAll t later).1

theorem stopAmid_of_some (hw : s.worker = some w) (first later : List Incident) :
    (s.stopAmid t first later).1 = ((s.stopping t w first later).windUp t).1.dismiss := by
  simp only [stopAmid, hw, stopping]

theorem lawful_stopping (h : Lawful t r s) (w : Worker) (first later : List Incident) :
    Lawful t r (s.stopping t w first later) := by
  have hfirst := lawful_handleAll (lawful_terminate h w.context) first
  exact lawful_handleAll (lawful_tell hfirst) later

theorem keeps_stopping (hw : s.worker = some w) (first later : List Incident) :
    (s.stopping t w first later).contexts = s.contexts.set w.context true ∧
      (s.stopping t w first later).badge = some (w.context, true) := by
  obtain ⟨hcontexts, hbadge⟩ := (s.terminate w.context).keeps_handleAll t first
  obtain ⟨hcontexts', hbadge'⟩ := ((s.terminate w.context).handleAll t first).1.keeps_tell
  obtain ⟨hcontexts'', hbadge''⟩ := ((s.terminate w.context).handleAll t first).1.tell.keeps_handleAll t later
  refine ⟨hcontexts''.trans (hcontexts'.trans hcontexts), ?_⟩
  rw [stopping, hbadge'', hbadge', hbadge, badge, terminate, hw]
  rfl

/-- An order to stop leaves it so, whatever happens until the worker has ended. -/
theorem lawful_stopAmid (h : Lawful t r s) (first later : List Incident) :
    Lawful t r (s.stopAmid t first later).1 := by
  cases hw : s.worker with
  | none =>
    rw [stopAmid, hw]
    exact h
  | some w =>
    have hstopping := lawful_stopping h w first later
    have hended := phase_windUp hstopping (keeps_stopping hw first later).2
    rw [stopAmid_of_some hw]
    refine lawful_dismiss (lawful_windUp hstopping) fun w' hw' => ?_
    rw [hw'] at hended
    exact Option.some.inj hended

/-- After an order to stop there is no worker, and the context of the one that there was is terminated. -/
theorem gone_stopAmid (s : Supervisor) (t : Tuning) (first later : List Incident) :
    (s.stopAmid t first later).1.worker = none ∧
      (s.stopAmid t first later).1.contexts = (s.worker.elim s.contexts fun w => s.contexts.set w.context true) := by
  cases hw : s.worker with
  | none =>
    rw [stopAmid, hw]
    exact ⟨hw, rfl⟩
  | some w =>
    obtain ⟨incident, heq⟩ := (s.stopping t w first later).windUp_eq_handle t
    rw [stopAmid_of_some hw]
    refine ⟨rfl, ?_⟩
    rw [dismiss, heq, (keeps_handle _ t incident).1, (keeps_stopping hw first later).1]
    rfl

theorem start_of_isAlive (h : s.isAlive = true) (provision : Provision) : s.start provision = (.ok (), s, []) :=
  if_pos h

theorem start_of_not_isAlive (h : s.isAlive = false) :
    s.start .full =
      (.ok (), ⟨⟨.connecting, 0, s.listener.receiver⟩, some ⟨s.contexts.length, 0, false, .working⟩,
        s.contexts ++ [false], s.journal ++ [(s.contexts.length, .built)]⟩, [(.connect, .connecting)]) := by
  rw [start, if_neg (h ▸ Bool.false_ne_true)]
  rfl

theorem start_noRuntime (h : s.isAlive = false) :
    s.start .noRuntime =
      (.ok (), ⟨s.listener, some ⟨s.contexts.length, 0, false, .done⟩, s.contexts ++ [false],
        s.journal ++ [(s.contexts.length, .stranded)]⟩, []) := by
  rw [start, if_neg (h ▸ Bool.false_ne_true)]
  rfl

theorem start_noThread (h : s.isAlive = false) (reason : String) :
    s.start (.noThread reason) = (.error (.io reason), { s with worker := none }, []) := by
  rw [start, if_neg (h ▸ Bool.false_ne_true)]

/-! ### Recoveries -/

theorem transports_note_built (s : Supervisor) (w : Worker) :
    (s.note w .built).transports = s.transports ++ [w.context] := by
  rw [transports, note, List.filterMap_append]
  rfl

theorem transports_note_of_ne (s : Supervisor) (w : Worker) (mark : Mark) (h : mark ≠ .built) :
    (s.note w mark).transports = s.transports := by
  rw [transports, note, List.filterMap_append]
  simp [transports, h]

/-- A breakdown is counted once and leaves the listener disconnected. The worker pauses the longer the more breakdowns
there were, unless it has been told to stop; then it has ended. -/
theorem handle_breakdown (hw : s.worker = some w) (hworking : w.phase = .working) :
    let broken := s.handle t .breakdown
    let seconds := t.feed.backoff w.breakdowns
    broken.1.state = .disconnected ∧
      broken.1.listener.receiver.traffic.panics = s.listener.receiver.traffic.panics + 1 ∧
      broken.1.transports = s.transports ∧
      broken.1.worker =
        some { w with breakdowns := w.breakdowns + 1, phase := if w.told then .done else .recovering seconds } ∧
      broken.2 = if w.told then [] else [(.pause seconds, .disconnected)] := by
  have hcollapse : s.handle t .breakdown = s.collapse t w := by simp only [handle, hw, hworking]
  dsimp only
  rw [hcollapse, collapse]
  cases w.told with
  | true =>
    refine ⟨rfl, rfl, ?_, rfl, rfl⟩
    exact (transports_note_of_ne _ w (.left none) nofun).trans (transports_note_of_ne _ w (.broke none) nofun)
  | false =>
    refine ⟨rfl, rfl, ?_, rfl, rfl⟩
    exact transports_note_of_ne _ w (.broke (some _)) nofun

/-- Once the pause has passed, a transport is built for the same worker, though the listener ends at once if the worker
has been told to stop. -/
theorem handle_rested (hw : s.worker = some w) {seconds : Nat} (hrecovering : w.phase = .recovering seconds) :
    let resumed := (s.handle t .rested).1
    resumed.transports = s.transports ++ [w.context] ∧
      resumed.worker = some { w with phase := if w.told then .done else .working } := by
  have hlaunch : s.handle t .rested = (s.note w .rested).launch w := by simp only [handle, hw, hrecovering]
  have hbuilt : ((s.note w .rested).note w .built).transports = s.transports ++ [w.context] := by
    rw [transports_note_built, transports_note_of_ne s w .rested nofun]
  dsimp only
  rw [hlaunch, launch]
  obtain ⟨context, breakdowns, told, phase⟩ := w
  cases told with
  | true => exact ⟨(transports_note_of_ne _ _ (.left (some .stopped)) nofun).trans hbuilt, rfl⟩
  | false => exact ⟨hbuilt, rfl⟩

/-- When the pause is cut short, which takes a worker that has been told to stop, no transport is built. -/
theorem handle_halted (hw : s.worker = some w) {seconds : Nat} (hrecovering : w.phase = .recovering seconds)
    (htold : w.told = true) :
    let halted := (s.handle t .halted).1
    halted.transports = s.transports ∧ halted.worker = some { w with phase := .done } := by
  simp only [handle, hw, hrecovering, htold, if_true, and_true]
  exact transports_note_of_ne s w (.left none) nofun

/-! ### Histories -/

/-- What there can be for a supervisor: an order, with what happens until it is carried out, or an incident. -/
inductive Turn where
  | start (provision : Provision)
  | stop (first later : List Incident)
  | restart (first later : List Incident) (provision : Provision)
  | incident (incident : Incident)

/-- The turn makes no worker, or there is a thread for the one that it makes. -/
def Turn.HasThread : Turn → Prop
  | start provision | restart _ _ provision => ∀ reason, provision ≠ .noThread reason
  | stop .. | incident _ => True

/-- The supervisor after a turn. -/
def after (t : Tuning) (s : Supervisor) : Turn → Supervisor
  | .start provision => (s.start provision).2.1
  | .stop first later => (s.stopAmid t first later).1
  | .restart first later provision => (s.restartAmid t first later provision).2.1
  | .incident incident => (s.handle t incident).1

/-- The supervisor for a receiver after a series of turns. -/
def afterAll (t : Tuning) (r : Receiver) (turns : List Turn) : Supervisor := turns.foldl (after t) (idle r)

/-- The context of a worker is not terminated, unless an order to stop is being carried out. -/
def IsOpen (s : Supervisor) : Prop := ∀ w, s.worker = some w → s.contexts[w.context]? = some false

theorem lawful_idle (t : Tuning) (r : Receiver) : Lawful t r (idle r) :=
  ⟨⟨.nil, nofun, nofun, nofun⟩, ⟨.stopped, rfl⟩, rfl⟩

theorem lawful_after (h : Lawful t r s) (turn : Turn) : Lawful t r (s.after t turn) := by
  cases turn with
  | start provision => exact lawful_start h provision
  | stop first later => exact lawful_stopAmid h first later
  | restart first later provision => exact lawful_start (lawful_stopAmid h first later) provision
  | incident incident => exact lawful_handle h incident

theorem isOpen_start (h : s.IsOpen) (provision : Provision) : (s.start provision).2.1.IsOpen := by
  cases halive : s.isAlive with
  | true =>
    rw [start_of_isAlive halive]
    exact h
  | false =>
    cases provision with
    | full =>
      rw [start_of_not_isAlive halive]
      rintro w ⟨⟩
      exact List.getElem?_concat_length
    | noRuntime =>
      rw [start_noRuntime halive]
      rintro w ⟨⟩
      exact List.getElem?_concat_length
    | noThread reason =>
      rw [start_noThread halive]
      exact nofun

theorem isOpen_stopAmid (s : Supervisor) (t : Tuning) (first later : List Incident) :
    (s.stopAmid t first later).1.IsOpen := by
  intro w hw
  rw [(s.gone_stopAmid t first later).1] at hw
  cases hw

theorem isOpen_handle (h : s.IsOpen) (incident : Incident) : (s.handle t incident).1.IsOpen := by
  intro w hw
  obtain ⟨hcontexts, hbadge⟩ := s.keeps_handle t incident
  rw [badge, hw] at hbadge
  obtain ⟨w', hw', heq⟩ := Option.map_eq_some_iff.1 hbadge.symm
  have hcontext : w'.context = w.context := congrArg Prod.fst heq
  rw [hcontexts, ← hcontext]
  exact h w' hw'

theorem isOpen_after (h : s.IsOpen) (turn : Turn) : (s.after t turn).IsOpen := by
  cases turn with
  | start provision => exact isOpen_start h provision
  | stop first later => exact s.isOpen_stopAmid t first later
  | restart first later provision => exact isOpen_start (s.isOpen_stopAmid t first later) provision
  | incident incident => exact isOpen_handle h incident

theorem orderly_afterAll (t : Tuning) (r : Receiver) (turns : List Turn) :
    Lawful t r (afterAll t r turns) ∧ (afterAll t r turns).IsOpen := by
  unfold afterAll
  induction turns using List.reverseRecOn with
  | nil => exact ⟨lawful_idle t r, nofun⟩
  | append_singleton turns turn ih =>
    rw [List.foldl_append]
    exact ⟨lawful_after ih.1 turn, isOpen_after ih.2 turn⟩

/-- The listener is disconnected while there is no worker. -/
def IsQuiet (s : Supervisor) : Prop := s.worker = none → s.state = .disconnected

theorem isQuiet_start (h : s.IsQuiet) {provision : Provision} (hthread : ∀ reason, provision ≠ .noThread reason) :
    (s.start provision).2.1.IsQuiet := by
  cases halive : s.isAlive with
  | true =>
    rw [start_of_isAlive halive]
    exact h
  | false =>
    cases provision with
    | full =>
      rw [start_of_not_isAlive halive]
      exact nofun
    | noRuntime =>
      rw [start_noRuntime halive]
      exact nofun
    | noThread reason => exact absurd rfl (hthread reason)

/-- An order to stop leaves the listener disconnected if there is a worker, and otherwise as it is. -/
theorem state_stopAmid (s : Supervisor) (t : Tuning) (first later : List Incident) :
    (s.stopAmid t first later).1.state = if s.worker = none then s.state else .disconnected := by
  cases hw : s.worker with
  | none =>
    rw [stopAmid, hw]
    rfl
  | some w =>
    rw [stopAmid_of_some hw]
    rfl

theorem isQuiet_stopAmid (h : s.IsQuiet) (t : Tuning) (first later : List Incident) :
    (s.stopAmid t first later).1.IsQuiet := by
  intro _
  rw [state_stopAmid]
  split
  · next hnone => exact h hnone
  · rfl

theorem isQuiet_handle (h : s.IsQuiet) (t : Tuning) (incident : Incident) : (s.handle t incident).1.IsQuiet := by
  intro hnone
  have hbadge := (s.keeps_handle t incident).2
  rw [badge, hnone] at hbadge
  have hworker : s.worker = none := Option.map_eq_none_iff.1 hbadge.symm
  rw [handle, hworker]
  exact h hworker

theorem isQuiet_after (h : s.IsQuiet) (t : Tuning) {turn : Turn} (hthread : turn.HasThread) :
    (s.after t turn).IsQuiet := by
  cases turn with
  | start provision => exact isQuiet_start h hthread
  | stop first later => exact isQuiet_stopAmid h t first later
  | restart first later provision => exact isQuiet_start (isQuiet_stopAmid h t first later) hthread
  | incident incident => exact isQuiet_handle h t incident

theorem isQuiet_afterAll (t : Tuning) (r : Receiver) {turns : List Turn} (hthreads : ∀ turn ∈ turns, turn.HasThread) :
    (afterAll t r turns).IsQuiet :=
  List.foldlRecOn turns (after t) (fun _ => rfl) fun _ h turn hturn => isQuiet_after h t (hthreads turn hturn)

/-- What is to be expected of a supervisor between orders, when it was made for a receiver. -/
structure WellKept (t : Tuning) (r : Receiver) (s : Supervisor) : Prop where
  /-- The records of all workers keep to the rules. -/
  served : ∀ context < s.contexts.length, Served t (recordOf s.journal context)
  /-- They stand one after the other, each worker having a context of its own. -/
  sorted : s.journal.Pairwise fun a b => a.1 ≤ b.1
  numbered : ∀ entry ∈ s.journal, entry.1 < s.contexts.length
  /-- There is at most one worker that has not left, and the supervisor knows it. -/
  present : ∀ context < s.contexts.length, (recordOf s.journal context).any Mark.isLeaving = false ↔
    ∃ w, s.worker = some w ∧ w.context = context ∧ w.phase ≠ .done
  isOpen : s.IsOpen
  /-- Each breakdown was counted once, and once for the worker. -/
  panics : s.listener.receiver.traffic.panics = r.traffic.panics + breakdownsIn s.journal
  breakdowns : ∀ w, s.worker = some w → w.breakdowns = (recordOf s.journal w.context).countP Mark.isBreakdown
  /-- The listener is disconnected in the pause after a breakdown, and has ended when there is no worker. -/
  recovering : ∀ w seconds, s.worker = some w → w.phase = .recovering seconds → s.state = .disconnected
  unmanned : s.worker = none → s.state = .disconnected ∨ s.state = .terminated

theorem Lawful.wellKept (h : Lawful t r s) (hopen : s.IsOpen) : WellKept t r s := by
  obtain ⟨⟨hsorted, hnumbered, hpresent, hpast⟩, hsuits, hcounted⟩ := h
  refine ⟨?_, hsorted, hnumbered, ?_, hopen, hcounted, ?_, ?_, ?_⟩
  · intro context hlt
    by_cases hw : ∃ w, s.worker = some w ∧ w.context = context
    · obtain ⟨w, hw, rfl⟩ := hw
      exact (hpresent w hw).2.served
    · push Not at hw
      obtain ⟨n, told, htenure⟩ := hpast context hlt hw
      exact htenure.served
  · intro context hlt
    by_cases hw : ∃ w, s.worker = some w ∧ w.context = context
    · obtain ⟨w, hw, rfl⟩ := hw
      rw [(hpresent w hw).2.tells.left_eq, decide_eq_false_iff_not]
      refine ⟨fun hphase => ⟨w, hw, rfl, hphase⟩, ?_⟩
      rintro ⟨w', hw', -, hphase⟩
      rw [hw] at hw'
      cases hw'
      exact hphase
    · push Not at hw
      obtain ⟨n, told, htenure⟩ := hpast context hlt hw
      rw [htenure.tells.left_eq]
      refine ⟨nofun, ?_⟩
      rintro ⟨w, hw', hcontext, -⟩
      exact absurd hcontext (hw w hw')
  · intro w hw
    exact (hpresent w hw).2.tells.breakdowns.symm
  · intro w seconds hw hphase
    rw [hw, Option.map_some, hphase] at hsuits
    exact congrArg Phase.state hsuits
  · intro hnone
    rw [hnone] at hsuits
    obtain ⟨how, hended⟩ := hsuits
    rw [state, hended]
    cases how with
    | stopped => exact .inl rfl
    | terminated => exact .inr rfl

/-- **Workers are kept well.** Whatever orders are given, and whatever happens to the workers and while they are
stopped, all workers so far have kept to the rules, and at most one of them has not left (`WellKept`). While there is no
worker the listener is disconnected, unless a thread was missing at some time. An order to start changes nothing while a
worker has not left, and makes a new worker with a new context otherwise; only where there is no thread there is no new
worker, and where there is no runtime the new worker has ended. An order to stop leaves no worker behind, the listener
disconnected and the context terminated, whatever still happens in the meantime. A breakdown at any time is counted once
and leaves the listener disconnected, and the worker pauses according to its breakdowns so far, unless it has been told
to stop. It builds a transport when the pause has passed, and none when the pause is cut short. -/
theorem workers_are_kept (t : Tuning) (r : Receiver) (turns : List Turn) :
    let s := afterAll t r turns
    WellKept t r s ∧
      ((∀ turn ∈ turns, turn.HasThread) → s.IsQuiet) ∧
      (s.isAlive = true → ∀ provision, s.start provision = (.ok (), s, [])) ∧
      (s.isAlive = false →
        let started := (s.start .full).2.1
        let stranded := (s.start .noRuntime).2.1
        ((s.start .full).1 = .ok () ∧ started.worker = some ⟨s.contexts.length, 0, false, .working⟩ ∧
          started.contexts = s.contexts ++ [false] ∧ started.transports = s.transports ++ [s.contexts.length]) ∧
        ((s.start .noRuntime).1 = .ok () ∧ stranded.worker = some ⟨s.contexts.length, 0, false, .done⟩ ∧
          stranded.contexts = s.contexts ++ [false] ∧ stranded.transports = s.transports) ∧
        ∀ reason, s.start (.noThread reason) = (.error (.io reason), { s with worker := none }, [])) ∧
      (∀ first later : List Incident,
        let stopped := (s.stopAmid t first later).1
        stopped.worker = none ∧ stopped.isRunning = false ∧
          (s.worker ≠ none ∨ (∀ turn ∈ turns, turn.HasThread) → stopped.state = .disconnected) ∧
          ∀ w, s.worker = some w → stopped.contexts[w.context]? = some true) ∧
      ∀ (s' : Supervisor) (w : Worker), s'.worker = some w →
        (w.phase = .working →
          let broken := s'.handle t .breakdown
          let seconds := t.feed.backoff w.breakdowns
          broken.1.state = .disconnected ∧
            broken.1.listener.receiver.traffic.panics = s'.listener.receiver.traffic.panics + 1 ∧
            broken.1.transports = s'.transports ∧
            broken.1.worker =
              some { w with breakdowns := w.breakdowns + 1, phase := if w.told then .done else .recovering seconds } ∧
            broken.2 = if w.told then [] else [(.pause seconds, .disconnected)]) ∧
        ∀ seconds, w.phase = .recovering seconds →
          let resumed := (s'.handle t .rested).1
          let halted := (s'.handle t .halted).1
          (resumed.transports = s'.transports ++ [w.context] ∧
              resumed.worker = some { w with phase := if w.told then .done else .working }) ∧
            (w.told = true → halted.transports = s'.transports ∧ halted.worker = some { w with phase := .done }) := by
  obtain ⟨hlawful, hopen⟩ := orderly_afterAll t r turns
  refine ⟨hlawful.wellKept hopen, isQuiet_afterAll t r, start_of_isAlive, ?_, ?_, ?_⟩
  · intro hgone
    rw [start_of_not_isAlive hgone, start_noRuntime hgone]
    refine ⟨⟨rfl, rfl, rfl, ?_⟩, ⟨rfl, rfl, rfl, ?_⟩, start_noThread hgone⟩
    · exact transports_note_built (afterAll t r turns) ⟨_, 0, false, .working⟩
    · exact transports_note_of_ne (afterAll t r turns) ⟨_, 0, false, .working⟩ .stranded nofun
  · intro first later
    obtain ⟨hnone, hcontexts⟩ := (afterAll t r turns).gone_stopAmid t first later
    refine ⟨hnone, ?_, fun hmanned => ?_, fun w hw => ?_⟩
    · rw [isRunning, isAlive, hnone]
      rfl
    · rw [state_stopAmid]
      split
      · next hgone => exact isQuiet_afterAll t r (hmanned.resolve_left fun hne => hne hgone) hgone
      · rfl
    · obtain ⟨hlast, -⟩ := hlawful.booked.present w hw
      rw [hcontexts, hw, Option.elim_some, List.getElem?_set_self (by omega)]
  · intro s' w hw
    refine ⟨handle_breakdown hw, fun seconds hrecovering => ⟨handle_rested hw hrecovering, fun htold => ?_⟩⟩
    exact handle_halted hw hrecovering htold

/-- A first worker recovers from a breakdown, and breaks down again while it is stopped; then there is a second one. -/
def twoWorkers : List Turn :=
  [.start .full, .incident .breakdown, .incident .rested, .stop [.breakdown] [.rested], .start .full]

/-- The first worker kept to the rules when it built a transport after it had been told to stop, since its pause was not
cut short. The second one goes on when it is ordered to start, and its breakdown would be the third. -/
theorem twoWorkers_are_kept :
    let s := afterAll Receiver.bareTuning .fresh twoWorkers
    (recordOf s.journal 0 = [.built, .broke (some 15), .rested, .built, .broke (some 30), .told, .rested, .built,
        .left (some .stopped)] ∧ Served Receiver.bareTuning (recordOf s.journal 0)) ∧
      (s.worker = some ⟨1, 0, false, .working⟩ ∧ s.contexts[1]? = some false) ∧
      (s.isAlive = true ∧ s.start .full = (.ok (), s, [])) ∧
      (s.handle Receiver.bareTuning .breakdown).1.listener.receiver.traffic.panics = 3 := by
  have hrecord : recordOf (afterAll Receiver.bareTuning .fresh twoWorkers).journal 0 =
      [.built, .broke (some 15), .rested, .built, .broke (some 30), .told, .rested, .built, .left (some .stopped)] := by
    decide +kernel
  have hworker : (afterAll Receiver.bareTuning .fresh twoWorkers).worker = some ⟨1, 0, false, .working⟩ := by
    decide +kernel
  have hpanics : (afterAll Receiver.bareTuning .fresh twoWorkers).listener.receiver.traffic.panics = 2 := by
    decide +kernel
  have halive : (afterAll Receiver.bareTuning .fresh twoWorkers).isAlive = true := by decide +kernel
  have hserved : 0 < (afterAll Receiver.bareTuning .fresh twoWorkers).contexts.length := by decide +kernel
  obtain ⟨hkept, -, hstart, -, -, hbreakdown⟩ := workers_are_kept Receiver.bareTuning .fresh twoWorkers
  obtain ⟨hbroken, -⟩ := hbreakdown _ _ hworker
  obtain ⟨-, hcounted, -⟩ := hbroken rfl
  rw [hpanics] at hcounted
  exact ⟨⟨hrecord, hkept.served 0 hserved⟩, ⟨hworker, hkept.isOpen _ hworker⟩, ⟨halive, hstart halive .full⟩, hcounted⟩

end Supervisor

end StationFinder
