import StationFinder.Proofs.Galaxy.Naming
import StationFinder.Relay.Receiver

/-!
# The balance of the counts

The counts of the relay and those of the store are kept apart. A frame counts once as received and once under what
became of it, and if it was about a station it counts once more in the store, as an update or under what was not found
(`Receiver.books_handleFrame`). News of systems counts in neither, and a report about a station counts in the store
alone, if it changed the station or its system is not stored. So the two sets of counts balance at every point of a
history in which all of these come in any order (`Receiver.books_balance`).
-/

namespace StationFinder

/-! ### Sums of counts -/

namespace Traffic

/-- The frames of which it is known what became of them. -/
def settled (t : Traffic) : Nat :=
  t.shipyardApplied + t.outfittingApplied + t.discarded + t.decompressionErrors + t.parseErrors

/-- The frames that were about a station. -/
def aboutStations (t : Traffic) : Nat := t.shipyardApplied + t.outfittingApplied

end Traffic

/-- What was said of stations and made a difference, or was not understood. -/
def Tally.aboutStations (t : Tally) : Nat := t.stationUpdates + t.unknownSystems + t.unknownStations

/-- Does a report about a station count in the store when this comes of it? -/
def StationOutcome.counts (o : StationOutcome) : Bool := o = .updated ∨ o = .unknownSystem

namespace Store

/-- What the relay says of a station counts once. -/
theorem aboutStations_updateNamed (s : Store) (systemName stationName : String) (now : Nat)
    (change : Station → Station) :
    (s.updateNamed systemName stationName now change).2.tally.aboutStations = s.tally.aboutStations + 1 := by
  unfold updateNamed Tally.aboutStations
  split
  · simp only [countUnknownSystem]
    omega
  · split
    · simp only [countUnknownStation]
      omega
    · split
      · simp only [countUnknownStation]
        omega
      · simp only [countUpdate, putSystem]
        omega

theorem aboutStations_upsertStation (s : Store) (systemId : Nat) (report : StationReport) (now : Nat) :
    (s.upsertStation systemId report now).2.tally.aboutStations =
      s.tally.aboutStations + (s.upsertStation systemId report now).1.counts.toNat := by
  unfold upsertStation Tally.aboutStations
  split
  · simp only [countUnknownSystem, show StationOutcome.unknownSystem.counts = true from rfl, Bool.toNat_true]
    omega
  · split
    · split
      · simp only [countUpdate, putSystem, show StationOutcome.updated.counts = true from rfl, Bool.toNat_true]
        omega
      · rfl
    · rfl

theorem aboutStations_reviseSystem (s : Store) (system : StarSystem) (r : SystemReport) :
    (s.reviseSystem system r).2.tally.aboutStations = s.tally.aboutStations := by
  rw [tally_reviseSystem, countRefused]
  split <;> rfl

/-- News of a system counts as dropped or not at all. -/
theorem aboutStations_hear (s : Store) (n : SystemNews) : (s.hear n).tally.aboutStations = s.tally.aboutStations := by
  cases n with
  | loaded system =>
    simp only [hear, loadSystem]
    split <;> rfl
  | reported report =>
    simp only [hear, upsertSystem]
    split
    · exact s.aboutStations_reviseSystem _ report
    · split <;> rfl

end Store

namespace Receiver

/-! ### What happens to a receiver -/

/-- What can happen to a receiver and its store. -/
inductive Happening where
  | frame (now : Nat) (bytes : ByteArray)
  | system (news : SystemNews)
  | station (systemId : Nat) (report : StationReport) (now : Nat)

/-- The receiver after something has happened. -/
def after (t : Tuning) (r : Receiver) : Happening → Receiver
  | .frame now bytes => (r.handleFrame t now bytes).2
  | .system news => { r with store := r.store.hear news }
  | .station systemId report now => { r with store := (r.store.upsertStation systemId report now).2 }

/-- The receiver after a series of happenings. -/
def afterAll (t : Tuning) (r : Receiver) (happenings : List Happening) : Receiver := happenings.foldl (after t) r

/-- What comes of the reports about stations in a series of happenings. -/
def outcomes (t : Tuning) (r : Receiver) : List Happening → List StationOutcome
  | [] => []
  | .station systemId report now :: later =>
    (r.store.upsertStation systemId report now).1 :: outcomes t (r.after t (.station systemId report now)) later
  | happening :: later => outcomes t (r.after t happening) later

/-- A receiver that has heard nothing yet. -/
def fresh : Receiver := ⟨.empty, .zero⟩

/-- A frame is counted as received and under what became of it. Either it fails or is discarded and the store is left
as it is, or it is about a station and counts in the store as well. -/
theorem books_handleFrame (r : Receiver) (t : Tuning) (now : Nat) (bytes : ByteArray) :
    (r.handleFrame t now bytes).2.traffic.framesReceived = r.traffic.framesReceived + 1 ∧
      (r.handleFrame t now bytes).2.traffic.settled = r.traffic.settled + 1 ∧
      ((r.handleFrame t now bytes).2.store = r.store ∧
          (r.handleFrame t now bytes).2.traffic.aboutStations = r.traffic.aboutStations ∨
        (r.handleFrame t now bytes).1 = .ok () ∧
          (r.handleFrame t now bytes).2.traffic.discarded = r.traffic.discarded ∧
          (r.handleFrame t now bytes).2.traffic.aboutStations = r.traffic.aboutStations + 1 ∧
          (r.handleFrame t now bytes).2.store.tally.aboutStations = r.store.tally.aboutStations + 1) := by
  unfold handleFrame
  cases Frame.announcement t.catalog t.feed.maxFrameBytes bytes with
  | error fault =>
    dsimp only
    refine ⟨?_, ?_, .inl ⟨rfl, ?_⟩⟩
    · cases fault <;> rfl
    · cases fault <;> simp only [Traffic.countFault, Traffic.settled] <;> omega
    · cases fault <;> rfl
  | ok x =>
    cases x with
    | discarded =>
      refine ⟨rfl, ?_, .inl ⟨rfl, rfl⟩⟩
      simp only [Traffic.countAnnouncement, Traffic.settled]
      omega
    | ships system station known unknown =>
      refine ⟨rfl, ?_, .inr ⟨rfl, rfl, ?_, ?_⟩⟩
      · simp only [Traffic.countAnnouncement, Traffic.settled]
        omega
      · simp only [Traffic.countAnnouncement, Traffic.aboutStations]
        omega
      · exact r.store.aboutStations_updateNamed system station now (·.withShips known)
    | modules system station update unknown categories =>
      refine ⟨rfl, ?_, .inr ⟨rfl, rfl, ?_, ?_⟩⟩
      · simp only [Traffic.countAnnouncement, Traffic.settled]
        omega
      · simp only [Traffic.countAnnouncement, Traffic.aboutStations]
        omega
      · exact r.store.aboutStations_updateNamed system station now (·.withModules update)

/-- What happens adds as much to the frames received as to those of which it is known what became of them. -/
theorem settled_after (t : Tuning) (r : Receiver) (happening : Happening) :
    (r.after t happening).traffic.framesReceived + r.traffic.settled =
      r.traffic.framesReceived + (r.after t happening).traffic.settled := by
  cases happening with
  | frame now bytes =>
    obtain ⟨hreceived, hsettled, -⟩ := r.books_handleFrame t now bytes
    rw [after, hreceived, hsettled]
    omega
  | system news => rfl
  | station systemId report now => rfl

/-- What happens adds as much to the counts of the store as to the frames about stations, and to the reports that count
in the store alone. -/
theorem aboutStations_after (t : Tuning) (r : Receiver) (happening : Happening) :
    (r.after t happening).store.tally.aboutStations + r.traffic.aboutStations =
      r.store.tally.aboutStations + (r.after t happening).traffic.aboutStations +
        (r.outcomes t [happening]).countP StationOutcome.counts := by
  cases happening with
  | frame now bytes =>
    rw [after, show r.outcomes t [.frame now bytes] = [] from rfl, List.countP_nil]
    obtain ⟨-, -, ⟨hstore, habout⟩ | ⟨-, -, habout, htally⟩⟩ := r.books_handleFrame t now bytes
    · rw [hstore, habout]
      omega
    · rw [htally, habout]
      omega
  | system news =>
    rw [after, show r.outcomes t [.system news] = [] from rfl, List.countP_nil, Store.aboutStations_hear]
    rfl
  | station systemId report now =>
    rw [after, show r.outcomes t [.station systemId report now] =
      [(r.store.upsertStation systemId report now).1] from rfl, List.countP_singleton,
      Store.aboutStations_upsertStation]
    cases (r.store.upsertStation systemId report now).1.counts with
    | false => simp only [Bool.toNat_false, Bool.false_eq_true, if_false]; omega
    | true => simp only [Bool.toNat_true, if_true]; omega

/-! ### Histories -/

theorem afterAll_concat (t : Tuning) (r : Receiver) (happenings : List Happening) (happening : Happening) :
    r.afterAll t (happenings ++ [happening]) = (r.afterAll t happenings).after t happening := by
  simp [afterAll]

theorem outcomes_append (t : Tuning) (r : Receiver) (earlier later : List Happening) :
    r.outcomes t (earlier ++ later) = r.outcomes t earlier ++ (r.afterAll t earlier).outcomes t later := by
  induction earlier generalizing r with
  | nil => rfl
  | cons happening earlier ih =>
    cases happening with
    | frame now bytes => exact ih _
    | system news => exact ih _
    | station systemId report now => exact congrArg (_ :: ·) (ih _)

theorem settled_afterAll (t : Tuning) (happenings : List Happening) :
    (fresh.afterAll t happenings).traffic.framesReceived = (fresh.afterAll t happenings).traffic.settled := by
  induction happenings using List.reverseRecOn with
  | nil => rfl
  | append_singleton happenings happening ih =>
    have hstep := (fresh.afterAll t happenings).settled_after t happening
    rw [afterAll_concat]
    omega

theorem aboutStations_afterAll (t : Tuning) (happenings : List Happening) :
    (fresh.afterAll t happenings).store.tally.aboutStations =
      (fresh.afterAll t happenings).traffic.aboutStations +
        (fresh.outcomes t happenings).countP StationOutcome.counts := by
  induction happenings using List.reverseRecOn with
  | nil => rfl
  | append_singleton happenings happening ih =>
    have hstep := (fresh.afterAll t happenings).aboutStations_after t happening
    rw [afterAll_concat, outcomes_append, List.countP_append]
    omega

/-- **The books balance at every point.** Frames come in, systems are loaded or reported and stations are reported, in
any order. Then the frames received are those that were applied, those discarded and those that failed; and what the
store counts as updates and as not found is one for each frame applied, and one for each report about a station that
updated it or whose system was not stored. A frame that fails or is discarded leaves the store as it was, with all that
it counts. -/
theorem books_balance (t : Tuning) (happenings : List Happening) :
    let r := fresh.afterAll t happenings
    r.traffic.framesReceived = r.traffic.shipyardApplied + r.traffic.outfittingApplied + r.traffic.discarded +
        r.traffic.decompressionErrors + r.traffic.parseErrors ∧
      r.store.tally.stationUpdates + r.store.tally.unknownSystems + r.store.tally.unknownStations =
        r.traffic.shipyardApplied + r.traffic.outfittingApplied +
          (fresh.outcomes t happenings).countP (fun o => o = .updated ∨ o = .unknownSystem) ∧
      ∀ (r : Receiver) (now : Nat) (bytes : ByteArray),
        (r.handleFrame t now bytes).1 ≠ .ok () ∨
            (r.handleFrame t now bytes).2.traffic.discarded ≠ r.traffic.discarded →
          (r.handleFrame t now bytes).2.store = r.store := by
  refine ⟨settled_afterAll t happenings, aboutStations_afterAll t happenings, fun r now bytes hfails => ?_⟩
  obtain ⟨-, -, ⟨hstore, -⟩ | ⟨hok, hkept, -⟩⟩ := r.books_handleFrame t now bytes
  · exact hstore
  · rcases hfails with hfails | hfails
    · exact absurd hok hfails
    · exact absurd hkept hfails

/-- A receiver's tuning without any modules to know. -/
def bareTuning : Tuning :=
  ⟨⟨.empty .standard, .empty .internal, .empty .hardpoint, .empty .utility⟩, {}⟩

/-- A frame with a message that Galileo in Sol sells the Vulture. -/
def vultureFrame : ByteArray :=
  ⟨#[120, 1, 1, 105, 0, 150, 255, 123, 34, 36, 115, 99, 104, 101, 109, 97, 82, 101, 102, 34, 58, 34, 104, 116,
    116, 112, 58, 47, 47, 115, 99, 104, 101, 109, 97, 115, 46, 101, 108, 105, 116, 101, 45, 109, 97, 114, 107,
    101, 116, 115, 46, 110, 101, 116, 47, 101, 100, 100, 110, 47, 115, 104, 105, 112, 121, 97, 114, 100, 47, 49,
    34, 44, 34, 109, 101, 115, 115, 97, 103, 101, 34, 58, 91, 34, 83, 111, 108, 34, 44, 34, 71, 97, 108, 105,
    108, 101, 111, 34, 44, 91, 34, 86, 117, 108, 116, 117, 114, 101, 34, 93, 93, 125, 147, 240, 36, 69]⟩

/-- A frame with an empty text, which is of no interest. -/
def blankFrame : ByteArray := ⟨#[120, 1, 1, 0, 0, 255, 255, 0, 0, 0, 1]⟩

/-- A system and a station are reported, then a station of a system that nobody knows, and then frames come in: one that
is about the station, one of no interest and one that is broken. -/
def mixedHistory : List Happening :=
  [.system (.reported ⟨1, "Sol", ⟨0⟩, ⟨0⟩, ⟨0⟩, false⟩),
    .station 1 ⟨10, "Galileo", none, none, none, none, false, false, none, none⟩ 3,
    .station 2 ⟨20, "Solo Orbiter", none, none, none, none, false, false, none, none⟩ 4,
    .frame 5 vultureFrame, .frame 6 blankFrame, .frame 7 .empty]

theorem counts_mixedHistory :
    ((fresh.afterAll bareTuning mixedHistory).traffic, (fresh.afterAll bareTuning mixedHistory).store.tally) =
      ((⟨3, 1, 0, 1, 1, 0, 0, 0, 0, 0, 0⟩, ⟨0, 1, 0, 1⟩) : Traffic × Tally) := by
  decide +kernel

theorem mixedHistory_balances :
    let r := fresh.afterAll bareTuning mixedHistory
    (r.traffic.framesReceived = 3 ∧
      r.traffic.framesReceived = r.traffic.shipyardApplied + r.traffic.outfittingApplied + r.traffic.discarded +
        r.traffic.decompressionErrors + r.traffic.parseErrors) ∧
    (r.store.tally.stationUpdates = 1 ∧ r.store.tally.unknownSystems = 1 ∧
      r.store.tally.stationUpdates + r.store.tally.unknownSystems + r.store.tally.unknownStations =
        r.traffic.shipyardApplied + r.traffic.outfittingApplied +
          (fresh.outcomes bareTuning mixedHistory).countP (fun o => o = .updated ∨ o = .unknownSystem)) ∧
    ((r.handleFrame bareTuning 8 .empty).1 ≠ .ok () ∧ (r.handleFrame bareTuning 8 .empty).2.store = r.store) ∧
    (r.handleFrame bareTuning 9 blankFrame).2.traffic.discarded ≠ r.traffic.discarded ∧
      (r.handleFrame bareTuning 9 blankFrame).2.store = r.store := by
  intro r
  obtain ⟨hreceived, habout, hkept⟩ := books_balance bareTuning mixedHistory
  obtain ⟨htraffic, htally⟩ := Prod.mk.inj counts_mixedHistory
  have hempty : Frame.announcement bareTuning.catalog bareTuning.feed.maxFrameBytes .empty =
      .error (.frame .corrupt) := by decide +kernel
  have hblank : Frame.announcement bareTuning.catalog bareTuning.feed.maxFrameBytes blankFrame = .ok .discarded := by
    decide +kernel
  have hfails (r : Receiver) : (r.handleFrame bareTuning 8 .empty).1 ≠ .ok () := by
    rw [handleFrame, hempty]
    intro hok
    cases hok
  have hdiscards (r : Receiver) :
      (r.handleFrame bareTuning 9 blankFrame).2.traffic.discarded ≠ r.traffic.discarded := by
    rw [handleFrame, hblank]
    exact Nat.succ_ne_self _
  exact ⟨⟨by rw [htraffic], hreceived⟩, ⟨by rw [htally], by rw [htally], habout⟩,
    ⟨hfails r, hkept r 8 .empty (.inl (hfails r))⟩, hdiscards r, hkept r 9 blankFrame (.inr (hdiscards r))⟩

end Receiver

end StationFinder
