import Mathlib.Data.List.Forall2
import StationFinder.Snapshot.Refresh

/-!
# Refreshes that fail

A file fails a refresh for one of five reasons (`SnapshotFile.FailsWith`), and if there is none, it is a list of records
that are good one by one (`SnapshotFile.Holds`). A refresh that fails leaves the store as it was and says why,
and the status says so too; otherwise it applies every record (`Refreshed.IsAllOrNothing`). Of two files the second is
only looked at when the first did not fail. How a refresh ends does not depend on what there was before, so at any time
the health of the task is that of the last refresh (`Refreshed.healthy_liveThrough_iff`), however the ones before it
ended. It all comes together in `Refreshed.refresh_is_all_or_nothing`.
-/

namespace StationFinder

open Json.Value

/-! ### What is in a file -/

namespace SnapshotFile

variable {α : Type} {read : Reader α} {file : SnapshotFile} {records : List α} {fault : Fault}

/-- The file can be read, and it is a list of which every item is a good record. -/
def Holds (read : Reader α) (file : SnapshotFile) (records : List α) : Prop :=
  ∃ bytes items, file = content bytes ∧ Json.parseBytes bytes = some (.list items) ∧
    List.Forall₂ (fun item record => read item = some record) items records

/-- Why a file fails a refresh. One bad record is enough, wherever it is in the list. -/
inductive FailsWith (read : Reader α) : SnapshotFile → Fault → Prop
  | unreadable (path reason : String) :
    FailsWith read (.unreadable path reason) (.request (.snapshotUnreadable path reason))
  | broken : FailsWith read .broken (.document .malformed)
  | notJson {bytes : ByteArray} (hparse : Json.parseBytes bytes = none) :
    FailsWith read (content bytes) (.document .malformed)
  | notList {bytes : ByteArray} {v : Json.Value} (hparse : Json.parseBytes bytes = some v)
    (hlist : ∀ items, v ≠ .list items) : FailsWith read (content bytes) (.document .malformed)
  | badRecord {bytes : ByteArray} {front back : List Json.Value} {item : Json.Value}
    (hparse : Json.parseBytes bytes = some (.list (front ++ item :: back))) (hbad : read item = none) :
    FailsWith read (content bytes) (.document .malformed)

theorem mapM_eq_some_iff {items : List Json.Value} :
    items.mapM read = some records ↔ List.Forall₂ (fun item record => read item = some record) items records := by
  induction items generalizing records with
  | nil =>
    rw [List.mapM_nil, List.forall₂_nil_left_iff]
    exact ⟨fun h => (Option.some.inj h).symm, fun h => h ▸ rfl⟩
  | cons item items ih =>
    simp only [List.mapM_cons, Option.bind_eq_bind, Option.bind_eq_some_iff, List.forall₂_cons_left_iff, ih]
    constructor
    · rintro ⟨record, hrecord, rest, hrest, h⟩
      exact ⟨record, rest, hrecord, hrest, (Option.some.inj h).symm⟩
    · rintro ⟨record, rest, hrecord, hrest, rfl⟩
      exact ⟨record, hrecord, rest, hrest, rfl⟩

theorem mapM_eq_none_iff {items : List Json.Value} : items.mapM read = none ↔ ∃ item ∈ items, read item = none := by
  induction items with
  | nil => simp
  | cons item items ih =>
    rw [List.mapM_cons, List.exists_mem_cons_iff, ← ih]
    cases read item <;> cases items.mapM read <;> simp

theorem asListOf_eq_some_iff {v : Json.Value} :
    asListOf read v = some records ↔
      ∃ items, v = .list items ∧ List.Forall₂ (fun item record => read item = some record) items records := by
  cases v <;> simp [asListOf, mapM_eq_some_iff]

theorem asListOf_eq_none_iff {v : Json.Value} :
    asListOf read v = none ↔ ∀ items, v = .list items → ∃ item ∈ items, read item = none := by
  cases v <;> simp [asListOf, mapM_eq_none_iff]

/-- The records that are read are those that the file holds. -/
theorem records_eq_ok_iff : file.records read = .ok records ↔ file.Holds read records := by
  cases file with
  | unreadable path reason => simp [SnapshotFile.records, Holds]
  | broken => simp [SnapshotFile.records, Holds]
  | content bytes =>
    have hholds : (content bytes).Holds read records ↔ recordsOfBytes? read bytes = some records := by
      simp [Holds, recordsOfBytes?, Option.bind_eq_some_iff, asListOf_eq_some_iff]
    rw [hholds, SnapshotFile.records]
    cases recordsOfBytes? read bytes <;> simp

/-- A file whose records are not read has one of the reasons to fail. -/
theorem failsWith_of_records (h : file.records read = .error fault) : file.FailsWith read fault := by
  cases file with
  | unreadable path reason =>
    obtain rfl := Except.error.inj h
    exact .unreadable path reason
  | broken =>
    obtain rfl := Except.error.inj h
    exact .broken
  | content bytes =>
    have hnone : recordsOfBytes? read bytes = none := by
      rw [SnapshotFile.records] at h
      cases hrecords : recordsOfBytes? read bytes with
      | none => rfl
      | some records => simp [hrecords] at h
    simp only [SnapshotFile.records, hnone, Except.error.injEq] at h
    subst h
    cases hparse : Json.parseBytes bytes with
    | none => exact .notJson hparse
    | some v =>
      rw [recordsOfBytes?, hparse, Option.bind_some, asListOf_eq_none_iff] at hnone
      by_cases hlist : ∃ items, v = .list items
      · obtain ⟨items, rfl⟩ := hlist
        obtain ⟨item, hmem, hbad⟩ := hnone items rfl
        obtain ⟨front, back, rfl⟩ := List.append_of_mem hmem
        exact .badRecord hparse hbad
      · exact .notList hparse fun items hv => hlist ⟨items, hv⟩

/-- What keeps the records of a file from being read is a reason to fail. -/
theorem records_eq_error_iff : file.records read = .error fault ↔ file.FailsWith read fault := by
  have hmalformed {bytes : ByteArray} {v : Json.Value} (hparse : Json.parseBytes bytes = some v)
      (hv : asListOf read v = none) : (content bytes).records read = .error (.document .malformed) := by
    simp [SnapshotFile.records, recordsOfBytes?, hparse, hv]
  refine ⟨failsWith_of_records, fun h => ?_⟩
  cases h with
  | unreadable path reason => rfl
  | broken => rfl
  | notJson hparse => simp [SnapshotFile.records, recordsOfBytes?, hparse]
  | notList hparse hlist => exact hmalformed hparse (asListOf_eq_none_iff.2 fun items hv => absurd hv (hlist items))
  | badRecord hparse hbad =>
    refine hmalformed hparse (asListOf_eq_none_iff.2 fun items hv => ?_)
    obtain rfl := Json.Value.list.inj hv
    exact ⟨_, List.mem_append_right _ List.mem_cons_self, hbad⟩

/-- A file fails, or it holds records. -/
theorem failsWith_or_holds (read : Reader α) (file : SnapshotFile) :
    (∃ fault, file.FailsWith read fault) ∨ ∃ records, file.Holds read records := by
  cases h : file.records read with
  | error fault => exact .inl ⟨fault, failsWith_of_records h⟩
  | ok records => exact .inr ⟨records, records_eq_ok_iff.1 h⟩

/-- A file that fails holds no records. -/
theorem FailsWith.not_holds (h : file.FailsWith read fault) : ¬ file.Holds read records := by
  intro hholds
  have hok := records_eq_ok_iff.2 hholds
  rw [records_eq_error_iff.2 h] at hok
  cases hok

end SnapshotFile

/-! ### One refresh -/

/-- The last refresh succeeded. -/
def RefreshStatus.WentWell (status : RefreshStatus) : Prop := ∃ text, status = .succeeded text

namespace Refreshed

/-- What a refresh gives: its result, and what there is afterwards. -/
abbrev Outcome := Except Fault Unit × Refreshed

/-- The refresh failed. It says why, and so does the status; the store is what it was before. -/
structure HasFailed (before : Store) (kind : String) (fault : Fault) (detail : String) (outcome : Outcome) : Prop where
  result : outcome.1 = .error fault
  store : outcome.2.store = before
  status : outcome.2.status = .failed s!"{kind} refresh failed: {fault.message detail}"
  health : outcome.2.status.health.healthy = false

/-- The refresh succeeded, and came to a summary and a store. -/
structure HasSucceeded (applied : Summary × Store) (kind : String) (outcome : Outcome) : Prop where
  result : outcome.1 = .ok ()
  store : outcome.2.store = applied.2
  status : outcome.2.status = .succeeded s!"{applied.1.changed} {kind} updated"
  health : outcome.2.status.health.healthy = true

/-- A refresh from one file: it fails if the file does, and otherwise applies all the records in it. -/
structure IsAllOrNothing {α : Type} (read : Reader α) (file : SnapshotFile) (before : Store)
    (applied : List α → Summary × Store) (kind detail : String) (outcome : Outcome) : Prop where
  fails : ∀ fault, file.FailsWith read fault → HasFailed before kind fault detail outcome
  succeeds : ∀ records, file.Holds read records → HasSucceeded (applied records) kind outcome
  decided : (∃ fault, file.FailsWith read fault) ↔ ¬ ∃ records, file.Holds read records

/-- What a refresh leaves for others to see agrees: its result, the status and the health are all good, or none is. -/
structure Reports (good : Prop) (outcome : Outcome) : Prop where
  result : outcome.1 = .ok () ↔ good
  status : outcome.2.status.WentWell ↔ good
  health : outcome.2.status.health.healthy = true ↔ good

theorem HasFailed.reports {before : Store} {kind detail : String} {fault : Fault} {outcome : Outcome} {good : Prop}
    (h : HasFailed before kind fault detail outcome) (hgood : ¬ good) : Reports good outcome where
  result := by simp [h.result, hgood]
  status := by simp [RefreshStatus.WentWell, h.status, hgood]
  health := by simp [h.health, hgood]

theorem HasSucceeded.reports {applied : Summary × Store} {kind : String} {outcome : Outcome} {good : Prop}
    (h : HasSucceeded applied kind outcome) (hgood : good) : Reports good outcome where
  result := by simp [h.result, hgood]
  status := by simp [RefreshStatus.WentWell, h.status, hgood]
  health := by simp [h.health, hgood]

section

variable {α : Type} {read : Reader α} {file : SnapshotFile} {before : Store} {applied : List α → Summary × Store}
  {kind detail : String} {outcome : Outcome}

theorem IsAllOrNothing.reports (h : IsAllOrNothing read file before applied kind detail outcome) :
    Reports (∃ records, file.Holds read records) outcome := by
  rcases file.failsWith_or_holds read with ⟨fault, hfault⟩ | ⟨records, hrecords⟩
  · exact (h.fails fault hfault).reports (h.decided.1 ⟨fault, hfault⟩)
  · exact (h.succeeds records hrecords).reports ⟨records, hrecords⟩

theorem isAllOrNothing_run (s : Refreshed) (read : Reader α) (file : SnapshotFile)
    (applied : List α → Summary × Store) (kind detail : String) :
    IsAllOrNothing read file s.store applied kind detail (s.run kind ((file.records read).map applied) detail) where
  fails fault h := by
    rw [SnapshotFile.records_eq_error_iff.2 h]
    exact ⟨rfl, rfl, rfl, rfl⟩
  succeeds records h := by
    rw [SnapshotFile.records_eq_ok_iff.2 h]
    exact ⟨rfl, rfl, rfl, rfl⟩
  decided := by
    constructor
    · rintro ⟨fault, hfault⟩ ⟨records, hrecords⟩
      exact hfault.not_holds hrecords
    · intro h
      rcases file.failsWith_or_holds read with hfails | hholds
      · exact hfails
      · exact absurd hholds h

end

theorem isAllOrNothing_refreshSystems (s : Refreshed) (file : SnapshotFile) (detail : String) :
    IsAllOrNothing SystemReport.ofJson? file s.store s.store.applySystems "systems" detail
      (s.refreshSystems file detail) :=
  s.isAllOrNothing_run SystemReport.ofJson? file s.store.applySystems "systems" detail

theorem isAllOrNothing_refreshStations (s : Refreshed) (catalog : Catalog) (file : SnapshotFile) (clock : Clock)
    (detail : String) :
    IsAllOrNothing StationRecord.ofJson? file s.store (s.store.applyStations catalog · clock) "stations" detail
      (s.refreshStations catalog file clock detail) :=
  s.isAllOrNothing_run StationRecord.ofJson? file (s.store.applyStations catalog · clock) "stations" detail

/-! ### The configured files -/

/-- What becomes of a store when the configured systems are applied, if any are configured. -/
inductive AppliesSystems (before : Store) : Option SnapshotFile → Store → Prop
  | absent : AppliesSystems before none before
  | applied {file : SnapshotFile} {records : List SystemReport} (h : file.Holds SystemReport.ofJson? records) :
    AppliesSystems before (some file) (before.applySystems records).2

/-- All the files that are configured hold records. -/
def AllHold (systems stations : Option SnapshotFile) : Prop :=
  (∀ file ∈ systems, ∃ records, file.Holds SystemReport.ofJson? records) ∧
    ∀ file ∈ stations, ∃ records, file.Holds StationRecord.ofJson? records

section

variable {s : Refreshed} {catalog : Catalog} {systems stations : Option SnapshotFile} {file : SnapshotFile}
  {clock : Clock} {detail : String}

theorem refreshConfigured_of_error {fault : Fault} (h : (s.refreshSystems file detail).1 = .error fault) :
    s.refreshConfigured catalog (some file) stations clock detail = s.refreshSystems file detail := by
  simp only [refreshConfigured]
  rw [← Prod.eta (s.refreshSystems file detail), h]

/-- Once the systems are applied, the refresh goes on as one without systems. -/
theorem refreshConfigured_of_ok (h : (s.refreshSystems file detail).1 = .ok ()) :
    s.refreshConfigured catalog (some file) stations clock detail =
      (s.refreshSystems file detail).2.refreshConfigured catalog none stations clock detail := by
  simp only [refreshConfigured]
  rw [← Prod.eta (s.refreshSystems file detail), h]

/-- Systems that fail end a refresh: the stations are left alone. -/
theorem hasFailed_refreshConfigured {fault : Fault} (h : file.FailsWith SystemReport.ofJson? fault) :
    HasFailed s.store "systems" fault detail
      (s.refreshConfigured catalog (some file) stations clock detail) := by
  have hsystems := (s.isAllOrNothing_refreshSystems file detail).fails fault h
  rw [refreshConfigured_of_error hsystems.result]
  exact hsystems

theorem hasSucceeded_refreshConfigured {records : List SystemReport} (h : file.Holds SystemReport.ofJson? records) :
    HasSucceeded (s.store.applySystems records) "systems"
      (s.refreshConfigured catalog (some file) none clock detail) := by
  have hsystems := (s.isAllOrNothing_refreshSystems file detail).succeeds records h
  rw [refreshConfigured_of_ok hsystems.result]
  exact ⟨rfl, hsystems.store, hsystems.status, hsystems.health⟩

/-- With the systems applied, a refresh does with the stations what it does with them alone. -/
theorem isAllOrNothing_refreshConfigured {after : Store} (h : AppliesSystems s.store systems after) :
    IsAllOrNothing StationRecord.ofJson? file after (after.applyStations catalog · clock) "stations" detail
      (s.refreshConfigured catalog systems (some file) clock detail) := by
  cases h with
  | absent => exact s.isAllOrNothing_refreshStations catalog file clock detail
  | @applied systemsFile records hrecords =>
    have hsystems := (s.isAllOrNothing_refreshSystems systemsFile detail).succeeds records hrecords
    rw [refreshConfigured_of_ok hsystems.result, ← hsystems.store]
    exact isAllOrNothing_refreshStations _ catalog file clock detail

/-- A refresh of something is good exactly if every configured file holds records. -/
theorem reports_refreshConfigured (h : systems.isSome ∨ stations.isSome) :
    Reports (AllHold systems stations) (s.refreshConfigured catalog systems stations clock detail) := by
  -- Without a failure among the systems, it is the stations that decide, if there are any.
  have hdecide {after : Store} {file : SnapshotFile} (happlied : AppliesSystems s.store systems after)
      (hstations : stations = some file) (hsystems : AllHold systems none) :
      Reports (AllHold systems stations) (s.refreshConfigured catalog systems stations clock detail) := by
    subst hstations
    have hgood : AllHold systems (some file) ↔ ∃ records, file.Holds StationRecord.ofJson? records :=
      ⟨fun hall => hall.2 file rfl, fun hholds => ⟨hsystems.1, by simpa using hholds⟩⟩
    rw [hgood]
    exact (isAllOrNothing_refreshConfigured happlied).reports
  cases systems with
  | none =>
    obtain ⟨file, hfile⟩ := Option.isSome_iff_exists.1 (h.resolve_left (by simp))
    exact hdecide .absent hfile (by simp [AllHold])
  | some systemsFile =>
    rcases systemsFile.failsWith_or_holds SystemReport.ofJson? with ⟨fault, hfault⟩ | ⟨records, hrecords⟩
    · refine (hasFailed_refreshConfigured hfault).reports fun hall => ?_
      obtain ⟨records, hrecords⟩ := hall.1 systemsFile rfl
      exact hfault.not_holds hrecords
    · have hsystems : AllHold (some systemsFile) none := by simpa [AllHold] using ⟨records, hrecords⟩
      cases stations with
      | none => exact (hasSucceeded_refreshConfigured hrecords).reports hsystems
      | some file => exact hdecide (.applied hrecords) rfl hsystems

end

/-! ### One refresh after the other -/

/-- Something that happens to a store that is refreshed: a refresh of some kind, or a change from elsewhere, such as
news from the relay. -/
inductive Event where
  | ofSystems (file : SnapshotFile) (detail : String)
  | ofStations (file : SnapshotFile) (clock : Clock) (detail : String)
  | ofConfigured (systems stations : Option SnapshotFile) (clock : Clock) (detail : String)
  | elsewhere (change : Store → Store)

variable {s : Refreshed} {catalog : Catalog}

namespace Event

/-- What comes of an event. -/
def outcome (catalog : Catalog) (s : Refreshed) : Event → Outcome
  | ofSystems file detail => s.refreshSystems file detail
  | ofStations file clock detail => s.refreshStations catalog file clock detail
  | ofConfigured systems stations clock detail => s.refreshConfigured catalog systems stations clock detail
  | elsewhere change => (.ok (), { s with store := change s.store })

/-- The event is a refresh from at least one file. -/
def Refreshes : Event → Prop
  | ofSystems .. | ofStations .. => True
  | ofConfigured systems stations _ _ => systems.isSome ∨ stations.isSome
  | elsewhere _ => False

/-- All the files that the event is about hold records. -/
def IsGood : Event → Prop
  | ofSystems file _ => ∃ records, file.Holds SystemReport.ofJson? records
  | ofStations file _ _ => ∃ records, file.Holds StationRecord.ofJson? records
  | ofConfigured systems stations _ _ => AllHold systems stations
  | elsewhere _ => True

/-- How a refresh ends does not depend on what there was before it. -/
theorem reports_outcome (s : Refreshed) {e : Event} (h : e.Refreshes) : Reports e.IsGood (e.outcome catalog s) := by
  cases e with
  | ofSystems file detail => exact (s.isAllOrNothing_refreshSystems file detail).reports
  | ofStations file clock detail => exact (s.isAllOrNothing_refreshStations catalog file clock detail).reports
  | ofConfigured systems stations clock detail => exact reports_refreshConfigured h
  | elsewhere change => exact h.elim

theorem status_outcome (s : Refreshed) {e : Event} (h : ¬ e.Refreshes) : (e.outcome catalog s).2.status = s.status := by
  cases e with
  | ofSystems file detail => exact absurd trivial h
  | ofStations file clock detail => exact absurd trivial h
  | ofConfigured systems stations clock detail =>
    obtain ⟨hsystems, hstations⟩ := not_or.1 h
    rw [Bool.not_eq_true, Option.isSome_eq_false_iff, Option.isNone_iff_eq_none] at hsystems hstations
    subst hsystems hstations
    rfl
  | elsewhere change => rfl

end Event

/-- What there is after a series of events. -/
def liveThrough (catalog : Catalog) (s : Refreshed) (events : List Event) : Refreshed :=
  events.foldl (fun s e => (e.outcome catalog s).2) s

theorem status_liveThrough {events : List Event} (h : ∀ e ∈ events, ¬ e.Refreshes) :
    (liveThrough catalog s events).status = s.status := by
  induction events generalizing s with
  | nil => rfl
  | cons first events ih =>
    have hfirst : (first.outcome catalog s).2.status = s.status := Event.status_outcome s (h first List.mem_cons_self)
    rw [← hfirst]
    exact ih fun e he => h e (List.mem_cons_of_mem _ he)

/-- The health of the task is that of the last refresh. -/
theorem healthy_liveThrough_iff {earlier later : List Event} {e : Event} (he : e.Refreshes)
    (hlater : ∀ e' ∈ later, ¬ e'.Refreshes) :
    (liveThrough catalog s (earlier ++ e :: later)).status.health.healthy = true ↔ e.IsGood := by
  have hstatus : (liveThrough catalog s (earlier ++ e :: later)).status =
      (e.outcome catalog (liveThrough catalog s earlier)).2.status := by
    rw [liveThrough, List.foldl_append, List.foldl_cons]
    exact status_liveThrough hlater
  rw [hstatus]
  exact (Event.reports_outcome _ he).health

/-- **A refresh applies everything or nothing, and says which.** From one file: it fails with a fault if the file does,
and it applies all the records if the file holds records. From the configured files: systems that fail are the end of
it, whatever the stations are; once the systems are applied, or if none are configured, it does with the stations what
it does from one file, so that stations that fail leave the systems applied. If any file is configured, the result is
good exactly if the status afterwards is. After any series of events, the health of the task is that of the last
refresh, whatever went before. All this is so whatever the clock shows and whatever the reader says of a file. -/
theorem refresh_is_all_or_nothing (s : Refreshed) (catalog : Catalog) :
    (∀ file detail, IsAllOrNothing SystemReport.ofJson? file s.store s.store.applySystems "systems" detail
      (s.refreshSystems file detail)) ∧
    (∀ file clock detail, IsAllOrNothing StationRecord.ofJson? file s.store (s.store.applyStations catalog · clock)
      "stations" detail (s.refreshStations catalog file clock detail)) ∧
    (∀ file stations clock detail fault, file.FailsWith SystemReport.ofJson? fault →
      HasFailed s.store "systems" fault detail (s.refreshConfigured catalog (some file) stations clock detail)) ∧
    (∀ systems after, AppliesSystems s.store systems after → ∀ file clock detail,
      IsAllOrNothing StationRecord.ofJson? file after (after.applyStations catalog · clock) "stations" detail
        (s.refreshConfigured catalog systems (some file) clock detail)) ∧
    (∀ file records clock detail, file.Holds SystemReport.ofJson? records →
      HasSucceeded (s.store.applySystems records) "systems"
        (s.refreshConfigured catalog (some file) none clock detail)) ∧
    (∀ systems stations clock detail, systems.isSome ∨ stations.isSome →
      ((s.refreshConfigured catalog systems stations clock detail).1 = .ok () ↔
        (s.refreshConfigured catalog systems stations clock detail).2.status.WentWell)) ∧
    ∀ earlier e later, Event.Refreshes e → (∀ e' ∈ later, ¬ Event.Refreshes e') →
      ((liveThrough catalog s (earlier ++ e :: later)).status.health.healthy = true ↔ e.IsGood) := by
  refine ⟨s.isAllOrNothing_refreshSystems, s.isAllOrNothing_refreshStations catalog,
    fun file stations clock detail fault h => hasFailed_refreshConfigured h,
    fun systems after h file clock detail => isAllOrNothing_refreshConfigured h,
    fun file records clock detail h => hasSucceeded_refreshConfigured h, fun systems stations clock detail h => ?_,
    fun earlier e later he hlater => healthy_liveThrough_iff he hlater⟩
  obtain ⟨hresult, hstatus, -⟩ : Reports _ (s.refreshConfigured catalog systems stations clock detail) :=
    reports_refreshConfigured h
  exact hresult.trans hstatus.symm

/-- A list of systems in which a record without a place stands between two good ones. -/
def oneBad : SnapshotFile := .content "[[1, \"Sol\", 0, 0, 0], [2, \"Vega\"], [3, \"Rigel\", 9, 9, 9, true]]".toUTF8

/-- The list without the bad record. -/
def twoGood : SnapshotFile := .content "[[1, \"Sol\", 0, 0, 0], [3, \"Rigel\", 9, 9, 9, true]]".toUTF8

/-- The records in that list. -/
def solAndRigel : List SystemReport :=
  let nine : Binary64 := ⟨0x4022000000000000⟩
  [⟨1, "Sol", ⟨0⟩, ⟨0⟩, ⟨0⟩, false⟩, ⟨3, "Rigel", nine, nine, nine, true⟩]

/-- A file that is not there. -/
def missing : SnapshotFile := .unreadable "stations.json" "no such file"

theorem bad_records_and_missing_files :
    let s : Refreshed := ⟨.empty, .neverRun⟩
    let catalog : Catalog := ⟨.empty .standard, .empty .internal, .empty .hardpoint, .empty .utility⟩
    let detail := "invalid length 2"
    (s.refreshConfigured catalog (some oneBad) (some missing) (5 + ·) detail).2.store = .empty ∧
    (s.refreshConfigured catalog (some oneBad) (some missing) (5 + ·) detail).2.status =
      .failed "systems refresh failed: json serialization error: invalid length 2" ∧
    (s.refreshConfigured catalog (some twoGood) (some missing) (5 + ·) detail).2.store =
      (Store.empty.applySystems solAndRigel).2 ∧
    (s.refreshConfigured catalog (some twoGood) (some missing) (5 + ·) detail).2.status =
      .failed "stations refresh failed: validation error: cannot open snapshot stations.json: no such file" ∧
    (s.refreshConfigured catalog none (some missing) (5 + ·) detail).1 ≠ .ok () ∧
    (liveThrough catalog s [.ofSystems oneBad "", .ofStations missing (5 + ·) "",
      .ofConfigured (some twoGood) none (6 + ·) "", .elsewhere Store.countDropped]).status.health.healthy = true := by
  have hbad : oneBad.FailsWith SystemReport.ofJson? (.document .malformed) := SnapshotFile.records_eq_error_iff.1 (by
    simp only [SnapshotFile.records, recordsOfBytes?, oneBad, Json.parseBytes_toUTF8, Json.parse, String.reduceToList]
    decide +kernel)
  have hgood : twoGood.Holds SystemReport.ofJson? solAndRigel := SnapshotFile.records_eq_ok_iff.1 (by
    simp only [SnapshotFile.records, recordsOfBytes?, twoGood, Json.parseBytes_toUTF8, Json.parse, String.reduceToList]
    decide +kernel)
  intro s catalog detail
  obtain ⟨-, -, hfails, hstations, -, hok, hhealth⟩ := refresh_is_all_or_nothing s catalog
  have hsystems := hfails oneBad (some missing) (5 + ·) detail _ hbad
  have hmissing :=
    (hstations (some twoGood) _ (.applied hgood) missing (5 + ·) detail).fails _ (.unreadable ..)
  have hpaths : (none : Option SnapshotFile).isSome ∨ (some missing).isSome := .inr rfl
  refine ⟨hsystems.store, hsystems.status.trans (by decide +kernel), hmissing.store,
    hmissing.status.trans (by decide +kernel), fun h => ?_, ?_⟩
  · obtain ⟨text, htext⟩ := (hok none (some missing) (5 + ·) detail hpaths).1 h
    cases htext
  · refine (hhealth [.ofSystems oneBad "", .ofStations missing (5 + ·) ""]
      (.ofConfigured (some twoGood) none (6 + ·) "") [.elsewhere Store.countDropped] (.inl rfl)
      (by simp [Event.Refreshes])).2 ⟨?_, by simp⟩
    rintro file ⟨rfl⟩
    exact ⟨solAndRigel, hgood⟩

end Refreshed

end StationFinder
