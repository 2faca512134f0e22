import StationFinder.Proofs.Snapshot.SystemsApplied

/-!
# Snapshots applied again

A record that has just been applied has nothing more to say: the system is in line with it (`Store.settle_settle`), or
out of range and still not stored, and so it is with stations (`Station.isInLine_afterReport`). A record about something
else does not change that. So if no two records of a snapshot are about the same thing, then after the snapshot was
applied none of its records says anything new (`knows_foldl`), and to apply it again changes nothing
(`Store.applied_twice`). It does not matter which system a shared name leads to: a record that brings no other name
leaves the names alone.
-/

namespace StationFinder

/-! ### Records in a row -/

section

variable {ρ κ : Type} (Knows : Atlas → ρ → Prop) {records : List ρ}

/-- If the step for a record makes the atlas know it, and steps for records with other keys let the atlas know it still,
then after the steps for records with different keys the atlas knows all of them. -/
theorem knows_foldl (step : Summary × Store → ρ → Summary × Store) (key : ρ → κ)
    (hself : ∀ r ∈ records, ∀ state, Knows (step state r).2.atlas r)
    (hother : ∀ state r r', key r' ≠ key r → Knows state.2.atlas r → Knows (step state r').2.atlas r)
    (hkeys : (records.map key).Nodup) (state : Summary × Store) :
    ∀ r ∈ records, Knows (records.foldl step state).2.atlas r := by
  induction records using List.reverseRecOn with
  | nil =>
    intro r hr
    cases hr
  | append_singleton records last ih =>
    rw [List.map_append, List.map_singleton, List.nodup_append] at hkeys
    obtain ⟨hnodup, -, hdiffer⟩ := hkeys
    intro r hr
    rw [List.foldl_append, List.foldl_cons, List.foldl_nil]
    rcases List.mem_append.1 hr with hmem | hlast
    · have hne : key last ≠ key r := (hdiffer _ (List.mem_map_of_mem hmem) _ (List.mem_singleton_self _)).symm
      exact hother _ r last hne (ih (fun r hr => hself r (List.mem_append_left _ hr)) hnodup r hmem)
    · obtain rfl := List.mem_singleton.1 hlast
      exact hself r hr _

/-- Steps for records that the atlas knows leave it alone, and count nothing as created or updated. -/
theorem foldl_of_knows (again : Summary × Store → ρ → Summary × Store)
    (hknown : ∀ state r, Knows state.2.atlas r → (again state r).2.atlas = state.2.atlas ∧
      (again state r).1.created = state.1.created ∧ (again state r).1.updated = state.1.updated)
    (state : Summary × Store) (h : ∀ r ∈ records, Knows state.2.atlas r) :
    (records.foldl again state).2.atlas = state.2.atlas ∧
      (records.foldl again state).1.created = state.1.created ∧
      (records.foldl again state).1.updated = state.1.updated := by
  induction records generalizing state with
  | nil => exact ⟨rfl, rfl, rfl⟩
  | cons first records ih =>
    obtain ⟨hatlas, hcreated, hupdated⟩ := hknown state first (h first List.mem_cons_self)
    have hlater : ∀ r ∈ records, Knows (again state first).2.atlas r := by
      intro r hr
      rw [hatlas]
      exact h r (List.mem_cons_of_mem _ hr)
    obtain ⟨hatlas', hcreated', hupdated'⟩ := ih _ hlater
    exact ⟨hatlas'.trans hatlas, hcreated'.trans hcreated, hupdated'.trans hupdated⟩

end

/-! ### Records of systems -/

namespace Store

/-- A system that was brought in line with a record does not move at it. -/
theorem destination?_afterReport (system : StarSystem) (r : SystemReport) :
    destination? (afterReport system r) r = none := by
  unfold destination?
  cases hin : r.inRange with
  | true => rw [isAt_afterReport_of_inRange hin]; rfl
  | false =>
    rw [Option.isNone_iff_eq_none.1 (Option.isSome_eq_false_iff.1 hin)]
    exact ite_self none

theorem afterReport_afterReport (system : StarSystem) (r : SystemReport) :
    afterReport (afterReport system r) r = afterReport system r := by
  conv_lhs => rw [afterReport, destination?_afterReport, revisedSystem]
  rw [← name_afterReport system r, ← needsPermit_afterReport system r]

/-- What a record leaves under its id, it leaves there again. -/
theorem settle_settle (stored : Option StarSystem) (r : SystemReport) :
    settle (settle stored r) r = settle stored r := by
  cases stored with
  | some system => exact congrArg some (afterReport_afterReport system r)
  | none =>
    cases hsector : r.sector? with
    | none => simp only [settle, hsector, Option.map_none]
    | some sector => simp only [settle, hsector, Option.map_some, afterReport_toSystem hsector]

end Store

namespace Atlas

/-- A record of a system says nothing new: what is stored under its id is as the record leaves it. -/
def KnowsSystem (a : Atlas) (r : SystemReport) : Prop := Store.settle a.systems[r.id]? r = a.systems[r.id]?

end Atlas

namespace Store

theorem knowsSystem_upsertSystem (s : Store) (r : SystemReport) : (s.upsertSystem r).2.atlas.KnowsSystem r := by
  rw [Atlas.KnowsSystem, getElem?_systems_upsertSystem, if_pos rfl, settle_settle]

theorem knowsSystem_upsertSystem_of_ne {s : Store} {r r' : SystemReport} (hid : r'.id ≠ r.id)
    (h : s.atlas.KnowsSystem r) : (s.upsertSystem r').2.atlas.KnowsSystem r := by
  rw [Atlas.KnowsSystem, getElem?_systems_upsertSystem, if_neg hid]
  exact h

/-- A record has news of a system exactly if it leaves another one. -/
theorem hasNews_iff {system : StarSystem} {r : SystemReport} : HasNews system r ↔ afterReport system r ≠ system := by
  refine ⟨fun hnews h => hnews ?_, fun h => not_not.1 (mt afterReport_of_not_hasNews h)⟩
  refine ⟨?_, ?_, ?_⟩
  · rw [← name_afterReport system r, h]
  · rw [← needsPermit_afterReport system r, h]
  · rw [← destination?_afterReport system r, h]

/-- A record that says nothing new leaves the atlas alone, and counts neither as created nor as updated. -/
theorem upsertSystem_of_knowsSystem {s : Store} {r : SystemReport} (h : s.atlas.KnowsSystem r) (m : Summary) :
    (s.upsertSystem r).2.atlas = s.atlas ∧ (m.addSystem (s.upsertSystem r).1).created = m.created ∧
      (m.addSystem (s.upsertSystem r).1).updated = m.updated := by
  unfold Atlas.KnowsSystem at h
  unfold upsertSystem
  cases hstored : s.atlas.systems[r.id]? with
  | some system =>
    rw [hstored, settle, Option.some.injEq] at h
    dsimp only
    rcases reviseSystem_cases s system r with ⟨-, hrevise⟩ | ⟨hnews, -⟩
    · rw [hrevise]
      exact ⟨atlas_countRefused s system r, rfl, rfl⟩
    · exact absurd h (hasNews_iff.1 hnews)
  | none =>
    rw [hstored, settle, Option.map_eq_none_iff] at h
    rw [h]
    exact ⟨rfl, rfl, rfl⟩

end Store

/-! ### Records of stations -/

namespace Station

/-- A report has nothing to change in a station. -/
def IsInLine (s : Station) (r : StationReport) : Prop :=
  s.aligned r = s ∧ sameDistance s.distanceToStar r.distanceToStar = true

theorem revised?_eq_none_iff {s : Station} {r : StationReport} {now : Nat} :
    s.revised? r now = none ↔ s.IsInLine r := by
  rw [revised?, IsInLine]
  split
  · next h => exact iff_of_true rfl h
  · next h => exact iff_of_false nofun h

/-- What is stored under an id of a system after a report about that station. -/
def afterReport (stored : Option Station) (systemId : Nat) (r : StationReport) (now : Nat) : Station :=
  match stored with
  | some station => (station.revised? r now).getD station
  | none => ofReport systemId r now

/-- The distance that a report gives is a number, if it gives one. -/
def HasNumber (d : Option Binary64) : Prop := ∀ x, d = some x → x.isNaN = false

theorem sameDistance_self {d : Option Binary64} (h : HasNumber d) : sameDistance d d = true := by
  cases d with
  | none => rfl
  | some x => exact Binary64.sameNumber_self (h x rfl)

theorem sameText_self (text : Option String) : sameText text text = true := by
  cases text with
  | none => rfl
  | some text => exact Text.sameAscii_self text

/-- What was settled counts as the same as the new value. -/
theorem same_settle {α : Type} {same : α → α → Bool} {old new : α} (h : same new new = true) :
    same (settle same old new) new = true := by
  unfold settle
  split
  · assumption
  · exact h

theorem settle_of_same {α : Type} {same : α → α → Bool} {old new : α} (h : same old new = true) :
    settle same old new = old := if_pos h

/-- A station has nothing to change that is in line with a report in each respect, and whose lists are those that the
report leaves. -/
theorem aligned_eq_self {s : Station} {r : StationReport} (hname : s.name = r.name)
    (hdistance : sameDistance s.distanceToStar r.distanceToStar = true)
    (hallegiance : sameText s.allegiance r.allegiance = true)
    (hpad : sameText s.maxLandingPadSize r.maxLandingPadSize = true) (hkind : sameText s.kind r.kind = true)
    (hshipyard : s.hasShipyard = r.hasShipyard) (houtfitting : s.hasOutfitting = r.hasOutfitting)
    (hships : r.hasShipyard = true → r.ships.or s.ships = s.ships)
    (hinventory : r.hasOutfitting = true → r.inventory.getD s.inventory = s.inventory) : s.aligned r = s := by
  obtain ⟨id, systemId, name, distance, allegiance, pad, kind, shipyard, outfitting, stamp, inventory, ships⟩ := s
  dsimp only at *
  subst hname hshipyard houtfitting
  simp only [aligned, settle_of_same hdistance, settle_of_same hallegiance, settle_of_same hpad, settle_of_same hkind,
    mk.injEq, true_and]
  constructor
  · split
    · next hon => exact hinventory hon
    · rfl
  · split
    · next hon => exact hships hon
    · rfl

/-- A report has nothing to change in the station that it creates. -/
theorem isInLine_ofReport (systemId : Nat) {r : StationReport} (h : HasNumber r.distanceToStar) (now : Nat) :
    (ofReport systemId r now).IsInLine r := by
  have hdistance := sameDistance_self h
  refine ⟨aligned_eq_self rfl hdistance (sameText_self _) (sameText_self _) (sameText_self _) rfl rfl ?_ ?_, hdistance⟩
  · intro hon
    simp only [ofReport, hon, if_true]
    cases r.ships <;> rfl
  · intro hon
    simp only [ofReport, hon, if_true]
    cases r.inventory <;> rfl

/-- A station that was brought in line with a report is in line with it. -/
theorem isInLine_aligned (s : Station) {r : StationReport} (h : HasNumber r.distanceToStar) (now : Nat) :
    ({ s.aligned r with updatedAt := now } : Station).IsInLine r := by
  have hdistance : sameDistance (settle sameDistance s.distanceToStar r.distanceToStar) r.distanceToStar = true :=
    same_settle (sameDistance_self h)
  refine ⟨aligned_eq_self rfl hdistance (same_settle (sameText_self _)) (same_settle (sameText_self _))
    (same_settle (sameText_self _)) rfl rfl ?_ ?_, hdistance⟩
  · intro hon
    simp only [aligned, hon, if_true]
    cases r.ships <;> rfl
  · intro hon
    simp only [aligned, hon, if_true]
    cases r.inventory <;> rfl

theorem isInLine_afterReport (stored : Option Station) (systemId : Nat) {r : StationReport}
    (h : HasNumber r.distanceToStar) (now : Nat) : (afterReport stored systemId r now).IsInLine r := by
  cases stored with
  | none => exact isInLine_ofReport systemId h now
  | some station =>
    rw [afterReport]
    cases hrevised : station.revised? r now with
    | none => exact revised?_eq_none_iff.1 hrevised
    | some revised =>
      rw [revised?] at hrevised
      split at hrevised
      · cases hrevised
      · rw [← Option.some.inj hrevised]
        exact station.isInLine_aligned h now

end Station

namespace Atlas

/-- A report about a station of a system says nothing new: the system is not stored, or the station is and is in line
with it. -/
def KnowsStation (a : Atlas) (systemId : Nat) (r : StationReport) : Prop :=
  ∀ system, a.systems[systemId]? = some system → ∃ station, system.stations[r.id]? = some station ∧ station.IsInLine r

/-- A record of a station says nothing new. -/
def KnowsRecord (a : Atlas) (catalog : Catalog) (r : StationRecord) : Prop :=
  a.KnowsStation r.systemId (r.decode catalog).report

end Atlas

namespace Store

/-- A first report about a station of a stored system creates it. -/
theorem upsertStation_of_new {s : Store} {systemId : Nat} {system : StarSystem} {r : StationReport}
    (hs : s.atlas.systems[systemId]? = some system) (hstation : system.stations[r.id]? = none) (now : Nat) :
    s.upsertStation systemId r now = (.created, { s with atlas :=
      { s.atlas.replace systemId (system.withStation r.id (.ofReport systemId r now)) with
        stationCount := s.atlas.stationCount + 1 } }) := by
  rw [upsertStation, hs]
  dsimp only
  rw [hstation]
  rfl

/-- A report about a stored station revises it or does nothing. -/
theorem upsertStation_of_stored {s : Store} {systemId : Nat} {system : StarSystem} {r : StationReport}
    {station : Station} (hs : s.atlas.systems[systemId]? = some system)
    (hstation : system.stations[r.id]? = some station) (now : Nat) :
    s.upsertStation systemId r now =
      match station.revised? r now with
      | some revised => (.updated, (s.putSystem systemId (system.withStation r.id revised)).countUpdate)
      | none => (.unchanged, s) := by
  rw [upsertStation, hs]
  dsimp only
  cases hrevised : station.revised? r now with
  | some revised => simp only [hstation, hrevised]
  | none => simp only [hstation, hrevised]

/-- A system with a station in the place of that very station is the same system. -/
theorem systems_insert_withStation_self {s : Store} {systemId : Nat} {system : StarSystem} {id : Nat}
    {station : Station} (hs : s.atlas.systems[systemId]? = some system)
    (hstation : system.stations[id]? = some station) :
    s.atlas.systems.insert systemId (system.withStation id station) = s.atlas.systems := by
  rw [StarSystem.withStation, insert_eq_self hstation, insert_eq_self hs]

/-- A report about a station of a stored system puts the station into its place, changed or not. -/
theorem systems_upsertStation {s : Store} {systemId : Nat} {system : StarSystem}
    (hs : s.atlas.systems[systemId]? = some system) (r : StationReport) (now : Nat) :
    (s.upsertStation systemId r now).2.atlas.systems =
      s.atlas.systems.insert systemId
        (system.withStation r.id (Station.afterReport system.stations[r.id]? systemId r now)) := by
  cases hstation : system.stations[r.id]? with
  | none =>
    rw [upsertStation_of_new hs hstation]
    rfl
  | some station =>
    rw [upsertStation_of_stored hs hstation, Station.afterReport]
    cases hrevised : station.revised? r now with
    | some revised => rfl
    | none => rw [Option.getD_none, systems_insert_withStation_self hs hstation]

theorem atlas_upsertStation_of_not_stored {s : Store} {systemId : Nat} (hs : s.atlas.systems[systemId]? = none)
    (r : StationReport) (now : Nat) : (s.upsertStation systemId r now).2.atlas = s.atlas := by
  rw [upsertStation, hs]
  rfl

theorem knowsStation_upsertStation (s : Store) (systemId : Nat) {r : StationReport}
    (h : Station.HasNumber r.distanceToStar) (now : Nat) :
    (s.upsertStation systemId r now).2.atlas.KnowsStation systemId r := by
  intro system hsystem
  cases hs : s.atlas.systems[systemId]? with
  | none =>
    rw [atlas_upsertStation_of_not_stored hs, hs] at hsystem
    cases hsystem
  | some before =>
    rw [systems_upsertStation hs, Std.ExtTreeMap.getElem?_insert_self, Option.some.injEq] at hsystem
    refine ⟨Station.afterReport before.stations[r.id]? systemId r now, ?_, Station.isInLine_afterReport _ _ h now⟩
    rw [← hsystem, StarSystem.withStation, Std.ExtTreeMap.getElem?_insert_self]

theorem knowsStation_upsertStation_of_ne {s : Store} {systemId systemId' : Nat} {r r' : StationReport}
    (hplace : (systemId', r'.id) ≠ (systemId, r.id)) (h : s.atlas.KnowsStation systemId r) (now : Nat) :
    (s.upsertStation systemId' r' now).2.atlas.KnowsStation systemId r := by
  intro system hsystem
  cases hs : s.atlas.systems[systemId']? with
  | none =>
    rw [atlas_upsertStation_of_not_stored hs] at hsystem
    exact h system hsystem
  | some before =>
    rw [systems_upsertStation hs, Std.ExtTreeMap.getElem?_insert] at hsystem
    simp only [Nat.compare_eq_eq] at hsystem
    split at hsystem
    · next hid =>
      -- The report is about another station of the same system.
      subst hid
      obtain ⟨station, hstation, hline⟩ := h before hs
      have hne : r'.id ≠ r.id := fun hid => hplace (by rw [hid])
      refine ⟨station, ?_, hline⟩
      rw [← Option.some.inj hsystem, StarSystem.withStation, Std.ExtTreeMap.getElem?_insert]
      simp only [Nat.compare_eq_eq, if_neg hne]
      exact hstation
    · exact h system hsystem

/-- A report that says nothing new leaves the atlas alone, and counts neither as created nor as updated. -/
theorem upsertStation_of_knowsStation {s : Store} {systemId : Nat} {r : StationReport}
    (h : s.atlas.KnowsStation systemId r) (now : Nat) (m : Summary) :
    (s.upsertStation systemId r now).2.atlas = s.atlas ∧
      (m.addStation (s.upsertStation systemId r now).1).created = m.created ∧
      (m.addStation (s.upsertStation systemId r now).1).updated = m.updated := by
  cases hs : s.atlas.systems[systemId]? with
  | none =>
    rw [upsertStation, hs]
    exact ⟨rfl, rfl, rfl⟩
  | some system =>
    obtain ⟨station, hstation, hline⟩ := h system hs
    rw [upsertStation_of_stored hs hstation, Station.revised?_eq_none_iff.2 hline]
    exact ⟨rfl, rfl, rfl⟩

theorem knowsRecord_applyStation {catalog : Catalog} (state : Summary × Store) {r : StationRecord}
    (h : Station.HasNumber r.distanceToStar) (now : Nat) :
    (applyStation catalog now state r).2.atlas.KnowsRecord catalog r :=
  knowsStation_upsertStation state.2 r.systemId (r := (r.decode catalog).report) h now

theorem knowsRecord_applyStation_of_ne {catalog : Catalog} {state : Summary × Store} {r r' : StationRecord}
    (now : Nat) (hplace : (r'.systemId, r'.id) ≠ (r.systemId, r.id)) (h : state.2.atlas.KnowsRecord catalog r) :
    (applyStation catalog now state r').2.atlas.KnowsRecord catalog r :=
  knowsStation_upsertStation_of_ne hplace h now

theorem applyStation_of_knowsRecord {catalog : Catalog} {state : Summary × Store} {r : StationRecord}
    (h : state.2.atlas.KnowsRecord catalog r) (now : Nat) :
    (applyStation catalog now state r).2.atlas = state.2.atlas ∧
      (applyStation catalog now state r).1.created = state.1.created ∧
      (applyStation catalog now state r).1.updated = state.1.updated :=
  upsertStation_of_knowsStation h now (state.1.addUnresolved (r.decode catalog))

/-! ### Whole snapshots -/

/-- **The second time a snapshot changes nothing.** Records of systems with different ids, or of stations with different
places and no distance that is not a number, are applied to any store, and then applied once more. The second time
nothing counts as created or updated, and every system with its stations and their stamps, every name, every bucket and
the count of stations stay as they are. -/
theorem applied_twice (s : Store) :
    (∀ records : List SystemReport, (records.map SystemReport.id).Nodup →
      let once := (s.applySystems records).2
      let again := once.applySystems records
      again.1.created = 0 ∧ again.1.updated = 0 ∧ again.2.atlas = once.atlas) ∧
    ∀ (catalog : Catalog) (clock later : Clock) (records : List StationRecord),
      (records.map fun r => (r.systemId, r.id)).Nodup →
      (∀ r ∈ records, ∀ d, r.distanceToStar = some d → d.isNaN = false) →
      let once := (s.applyStations catalog records clock).2
      let again := once.applyStations catalog records later
      again.1.created = 0 ∧ again.1.updated = 0 ∧ again.2.atlas = once.atlas := by
  constructor
  · intro records hids
    have hknows : ∀ r ∈ records, (s.applySystems records).2.atlas.KnowsSystem r := by
      apply knows_foldl Atlas.KnowsSystem applySystem SystemReport.id _ _ hids
      · intro r _ state
        exact knowsSystem_upsertSystem state.2 r
      · intro state r r' hid h
        exact knowsSystem_upsertSystem_of_ne hid h
    obtain ⟨hatlas, hcreated, hupdated⟩ :=
      foldl_of_knows Atlas.KnowsSystem applySystem (fun state _ h => upsertSystem_of_knowsSystem h state.1)
        (.zero, (s.applySystems records).2) hknows
    exact ⟨hcreated, hupdated, hatlas⟩
  · intro catalog clock later records hplaces hnumbers
    -- The records are taken with the readings of the clock; their places are what they were.
    let place (timed : StationRecord × Nat) := (timed.1.systemId, timed.1.id)
    let Knows (a : Atlas) (timed : StationRecord × Nat) := a.KnowsRecord catalog timed.1
    have hrecords : records.zipIdx.map Prod.fst = records := List.zipIdx_map_fst 0 records
    have hplaces_timed : (records.zipIdx.map place).Nodup := by
      rw [← hrecords, List.map_map] at hplaces
      exact hplaces
    have hknows : ∀ timed ∈ records.zipIdx, Knows (s.applyStations catalog records clock).2.atlas timed := by
      apply knows_foldl Knows _ place _ _ hplaces_timed
      · intro timed htimed state
        exact knowsRecord_applyStation state (hnumbers _ (hrecords ▸ List.mem_map_of_mem htimed)) _
      · intro state timed timed' hplace h
        exact knowsRecord_applyStation_of_ne _ hplace h
    obtain ⟨hatlas, hcreated, hupdated⟩ :=
      foldl_of_knows Knows (fun state timed => applyStation catalog (later timed.2) state timed.1)
        (fun _ timed h => applyStation_of_knowsRecord h (later timed.2))
        (.zero, (s.applyStations catalog records clock).2) hknows
    exact ⟨hcreated, hupdated, hatlas⟩

/-- Two systems that come to share a name, of which the first one moves, and one out of range. -/
def namesakesReported : List SystemReport :=
  let zero : Binary64 := ⟨0⟩
  let hundred : Binary64 := ⟨0x4059000000000000⟩
  let far : Binary64 := ⟨0x40F86A0000000000⟩
  [⟨1, "sol", hundred, zero, zero, false⟩, ⟨2, "SOL", zero, zero, hundred, true⟩, ⟨3, "Deneb", far, zero, zero, false⟩]

/-- A stored station in other letter cases, a new one, both with lists that their flags rule out, and one of no
system. -/
def galileoReported : List StationRecord :=
  let zero : Binary64 := ⟨0⟩
  let minusZero : Binary64 := ⟨0x8000000000000000⟩
  [⟨10, 1, "Galileo", some minusZero, some "federation", none, none, true, false, none, some ["128"]⟩,
    ⟨11, 1, "Titan City", none, some "Federation", some "l", none, false, true, some ["Vulture"], some ["128"]⟩,
    ⟨10, 9, "Nowhere", some zero, none, none, none, true, true, some [], some []⟩]

/-- The store with one system, at which Galileo sells the Vulture. -/
def galileoStored : Store :=
  (solAlone.upsertStation 1 ⟨10, "Galileo", some ⟨0⟩, some "Federation", none, none, true, true,
    some (.ofList [.vulture]), none⟩ 7).2

theorem galileo_applied_twice :
    (namesakesReported.map SystemReport.id).Nodup ∧
      (solAlone.applySystems namesakesReported).1 = ⟨1, 1, 0, 1, 0, 0, 0⟩ ∧
      ((solAlone.applySystems namesakesReported).2.applySystems namesakesReported).2.atlas =
        (solAlone.applySystems namesakesReported).2.atlas ∧
      (galileoReported.map fun r => (r.systemId, r.id)).Nodup ∧
      (∀ r ∈ galileoReported, ∀ d, r.distanceToStar = some d → d.isNaN = false) ∧
      let blank : Catalog := ⟨.empty .standard, .empty .internal, .empty .hardpoint, .empty .utility⟩
      let once := galileoStored.applyStations blank galileoReported (8 + ·)
      once.1 = ⟨1, 1, 0, 0, 1, 0, 2⟩ ∧
        (once.2.applyStations blank galileoReported (20 + ·)).2.atlas = once.2.atlas := by
  have hids : (namesakesReported.map SystemReport.id).Nodup := by decide
  have hplaces : (galileoReported.map fun r => (r.systemId, r.id)).Nodup := by decide
  have hnumbers : ∀ r ∈ galileoReported, ∀ d, r.distanceToStar = some d → d.isNaN = false := by
    have hall : (galileoReported.all fun r => !r.distanceToStar.any Binary64.isNaN) = true := by decide +kernel
    intro r hr d hd
    have h := List.all_eq_true.1 hall r hr
    rw [hd] at h
    simpa using h
  refine ⟨hids, by decide +kernel, ?_, hplaces, hnumbers, by decide +kernel, ?_⟩
  · exact ((applied_twice solAlone).1 namesakesReported hids).2.2
  · exact ((applied_twice galileoStored).2 _ (8 + ·) (20 + ·) galileoReported hplaces hnumbers).2.2

end Store

end StationFinder
