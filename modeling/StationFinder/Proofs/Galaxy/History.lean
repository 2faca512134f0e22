import StationFinder.Proofs.Galaxy.Consistency

/-!
# Histories of the store

A store is reachable when operations lead to it from the empty store, whatever they are, in any order and number:
systems loaded or reported, stations reported, ships and modules announced by the relay. Each operation keeps the
atlas consistent (`Store.consistent_loadSystem` and its like), so the atlas of every reachable store is consistent,
which `Store.reachable_parts_agree` spells out.
-/

namespace StationFinder

namespace Store

/-- The stores to which operations lead. -/
inductive Reachable : Store → Prop where
  | empty : Reachable .empty
  | loadSystem {s : Store} (system : StarSystem) : Reachable s → Reachable (s.loadSystem system).2
  | upsertSystem {s : Store} (r : SystemReport) : Reachable s → Reachable (s.upsertSystem r).2
  | upsertStation {s : Store} (systemId : Nat) (r : StationReport) (now : Nat) :
      Reachable s → Reachable (s.upsertStation systemId r now).2
  | updateShips {s : Store} (systemName stationName : String) (ships : ShipSet) (now : Nat) :
      Reachable s → Reachable (s.updateShips systemName stationName ships now).2
  | updateModules {s : Store} (systemName stationName : String) (update : Inventory) (now : Nat) :
      Reachable s → Reachable (s.updateModules systemName stationName update now).2

/-! ### What each operation keeps -/

theorem consistent_loadSystem {s : Store} (h : s.atlas.Consistent) (system : StarSystem) :
    (s.loadSystem system).2.atlas.Consistent := by
  unfold loadSystem
  split
  · exact h
  · next sector hplace =>
    cases hstored : s.atlas.systems[system.id]? with
    | none => exact h.enter hstored hplace
    | some previous =>
      have hid := h.keyed hstored
      refine (h.withdraw hstored).enter ?_ hplace
      simpa only [hid] using Atlas.Consistent.not_stored_withdraw s.atlas previous

/-- The sector to which a report moves a system, if it does. -/
def destination? (system : StarSystem) (r : SystemReport) : Option Sector :=
  if !system.isAt r then r.sector? else none

/-- A system in line with a report. -/
def afterReport (system : StarSystem) (r : SystemReport) : StarSystem :=
  revisedSystem system r (destination? system r)

@[simp] theorem id_afterReport (system : StarSystem) (r : SystemReport) : (afterReport system r).id = system.id := by
  unfold afterReport revisedSystem
  split <;> rfl

@[simp] theorem name_afterReport (system : StarSystem) (r : SystemReport) : (afterReport system r).name = r.name := by
  unfold afterReport revisedSystem
  split <;> rfl

@[simp] theorem stations_afterReport (system : StarSystem) (r : SystemReport) :
    (afterReport system r).stations = system.stations := by
  unfold afterReport revisedSystem
  split <;> rfl

theorem placed_afterReport {system : StarSystem} (r : SystemReport)
    (hplace : Sector.of? system.x system.y system.z = some system.sector) :
    Sector.of? (afterReport system r).x (afterReport system r).y (afterReport system r).z =
      some (afterReport system r).sector := by
  cases htarget : destination? system r with
  | none =>
    simp only [afterReport, revisedSystem, htarget]
    exact hplace
  | some sector =>
    simp only [afterReport, revisedSystem, htarget]
    unfold destination? at htarget
    split at htarget
    · exact htarget
    · cases htarget

/-- A report has news of a system: another name, another permit, or a move. -/
def HasNews (system : StarSystem) (r : SystemReport) : Prop :=
  ¬ (system.name = r.name ∧ system.needsPermit = r.needsPermit ∧ destination? system r = none)

theorem afterReport_of_not_hasNews {system : StarSystem} {r : SystemReport} (h : ¬ HasNews system r) :
    afterReport system r = system := by
  obtain ⟨hname, hpermit, hstays⟩ := not_not.1 h
  simp only [afterReport, hstays, revisedSystem, ← hname, ← hpermit]

/-- The store with a place that is another one, but out of range, counted. -/
def countRefused (s : Store) (system : StarSystem) (r : SystemReport) : Store :=
  if !system.isAt r && (destination? system r).isNone then s.countDropped else s

@[simp] theorem atlas_countRefused (s : Store) (system : StarSystem) (r : SystemReport) :
    (s.countRefused system r).atlas = s.atlas := by
  unfold countRefused
  split <;> rfl

/-- The atlas with a system brought in line with a report: the names follow, and so do the sectors. -/
def reviseAtlas (a : Atlas) (system : StarSystem) (r : SystemReport) : Atlas :=
  ((if system.name ≠ r.name then a.rename system.name r.name r.id else a).relocate system.sector
    (afterReport system r).sector r.id).replace r.id (afterReport system r)

/-- A report without news is at most counted; any other gives the system a new name, moves it and puts it back. -/
theorem reviseSystem_cases (s : Store) (system : StarSystem) (r : SystemReport) :
    ¬ HasNews system r ∧ s.reviseSystem system r = (.unchanged, s.countRefused system r) ∨
      HasNews system r ∧ s.reviseSystem system r = (.updated (afterReport system r),
        { s.countRefused system r with atlas := reviseAtlas s.atlas system r }) := by
  unfold reviseSystem
  simp only [show (if !system.isAt r then r.sector? else none) = destination? system r from rfl]
  rw [show (if !system.isAt r && (destination? system r).isNone then s.countDropped else s) =
    s.countRefused system r from rfl, atlas_countRefused]
  split
  · next hsame => exact .inl ⟨not_not.2 (by simpa [and_assoc] using hsame), rfl⟩
  · next hdiffer =>
    refine .inr ⟨by simpa [HasNews, and_assoc] using hdiffer, ?_⟩
    simp only [reviseAtlas, afterReport, decide_eq_true_eq]

/-- What becomes of the atlas, with news or without. -/
theorem atlas_reviseSystem (s : Store) (system : StarSystem) (r : SystemReport) :
    (s.reviseSystem system r).2.atlas = s.atlas ∧ afterReport system r = system ∨
      (s.reviseSystem system r).2.atlas = reviseAtlas s.atlas system r := by
  rcases reviseSystem_cases s system r with ⟨hnone, hrevise⟩ | ⟨-, hrevise⟩
  · rw [hrevise]
    exact .inl ⟨atlas_countRefused s system r, afterReport_of_not_hasNews hnone⟩
  · rw [hrevise]
    exact .inr rfl

theorem tally_reviseSystem (s : Store) (system : StarSystem) (r : SystemReport) :
    (s.reviseSystem system r).2.tally = (s.countRefused system r).tally := by
  rcases reviseSystem_cases s system r with ⟨-, hrevise⟩ | ⟨-, hrevise⟩ <;> rw [hrevise]

theorem consistent_reviseSystem {s : Store} (h : s.atlas.Consistent) {system : StarSystem} {r : SystemReport}
    (hs : s.atlas.systems[r.id]? = some system) : (s.reviseSystem system r).2.atlas.Consistent := by
  rcases atlas_reviseSystem s system r with ⟨hatlas, -⟩ | hatlas
  · rw [hatlas]
    exact h
  · have := h.revise (t := afterReport system r) hs (by simp [h.keyed hs]) (placed_afterReport r (h.placed hs))
      (by simp)
    rw [name_afterReport] at this
    rw [hatlas]
    exact this

theorem consistent_upsertSystem {s : Store} (h : s.atlas.Consistent) (r : SystemReport) :
    (s.upsertSystem r).2.atlas.Consistent := by
  unfold upsertSystem
  split
  · next system hs => exact consistent_reviseSystem h hs
  · next hs =>
    split
    · next sector hplace => exact h.enter hs hplace
    · exact h

theorem consistent_upsertStation {s : Store} (h : s.atlas.Consistent) (systemId : Nat) (r : StationReport)
    (now : Nat) : (s.upsertStation systemId r now).2.atlas.Consistent := by
  unfold upsertStation
  split
  · exact h
  · next system hs =>
    split
    · next station hstation =>
      split
      · next revised _ =>
        have := h.putStation hs r.id revised
        rwa [if_pos (by simp [Std.ExtTreeMap.mem_iff_isSome_getElem?, hstation])] at this
      · exact h
    · next hstation =>
      have := h.putStation hs r.id (.ofReport systemId r now)
      rwa [if_neg (by simp [Std.ExtTreeMap.mem_iff_isSome_getElem?, hstation])] at this

theorem consistent_updateNamed {s : Store} (h : s.atlas.Consistent) (systemName stationName : String) (now : Nat)
    (change : Station → Station) : (s.updateNamed systemName stationName now change).2.atlas.Consistent := by
  unfold updateNamed
  split
  · exact h
  · split
    · exact h
    · next id _ system hs =>
      split
      · exact h
      · next key station hentry =>
        have hstored : key ∈ system.stations := by
          have := List.mem_of_find?_eq_some hentry
          rw [Std.ExtTreeMap.mem_toList_iff_getElem?_eq_some] at this
          simp [Std.ExtTreeMap.mem_iff_isSome_getElem?, this]
        have := h.putStation hs key { change station with updatedAt := now }
        rwa [if_pos hstored] at this

theorem Reachable.consistent {s : Store} (hs : s.Reachable) : s.atlas.Consistent := by
  induction hs with
  | empty => exact Atlas.consistent_empty
  | loadSystem system _ ih => exact consistent_loadSystem ih system
  | upsertSystem r _ ih => exact consistent_upsertSystem ih r
  | upsertStation systemId r now _ ih => exact consistent_upsertStation ih systemId r now
  | updateShips systemName stationName ships now _ ih => exact consistent_updateNamed ih systemName stationName now _
  | updateModules systemName stationName update now _ ih =>
    exact consistent_updateNamed ih systemName stationName now _

/-! ### What holds of every reachable store -/

/-- **The parts of the atlas agree** in every reachable store. Each system is kept under its own id, in range and in
the sector of its place; its id is in the bucket of that sector once and in no other, buckets hold ids of stored
systems only, and none is empty; a name leads to a system of that name; the stations are counted, so that what a
replaced system takes off the count is on it. -/
theorem reachable_parts_agree {s : Store} (hs : s.Reachable) :
    (∀ (id : Nat) (t : StarSystem), s.atlas.systems[id]? = some t →
      t.id = id ∧ Sector.of? t.x t.y t.z = some t.sector) ∧
    (∀ (id : Nat) (t : StarSystem), s.atlas.systems[id]? = some t →
      ∃ ids : List Nat, s.atlas.sectors[t.sector]? = some ids ∧ ids.count id = 1) ∧
    (∀ (id : Nat) (t : StarSystem) (sector : Sector) (ids : List Nat), s.atlas.systems[id]? = some t →
      s.atlas.sectors[sector]? = some ids → id ∈ ids → sector = t.sector) ∧
    (∀ (sector : Sector) (ids : List Nat), s.atlas.sectors[sector]? = some ids →
      ids ≠ [] ∧ ∀ id ∈ ids, ∃ t : StarSystem, s.atlas.systems[id]? = some t) ∧
    (∀ (key : String) (id : Nat), s.atlas.names[key]? = some id →
      ∃ t : StarSystem, s.atlas.systems[id]? = some t ∧ Text.lower t.name = key) ∧
    s.atlas.stationCount = (s.atlas.systemList.map fun t => t.stations.size).sum ∧
    (∀ (id : Nat) (t : StarSystem), s.atlas.systems[id]? = some t → t.stations.size ≤ s.atlas.stationCount) := by
  have h := hs.consistent
  have hbucket {sector : Sector} {ids : List Nat} (hids : s.atlas.sectors[sector]? = some ids) :
      s.atlas.bucket sector = ids := by
    rw [Atlas.bucket, hids]
    rfl
  refine ⟨fun id t ht => ⟨h.keyed ht, h.placed ht⟩, fun id t ht => ?_, fun id t sector ids ht hids hid => ?_,
    fun sector ids hids => ⟨h.noEmptyBucket sector ids hids, fun id hid => ?_⟩, fun key id hid => h.named hid, ?_,
    fun id t ht => h.size_le_stationCount ht⟩
  · have hmem : id ∈ s.atlas.bucket t.sector := (h.mem_bucket_iff ht).2 rfl
    cases hids : s.atlas.sectors[t.sector]? with
    | none => simp [Atlas.bucket, hids] at hmem
    | some ids =>
      rw [hbucket hids] at hmem
      exact ⟨ids, rfl, List.count_eq_one_of_mem (hbucket hids ▸ h.bucket_nodup t.sector) hmem⟩
  · exact ((h.mem_bucket_iff ht).1 (hbucket hids ▸ hid)).symm
  · obtain ⟨t, ht, -⟩ := h.mem_bucket.1 (hbucket hids ▸ hid)
    exact ⟨t, ht⟩
  · rw [h.counted, stationTotal, Atlas.systemList, List.map_map]
    rfl

/-- A run in which a system loses its name to another one, moves to the next sector and is loaded over it. -/
def takenName : Store :=
  let zero : Binary64 := ⟨0⟩
  let hundred : Binary64 := ⟨0x4059000000000000⟩
  let s := (Store.empty.upsertSystem ⟨1, "Sol", zero, zero, zero, false⟩).2
  let s := (s.loadSystem ⟨2, "SOL", zero, zero, zero, ⟨9, 9, 9⟩, false, ∅⟩).2
  let s := (s.upsertSystem ⟨1, "Sol", hundred, zero, zero, true⟩).2
  (s.loadSystem ⟨2, "SOL", hundred, zero, zero, ⟨0, 0, 0⟩, false, ∅⟩).2

theorem takenName_parts_agree :
    takenName.Reachable ∧ takenName.atlas.names["sol"]? = some 2 ∧
      (∃ t : StarSystem, takenName.atlas.systems[2]? = some t ∧ Text.lower t.name = "sol") ∧
      takenName.atlas.sectors[(⟨1, 0, 0⟩ : Sector)]? = some [1, 2] ∧
      ∀ id ∈ [1, 2], ∃ t : StarSystem, takenName.atlas.systems[id]? = some t := by
  have hs : takenName.Reachable := .loadSystem _ (.upsertSystem _ (.loadSystem _ (.upsertSystem _ .empty)))
  have hname : takenName.atlas.names["sol"]? = some 2 := by decide +kernel
  have hbucket : takenName.atlas.sectors[(⟨1, 0, 0⟩ : Sector)]? = some [1, 2] := by decide +kernel
  obtain ⟨-, -, -, hids, hnamed, -⟩ := reachable_parts_agree hs
  exact ⟨hs, hname, hnamed _ _ hname, hbucket, (hids _ _ hbucket).2⟩

end Store

end StationFinder
