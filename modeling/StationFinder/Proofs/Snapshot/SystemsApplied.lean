import StationFinder.Proofs.Galaxy.Geometry
import StationFinder.Proofs.Galaxy.Naming
import StationFinder.Snapshot.Summary

/-!
# Snapshots of systems

The records of a snapshot are applied one after the other, and each changes what is stored under its own id only. So
what becomes of an id depends on the records for it alone (`Store.getElem?_systems_applySystems`). As long as nothing is
stored under it, records out of range are dropped; the first record in range creates the system, and every later one
brings it in line with itself, except that it does not move out of range. In the end the last record decides on name and
permit, and the last record in range on the place (`Store.last_record_counts`).
-/

namespace StationFinder

/-! ### Records and places -/

namespace SystemReport

/-- Is the reported place in range? -/
def inRange (r : SystemReport) : Bool := r.sector?.isSome

/-- A system at the very coordinates of a record in range is where the record says. -/
theorem isAt_of_inRange {r : SystemReport} (h : r.inRange = true) {system : StarSystem} (hx : system.x = r.x)
    (hy : system.y = r.y) (hz : system.z = r.z) : system.isAt r = true := by
  obtain ⟨sector, hsector⟩ := Option.isSome_iff_exists.1 h
  obtain ⟨hrx, hry, hrz⟩ := Sector.of?_eq_some_iff.1 hsector
  rw [StarSystem.isAt, hx, hy, hz, Binary64.sameNumber_self (Sector.isNaN_of_axisPlace? hrx),
    Binary64.sameNumber_self (Sector.isNaN_of_axisPlace? hry),
    Binary64.sameNumber_self (Sector.isNaN_of_axisPlace? hrz)]
  rfl

/-- Where a system is as a record says, it is in the sector that the record says. -/
theorem sector?_of_isAt {r : SystemReport} {system : StarSystem} (h : system.isAt r = true) :
    r.sector? = Sector.of? system.x system.y system.z := by
  simp only [StarSystem.isAt, Bool.and_eq_true] at h
  obtain ⟨⟨hx, hy⟩, hz⟩ := h
  rw [sector?, Sector.of?, Sector.of?, Sector.axisPlace?_congr hx, Sector.axisPlace?_congr hy,
    Sector.axisPlace?_congr hz]

end SystemReport

namespace Store

/-- A system that moves goes to the place of the record, which is in range; any other stays where it is. -/
theorem place_afterReport (system : StarSystem) (r : SystemReport) :
    let t := afterReport system r
    if !system.isAt r && r.inRange then t.x = r.x ∧ t.y = r.y ∧ t.z = r.z ∧ r.sector? = some t.sector
    else t.x = system.x ∧ t.y = system.y ∧ t.z = system.z ∧ t.sector = system.sector := by
  dsimp only
  rw [afterReport, destination?, SystemReport.inRange]
  cases system.isAt r with
  | true => exact ⟨rfl, rfl, rfl, rfl⟩
  | false =>
    cases r.sector? with
    | none => exact ⟨rfl, rfl, rfl, rfl⟩
    | some sector => exact ⟨rfl, rfl, rfl, rfl⟩

/-- A record out of range leaves a system where it is. -/
theorem place_afterReport_of_not_inRange {r : SystemReport} (h : r.inRange = false) (system : StarSystem) :
    (afterReport system r).x = system.x ∧ (afterReport system r).y = system.y ∧
      (afterReport system r).z = system.z := by
  have hplace := place_afterReport system r
  rw [h, Bool.and_false, if_neg Bool.false_ne_true] at hplace
  obtain ⟨hx, hy, hz, -⟩ := hplace
  exact ⟨hx, hy, hz⟩

/-- A record in range brings a system to its place. -/
theorem isAt_afterReport_of_inRange {r : SystemReport} (h : r.inRange = true) (system : StarSystem) :
    (afterReport system r).isAt r = true := by
  have hplace := place_afterReport system r
  cases hat : system.isAt r with
  | true =>
    rw [hat, Bool.not_true, Bool.false_and, if_neg Bool.false_ne_true] at hplace
    obtain ⟨hx, hy, hz, -⟩ := hplace
    rw [StarSystem.isAt, hx, hy, hz]
    exact hat
  | false =>
    rw [hat, h, Bool.not_false, Bool.and_true, if_pos rfl] at hplace
    obtain ⟨hx, hy, hz, -⟩ := hplace
    exact SystemReport.isAt_of_inRange h hx hy hz

@[simp] theorem needsPermit_afterReport (system : StarSystem) (r : SystemReport) :
    (afterReport system r).needsPermit = r.needsPermit := by
  unfold afterReport revisedSystem
  split <;> rfl

/-- A record has nothing to change in the system that it creates. -/
theorem afterReport_toSystem {r : SystemReport} {sector : Sector} (h : r.sector? = some sector) :
    afterReport (r.toSystem sector) r = r.toSystem sector := by
  have hin : r.inRange = true := Option.isSome_iff_exists.2 ⟨sector, h⟩
  have hat : (r.toSystem sector).isAt r = true := SystemReport.isAt_of_inRange hin rfl rfl rfl
  rw [afterReport, destination?, hat]
  rfl

/-! ### What records do to a stored system -/

/-- A stored system after a series of records for it. -/
def afterReports (system : StarSystem) (records : List SystemReport) : StarSystem := records.foldl afterReport system

theorem afterReports_concat (system : StarSystem) (records : List SystemReport) (r : SystemReport) :
    afterReports system (records ++ [r]) = afterReport (afterReports system records) r := by
  simp [afterReports]

/-- Records leave the id and the stations of a system alone, and its sector stays that of its place. -/
theorem id_afterReports (system : StarSystem) (records : List SystemReport) :
    (afterReports system records).id = system.id ∧ (afterReports system records).stations = system.stations := by
  induction records using List.reverseRecOn with
  | nil => exact ⟨rfl, rfl⟩
  | append_singleton records r ih =>
    rw [afterReports_concat, id_afterReport, stations_afterReport]
    exact ih

theorem placed_afterReports {system : StarSystem} (records : List SystemReport)
    (h : Sector.of? system.x system.y system.z = some system.sector) :
    Sector.of? (afterReports system records).x (afterReports system records).y (afterReports system records).z =
      some (afterReports system records).sector := by
  induction records using List.reverseRecOn with
  | nil => exact h
  | append_singleton records r ih =>
    rw [afterReports_concat]
    exact placed_afterReport r ih

/-- The last record decides on name and permit. -/
theorem name_afterReports (system : StarSystem) {records : List SystemReport} {last : SystemReport}
    (h : records.getLast? = some last) :
    (afterReports system records).name = last.name ∧
      (afterReports system records).needsPermit = last.needsPermit := by
  obtain ⟨earlier, rfl⟩ := List.getLast?_eq_some_iff.1 h
  rw [afterReports_concat, name_afterReport, needsPermit_afterReport]
  exact ⟨rfl, rfl⟩

/-- Records out of range leave a system where it is. -/
theorem place_afterReports (system : StarSystem) {records : List SystemReport}
    (h : records.filter SystemReport.inRange = []) :
    (afterReports system records).x = system.x ∧ (afterReports system records).y = system.y ∧
      (afterReports system records).z = system.z := by
  induction records using List.reverseRecOn with
  | nil => exact ⟨rfl, rfl, rfl⟩
  | append_singleton records r ih =>
    rw [List.filter_append, List.append_eq_nil_iff] at h
    obtain ⟨hrecords, hr⟩ := h
    have hout : r.inRange = false := by simpa using hr
    obtain ⟨hx, hy, hz⟩ := place_afterReport_of_not_inRange hout (afterReports system records)
    obtain ⟨hx', hy', hz'⟩ := ih hrecords
    rw [afterReports_concat]
    exact ⟨hx.trans hx', hy.trans hy', hz.trans hz'⟩

/-- The last record in range decides on the place. -/
theorem isAt_afterReports (system : StarSystem) {records : List SystemReport} {last : SystemReport}
    (h : (records.filter SystemReport.inRange).getLast? = some last) :
    (afterReports system records).isAt last = true := by
  induction records using List.reverseRecOn with
  | nil => cases h
  | append_singleton records r ih =>
    rw [afterReports_concat]
    rw [List.filter_append] at h
    cases hr : r.inRange with
    | true =>
      rw [List.filter_cons_of_pos hr, List.filter_nil, List.getLast?_append, List.getLast?_singleton,
        Option.some_or, Option.some.injEq] at h
      rw [← h]
      exact isAt_afterReport_of_inRange hr _
    | false =>
      rw [List.filter_cons_of_neg (by simp [hr]), List.filter_nil, List.append_nil] at h
      obtain ⟨hx, hy, hz⟩ := place_afterReport_of_not_inRange hr (afterReports system records)
      rw [StarSystem.isAt, hx, hy, hz]
      exact ih h

/-! ### What records do to an id -/

theorem applySystems_concat (s : Store) (records : List SystemReport) (r : SystemReport) :
    s.applySystems (records ++ [r]) = applySystem (s.applySystems records) r := by
  simp [applySystems]

/-- What becomes of an id depends on the records for it alone. -/
theorem getElem?_systems_applySystems (s : Store) (records : List SystemReport) (id : Nat) :
    (s.applySystems records).2.atlas.systems[id]? =
      (records.filter (·.id = id)).foldl settle s.atlas.systems[id]? := by
  induction records using List.reverseRecOn with
  | nil => rfl
  | append_singleton records r ih =>
    rw [applySystems_concat, applySystem, getElem?_systems_upsertSystem, ih, List.filter_append, List.foldl_append]
    by_cases hid : r.id = id
    · rw [if_pos hid, List.filter_cons_of_pos (by simpa using hid)]
      rfl
    · rw [if_neg hid, List.filter_cons_of_neg (by simpa using hid)]
      rfl

theorem foldl_settle_some (system : StarSystem) (records : List SystemReport) :
    records.foldl settle (some system) = some (afterReports system records) := by
  induction records generalizing system with
  | nil => rfl
  | cons r records ih => exact ih (afterReport system r)

/-- Where nothing is stored, records out of range are dropped until one creates the system, which is in line with it. -/
theorem foldl_settle_none (records : List SystemReport) :
    records.foldl settle none =
      match records.dropWhile (!·.inRange) with
      | [] => none
      | r :: later => r.sector?.map fun sector => afterReports (r.toSystem sector) (r :: later) := by
  induction records with
  | nil => rfl
  | cons r records ih =>
    rw [List.foldl_cons, settle]
    cases hsector : r.sector? with
    | none =>
      have hout : r.inRange = false := by rw [SystemReport.inRange, hsector, Option.isSome_none]
      rw [List.dropWhile_cons_of_pos (by simp [hout])]
      exact ih
    | some sector =>
      have hin : r.inRange = true := by rw [SystemReport.inRange, hsector, Option.isSome_some]
      rw [List.dropWhile_cons_of_neg (by simp [hin])]
      change _ = r.sector?.map fun sector => (r :: records).foldl afterReport (r.toSystem sector)
      rw [hsector, Option.map_some, Option.map_some, foldl_settle_some, List.foldl_cons,
        afterReport_toSystem hsector]
      rfl

/-- The records for an id that count. Where nothing is stored under it, those before the first one in range do not. -/
def counting (s : Store) (id : Nat) (records : List SystemReport) : List SystemReport :=
  let own := records.filter (·.id = id)
  if id ∈ s.atlas.systems then own else own.dropWhile (!·.inRange)

theorem counting_of_stored {s : Store} {id : Nat} {system : StarSystem} (h : s.atlas.systems[id]? = some system)
    (records : List SystemReport) : s.counting id records = records.filter (·.id = id) := by
  have hmem : id ∈ s.atlas.systems := by simp [Std.ExtTreeMap.mem_iff_isSome_getElem?, h]
  rw [counting, if_pos hmem]

theorem counting_of_not_stored {s : Store} {id : Nat} (h : s.atlas.systems[id]? = none)
    (records : List SystemReport) :
    s.counting id records = (records.filter (·.id = id)).dropWhile (!·.inRange) := by
  have hmem : id ∉ s.atlas.systems := by simp [Std.ExtTreeMap.mem_iff_isSome_getElem?, h]
  rw [counting, if_neg hmem]

/-- Where no record counts, nothing changes. -/
theorem systems_applySystems_of_counting_nil {s : Store} {records : List SystemReport} {id : Nat}
    (h : s.counting id records = []) :
    (s.applySystems records).2.atlas.systems[id]? = s.atlas.systems[id]? := by
  rw [getElem?_systems_applySystems]
  cases hstored : s.atlas.systems[id]? with
  | some before =>
    rw [counting_of_stored hstored] at h
    rw [h]
    rfl
  | none =>
    rw [counting_of_not_stored hstored] at h
    rw [foldl_settle_none, h]

/-- The system from which the records for an id start, and what they make of it. -/
theorem applySystems_of_counting {s : Store} (hs : s.atlas.Consistent) {records : List SystemReport} {id : Nat}
    (h : s.counting id records ≠ []) :
    ∃ start : StarSystem, start.id = id ∧ Sector.of? start.x start.y start.z = some start.sector ∧
      (s.applySystems records).2.atlas.systems[id]? = some (afterReports start (s.counting id records)) ∧
      match s.atlas.systems[id]? with
      | some before => start = before
      | none => start.stations = ∅ ∧ (s.counting id records).filter SystemReport.inRange ≠ [] := by
  rw [getElem?_systems_applySystems]
  cases hstored : s.atlas.systems[id]? with
  | some before =>
    refine ⟨before, hs.keyed hstored, hs.placed hstored, ?_, rfl⟩
    rw [counting_of_stored hstored, foldl_settle_some]
  | none =>
    rw [counting_of_not_stored hstored] at h ⊢
    rw [foldl_settle_none]
    cases hkept : (records.filter (·.id = id)).dropWhile (!·.inRange) with
    | nil => exact absurd hkept h
    | cons r later =>
      have hfirst : r ∈ (records.filter (·.id = id)).dropWhile (!·.inRange) := by
        rw [hkept]
        exact List.mem_cons_self
      have hown : r ∈ records.filter (·.id = id) := (List.dropWhile_sublist _).subset hfirst
      have hin : r.inRange = true := by
        simpa [hkept] using List.head_dropWhile_not (fun r : SystemReport => !r.inRange) h
      obtain ⟨sector, hsector⟩ := Option.isSome_iff_exists.1 hin
      refine ⟨r.toSystem sector, ?_, hsector, ?_, rfl, ?_⟩
      · change r.id = id
        simpa using (List.mem_filter.1 hown).2
      · change r.sector?.map _ = _
        rw [hsector, Option.map_some]
      · rw [List.filter_cons_of_pos hin]
        exact List.cons_ne_nil _ _

/-! ### Counting -/

/-- An outcome is counted once. -/
theorem total_addSystem (m : Summary) (o : SystemOutcome) :
    (m.addSystem o).created + (m.addSystem o).updated + (m.addSystem o).unchanged + (m.addSystem o).dropped =
      m.created + m.updated + m.unchanged + m.dropped + 1 := by
  cases o <;> simp only [Summary.addSystem] <;> omega

theorem total_applySystems (s : Store) (records : List SystemReport) :
    (s.applySystems records).1.created + (s.applySystems records).1.updated + (s.applySystems records).1.unchanged +
      (s.applySystems records).1.dropped = records.length := by
  induction records using List.reverseRecOn with
  | nil => rfl
  | append_singleton records r ih =>
    rw [applySystems_concat, applySystem, total_addSystem, ih, List.length_append, List.length_singleton]

/-- A report about a stored system creates none. -/
theorem created_addSystem_reviseSystem (s : Store) (m : Summary) (system : StarSystem) (r : SystemReport) :
    (m.addSystem (s.reviseSystem system r).1).created = m.created := by
  rcases reviseSystem_cases s system r with ⟨-, hrevise⟩ | ⟨-, hrevise⟩
  · rw [hrevise]
    rfl
  · rw [hrevise]
    rfl

/-- A system is counted as created exactly where there is one more of them. -/
theorem created_addSystem (s : Store) (m : Summary) (r : SystemReport) :
    (m.addSystem (s.upsertSystem r).1).created + s.atlas.systems.size =
      m.created + (s.upsertSystem r).2.atlas.systems.size := by
  unfold upsertSystem
  cases hstored : s.atlas.systems[r.id]? with
  | some system =>
    have hmem : r.id ∈ s.atlas.systems := Std.ExtTreeMap.mem_iff_isSome_getElem?.2 (by simp [hstored])
    dsimp only
    rw [created_addSystem_reviseSystem, systems_reviseSystem hstored, Std.ExtTreeMap.size_insert,
      if_pos (Std.ExtTreeMap.contains_iff_mem.2 hmem)]
  | none =>
    have hmem : r.id ∉ s.atlas.systems := by simp [Std.ExtTreeMap.mem_iff_isSome_getElem?, hstored]
    cases hsector : r.sector? with
    | none => rfl
    | some sector =>
      change m.created + 1 + s.atlas.systems.size = m.created + (s.atlas.systems.insert r.id _).size
      rw [Std.ExtTreeMap.size_insert, if_neg (mt Std.ExtTreeMap.contains_iff_mem.1 hmem)]
      omega

theorem size_applySystems (s : Store) (records : List SystemReport) :
    (s.applySystems records).2.atlas.systems.size = s.atlas.systems.size + (s.applySystems records).1.created := by
  induction records using List.reverseRecOn with
  | nil => rfl
  | append_singleton records r ih =>
    have hstep := created_addSystem (s.applySystems records).2 (s.applySystems records).1 r
    rw [applySystems_concat, applySystem]
    dsimp only
    omega

/-! ### The law -/

/-- **The last record counts.** What is stored under an id after a list of records is what was stored before, if no
record for it counts. Otherwise it is a system with the name and the permit of the last record that counts, at the place
of the last one in range, or where it was if there is none, in the sector of its place and with the stations that it had.
The summary counts every record once, and as created just as many systems as there are more of them. -/
theorem last_record_counts {s : Store} (hs : s.Reachable) (records : List SystemReport) :
    (∀ id : Nat,
      match (s.counting id records).getLast? with
      | none => (s.applySystems records).2.atlas.systems[id]? = s.atlas.systems[id]?
      | some last => ∃ t : StarSystem, (s.applySystems records).2.atlas.systems[id]? = some t ∧
          t.id = id ∧ t.name = last.name ∧ t.needsPermit = last.needsPermit ∧
          Sector.of? t.x t.y t.z = some t.sector ∧
          t.stations = (s.atlas.systems[id]?).elim ∅ StarSystem.stations ∧
          match ((s.counting id records).filter SystemReport.inRange).getLast? with
          | some placed => t.isAt placed = true ∧ placed.sector? = some t.sector
          | none => ∃ before : StarSystem, s.atlas.systems[id]? = some before ∧
              t.x = before.x ∧ t.y = before.y ∧ t.z = before.z ∧ t.sector = before.sector) ∧
    (∀ id : Nat, (∀ r ∈ records, r.id ≠ id) →
      (s.applySystems records).2.atlas.systems[id]? = s.atlas.systems[id]?) ∧
    (s.applySystems records).1.created + (s.applySystems records).1.updated + (s.applySystems records).1.unchanged +
      (s.applySystems records).1.dropped = records.length ∧
    (s.applySystems records).2.atlas.systems.size =
      s.atlas.systems.size + (s.applySystems records).1.created := by
  refine ⟨fun id => ?_, fun id hid => ?_, total_applySystems s records, size_applySystems s records⟩
  · cases hlast : (s.counting id records).getLast? with
    | none => exact systems_applySystems_of_counting_nil (List.getLast?_eq_none_iff.1 hlast)
    | some last =>
      have hsome : s.counting id records ≠ [] := by
        intro h
        rw [h] at hlast
        cases hlast
      obtain ⟨start, hid, hplace, hafter, hstart⟩ := applySystems_of_counting hs.consistent hsome
      obtain ⟨hname, hpermit⟩ := name_afterReports start hlast
      obtain ⟨hid', hstations⟩ := id_afterReports start (s.counting id records)
      have hplaced := placed_afterReports (s.counting id records) hplace
      refine ⟨_, hafter, hid'.trans hid, hname, hpermit, hplaced, ?_, ?_⟩
      · rw [hstations]
        cases hstored : s.atlas.systems[id]? with
        | some before =>
          rw [hstored] at hstart
          exact congrArg StarSystem.stations hstart
        | none =>
          rw [hstored] at hstart
          exact hstart.1
      · cases hin : ((s.counting id records).filter SystemReport.inRange).getLast? with
        | some placed =>
          have hat := isAt_afterReports start hin
          exact ⟨hat, (SystemReport.sector?_of_isAt hat).trans hplaced⟩
        | none =>
          rw [List.getLast?_eq_none_iff] at hin
          obtain ⟨hx, hy, hz⟩ := place_afterReports start hin
          cases hstored : s.atlas.systems[id]? with
          | none =>
            rw [hstored] at hstart
            exact absurd hin hstart.2
          | some before =>
            rw [hstored] at hstart
            subst hstart
            refine ⟨start, rfl, hx, hy, hz, ?_⟩
            rw [hx, hy, hz, hplace] at hplaced
            exact (Option.some.inj hplaced).symm
  · rw [getElem?_systems_applySystems, List.filter_eq_nil_iff.2 (by simpa using hid)]
    rfl

/-- A snapshot with a system that is known, one that is in range at its second record only, and one that never is. -/
def wanderers : List SystemReport :=
  let zero : Binary64 := ⟨0⟩
  let minusZero : Binary64 := ⟨0x8000000000000000⟩
  let hundred : Binary64 := ⟨0x4059000000000000⟩
  let far : Binary64 := ⟨0x40F86A0000000000⟩
  [⟨2, "Vega", far, zero, zero, false⟩, ⟨1, "Sonne", far, zero, zero, true⟩, ⟨2, "Vega", hundred, zero, zero, false⟩,
    ⟨3, "Deneb", far, zero, zero, false⟩, ⟨1, "Sun", minusZero, zero, zero, true⟩, ⟨2, "Wega", far, zero, zero, true⟩,
    ⟨2, "Wega", hundred, zero, zero, true⟩]

/-- A store with one system, at the middle of space. -/
def solAlone : Store := (Store.empty.upsertSystem ⟨1, "Sol", ⟨0⟩, ⟨0⟩, ⟨0⟩, false⟩).2

theorem wanderers_settle :
    solAlone.Reachable ∧
      (∃ t : StarSystem, (solAlone.applySystems wanderers).2.atlas.systems[1]? = some t ∧ t.name = "Sun" ∧
        t.needsPermit = true ∧ t.sector = ⟨0, 0, 0⟩) ∧
      (∃ t : StarSystem, (solAlone.applySystems wanderers).2.atlas.systems[2]? = some t ∧ t.name = "Wega" ∧
        t.needsPermit = true ∧ t.sector = ⟨1, 0, 0⟩) ∧
      (solAlone.applySystems wanderers).2.atlas.systems[3]? = solAlone.atlas.systems[3]? ∧
      (solAlone.applySystems wanderers).1 = ⟨1, 3, 1, 2, 0, 0, 0⟩ ∧
      (solAlone.applySystems wanderers).2.atlas.systems.size = solAlone.atlas.systems.size + 1 := by
  have hs : solAlone.Reachable := .upsertSystem _ .empty
  have hsummary : (solAlone.applySystems wanderers).1 = ⟨1, 3, 1, 2, 0, 0, 0⟩ := by decide +kernel
  obtain ⟨hids, -, -, hsize⟩ := last_record_counts hs wanderers
  have hfirst := hids 1
  have hsecond := hids 2
  have hthird := hids 3
  rw [show (solAlone.counting 1 wanderers).getLast? =
      some ⟨1, "Sun", ⟨0x8000000000000000⟩, ⟨0⟩, ⟨0⟩, true⟩ by decide +kernel,
    show ((solAlone.counting 1 wanderers).filter SystemReport.inRange).getLast? =
      some ⟨1, "Sun", ⟨0x8000000000000000⟩, ⟨0⟩, ⟨0⟩, true⟩ by decide +kernel] at hfirst
  rw [show (solAlone.counting 2 wanderers).getLast? =
      some ⟨2, "Wega", ⟨0x4059000000000000⟩, ⟨0⟩, ⟨0⟩, true⟩ by decide +kernel,
    show ((solAlone.counting 2 wanderers).filter SystemReport.inRange).getLast? =
      some ⟨2, "Wega", ⟨0x4059000000000000⟩, ⟨0⟩, ⟨0⟩, true⟩ by decide +kernel] at hsecond
  rw [show (solAlone.counting 3 wanderers).getLast? = none by decide +kernel] at hthird
  obtain ⟨t, ht, -, hname, hpermit, -, -, -, hsector⟩ := hfirst
  obtain ⟨u, hu, -, hname', hpermit', -, -, -, hsector'⟩ := hsecond
  rw [hsummary] at hsize
  refine ⟨hs, ⟨t, ht, hname, hpermit, ?_⟩, ⟨u, hu, hname', hpermit', ?_⟩, hthird, hsummary, hsize⟩
  · exact (Option.some.inj (hsector.symm.trans (by decide +kernel)))
  · exact (Option.some.inj (hsector'.symm.trans (by decide +kernel)))

end Store

end StationFinder
