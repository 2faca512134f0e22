import StationFinder.Proofs.Snapshot.Repeated

/-!
# Reports about systems

The exact effect of one report about a system. A report about a system that is not stored creates it, or is refused if
the place is out of range. A stored system takes up name, permit and place each on its own: a place out of range is
passed over, and name and permit are taken up nevertheless. The outcome tells what is stored afterwards
(`Store.outcome_upsertSystem`), the tally counts a report as dropped exactly if its place is out of range
(`Store.tally_upsertSystem`), and a name that the system takes leads to it while one that it leaves does not. All of it
is put together in `Store.report_takes_effect`.
-/

namespace StationFinder

namespace Store

variable {s : Store} {system : StarSystem} {r : SystemReport}

/-! ### The outcome -/

/-- What an outcome of a report tells: what is stored under the id of the report, or that nothing changed. -/
def Tells (s after : Store) (id : Nat) : SystemOutcome → Prop
  | .created t => s.atlas.systems[id]? = none ∧ after.atlas.systems[id]? = some t
  | .updated t => ∃ before, s.atlas.systems[id]? = some before ∧ t ≠ before ∧ after.atlas.systems[id]? = some t
  | .unchanged => (s.atlas.systems[id]?).isSome ∧ after.atlas = s.atlas
  | .outOfRange => s.atlas.systems[id]? = none ∧ after.atlas = s.atlas

theorem outcome_upsertSystem (s : Store) (r : SystemReport) :
    Tells s (s.upsertSystem r).2 r.id (s.upsertSystem r).1 := by
  have hafter := getElem?_systems_upsertSystem s r r.id
  rw [if_pos rfl] at hafter
  cases hstored : s.atlas.systems[r.id]? with
  | none =>
    cases hsector : r.sector? with
    | none =>
      have hrefused : s.upsertSystem r = (.outOfRange, s.countDropped) := by rw [upsertSystem, hstored, hsector]
      rw [hrefused]
      exact ⟨hstored, rfl⟩
    | some sector =>
      have hcreated : (s.upsertSystem r).1 = .created (r.toSystem sector) := by rw [upsertSystem, hstored, hsector]
      rw [hcreated]
      refine ⟨hstored, ?_⟩
      rw [hafter, hstored, settle, hsector, Option.map_some]
  | some system =>
    have hrevise : s.upsertSystem r = s.reviseSystem system r := by rw [upsertSystem, hstored]
    rcases reviseSystem_cases s system r with ⟨-, hcase⟩ | ⟨hnews, hcase⟩
    · rw [hrevise, hcase]
      exact ⟨by rw [hstored, Option.isSome_some], atlas_countRefused s system r⟩
    · have hupdated : (s.upsertSystem r).1 = .updated (afterReport system r) := by rw [hrevise, hcase]
      rw [hupdated]
      refine ⟨system, hstored, hasNews_iff.1 hnews, ?_⟩
      rw [hafter, hstored, settle]

/-! ### The counts -/

/-- A report counts as dropped exactly if its place is out of range. A stored system is in range, and so that place is
another one. -/
theorem tally_upsertSystem (h : s.atlas.Consistent) (r : SystemReport) :
    (s.upsertSystem r).2.tally =
      { s.tally with systemsDropped := s.tally.systemsDropped + if r.inRange then 0 else 1 } := by
  unfold upsertSystem SystemReport.inRange
  cases hstored : s.atlas.systems[r.id]? with
  | none => cases r.sector? <;> rfl
  | some system =>
    dsimp only
    rw [tally_reviseSystem, countRefused, destination?]
    cases hat : system.isAt r with
    | true =>
      rw [SystemReport.sector?_of_isAt hat, h.placed hstored]
      rfl
    | false => cases r.sector? <;> rfl

theorem stationCount_upsertSystem (s : Store) (r : SystemReport) :
    (s.upsertSystem r).2.atlas.stationCount = s.atlas.stationCount := by
  unfold upsertSystem
  cases s.atlas.systems[r.id]? with
  | none => cases r.sector? <;> rfl
  | some system =>
    dsimp only
    rcases atlas_reviseSystem s system r with ⟨hatlas, -⟩ | hatlas
    · rw [hatlas]
    · rw [hatlas, reviseAtlas, Atlas.replace, Atlas.relocate]
      split <;> split <;> rfl

/-! ### The names -/

/-- A report creates a system, or brings another name than the one that it has. -/
theorem names_reported_iff :
    s.Names (.reported r) ↔
      (s.atlas.systems[r.id]? = none ∧ r.inRange = true) ∨
        ∃ before, s.atlas.systems[r.id]? = some before ∧ before.name ≠ r.name := by
  unfold Names SystemReport.inRange
  cases hstored : s.atlas.systems[r.id]? with
  | none => simp [hstored]
  | some before => simp [hstored]

/-- A name that a report gives to its system leads there. -/
theorem idNamed?_upsertSystem (h : s.Names (.reported r)) {name : String}
    (hname : Text.lower name = Text.lower r.name) : (s.upsertSystem r).2.atlas.idNamed? name = some r.id := by
  rw [Atlas.idNamed?, hname]
  exact ((hear_names_or_keeps s (.reported r)).resolve_right fun hkeeps => hkeeps.1 h).1

/-- The name that a system had does not lead to it any more. -/
theorem idNamed?_upsertSystem_ne (hstored : s.atlas.systems[r.id]? = some system) {name : String}
    (hold : Text.lower name = Text.lower system.name) (hname : Text.lower name ≠ Text.lower r.name) :
    (s.upsertSystem r).2.atlas.idNamed? name ≠ some r.id := by
  have hkey : (SystemNews.reported r).key ≠ Text.lower name := hname.symm
  have hnamed : s.IsNamed r.id (Text.lower name) := by rw [IsNamed, hstored, Option.map_some, StarSystem.key, hold]
  change (s.hear (.reported r)).atlas.names[Text.lower name]? ≠ some r.id
  rw [names_hear hkey]
  split
  · exact (Option.some_ne_none r.id).symm
  · next hkept => exact fun hleads => hkept ⟨hkey, .inr ⟨hnamed, hleads⟩⟩

/-- Names that the system neither has nor takes lead where they led. -/
theorem idNamed?_upsertSystem_of_ne {name : String}
    (hold : ∀ before, s.atlas.systems[r.id]? = some before → Text.lower name ≠ Text.lower before.name)
    (hname : Text.lower name ≠ Text.lower r.name) :
    (s.upsertSystem r).2.atlas.idNamed? name = s.atlas.idNamed? name := by
  have hkey : (SystemNews.reported r).key ≠ Text.lower name := hname.symm
  change (s.hear (.reported r)).atlas.names[Text.lower name]? = _
  rw [names_hear hkey, if_neg]
  · rfl
  · rintro ⟨-, hdisplaces | ⟨hnamed, -⟩⟩
    · exact hdisplaces
    · obtain ⟨before, hbefore, hkey⟩ := Option.map_eq_some_iff.1 hnamed
      exact hold before hbefore hkey.symm

/-! ### The same report once more -/

/-- A report is refused exactly if nothing is stored under its id afterwards. -/
theorem outcome_eq_outOfRange_iff (s : Store) (r : SystemReport) :
    (s.upsertSystem r).1 = .outOfRange ↔ (s.upsertSystem r).2.atlas.systems[r.id]? = none := by
  have htells := outcome_upsertSystem s r
  cases houtcome : (s.upsertSystem r).1 with
  | created t =>
    rw [houtcome] at htells
    simp [htells.2]
  | updated t =>
    rw [houtcome] at htells
    obtain ⟨_, _, _, ht⟩ := htells
    simp [ht]
  | unchanged =>
    rw [houtcome] at htells
    obtain ⟨system, hstored⟩ := Option.isSome_iff_exists.1 htells.1
    simp [htells.2, hstored]
  | outOfRange =>
    rw [houtcome] at htells
    simp [htells.2, htells.1]

/-- A report that says nothing new neither creates a system nor changes one. -/
theorem outcome_of_knowsSystem (h : s.atlas.KnowsSystem r) :
    (s.upsertSystem r).1 = .unchanged ∨ (s.upsertSystem r).1 = .outOfRange := by
  have hatlas : (s.upsertSystem r).2.atlas = s.atlas := (upsertSystem_of_knowsSystem h .zero).1
  have htells := outcome_upsertSystem s r
  cases houtcome : (s.upsertSystem r).1 with
  | created t =>
    rw [houtcome, Tells, hatlas] at htells
    exact absurd (htells.1.symm.trans htells.2) nofun
  | updated t =>
    rw [houtcome, Tells, hatlas] at htells
    obtain ⟨before, hbefore, hdiffers, ht⟩ := htells
    exact absurd (Option.some.inj (ht.symm.trans hbefore)) hdiffers
  | unchanged => exact .inl rfl
  | outOfRange => exact .inr rfl

/-- A report that was just taken in changes nothing when it comes again. If it was refused it is refused again. -/
theorem upsertSystem_again (s : Store) (r : SystemReport) :
    let once := s.upsertSystem r
    let again := once.2.upsertSystem r
    again.2.atlas = once.2.atlas ∧ (once.1 = .outOfRange → again.1 = .outOfRange) ∧
      (once.1 ≠ .outOfRange → again.1 = .unchanged) := by
  dsimp only
  have hknows := knowsSystem_upsertSystem s r
  have hatlas : ((s.upsertSystem r).2.upsertSystem r).2.atlas = (s.upsertSystem r).2.atlas :=
    (upsertSystem_of_knowsSystem hknows .zero).1
  have hrefused : ((s.upsertSystem r).2.upsertSystem r).1 = .outOfRange ↔ (s.upsertSystem r).1 = .outOfRange := by
    rw [outcome_eq_outOfRange_iff, outcome_eq_outOfRange_iff, hatlas]
  exact ⟨hatlas, hrefused.2, fun honce => (outcome_of_knowsSystem hknows).resolve_right (mt hrefused.1 honce)⟩

/-! ### All together -/

/-- **The exact effect of a report about a system.** The outcome carries the system that is stored under the id
afterwards, or else the atlas is as it was. Where nothing was stored, a report in range creates the system. A system
that was stored takes up the name, the permit and, if it is another one in range, the place; it keeps its stations. No
other system changes. A name that the system is given leads to it, one that it had and that is spelled otherwise does
not, and all others lead where they led. A place out of range is counted as dropped. The same report once more changes
nothing. -/
theorem report_takes_effect {s : Store} (hs : s.Reachable) (r : SystemReport) :
    let outcome := (s.upsertSystem r).1
    let after := (s.upsertSystem r).2
    let again := after.upsertSystem r
    Tells s after r.id outcome ∧
    (match s.atlas.systems[r.id]? with
      | none => after.atlas.systems[r.id]? = r.sector?.map r.toSystem
      | some before => ∃ t, after.atlas.systems[r.id]? = some t ∧ t.id = r.id ∧ t.name = r.name ∧
          t.needsPermit = r.needsPermit ∧ t.stations = before.stations ∧
          if !before.isAt r && r.inRange then t.x = r.x ∧ t.y = r.y ∧ t.z = r.z ∧ r.sector? = some t.sector
          else t.x = before.x ∧ t.y = before.y ∧ t.z = before.z ∧ t.sector = before.sector) ∧
    (∀ id, id ≠ r.id → after.atlas.systems[id]? = s.atlas.systems[id]?) ∧
    after.atlas.stationCount = s.atlas.stationCount ∧
    (((∃ t, outcome = .created t) ∨ ∃ before, s.atlas.systems[r.id]? = some before ∧ before.name ≠ r.name) →
      ∀ name, Text.lower name = Text.lower r.name →
        after.atlas.idNamed? name = some r.id ∧ after.atlas.systemNamed? name = after.atlas.systems[r.id]?) ∧
    (∀ before, s.atlas.systems[r.id]? = some before → Text.lower before.name ≠ Text.lower r.name →
      ∀ name, Text.lower name = Text.lower before.name → after.atlas.idNamed? name ≠ some r.id) ∧
    (∀ name, Text.lower name ≠ Text.lower r.name →
      (∀ before, s.atlas.systems[r.id]? = some before → Text.lower name ≠ Text.lower before.name) →
      after.atlas.idNamed? name = s.atlas.idNamed? name) ∧
    after.tally = { s.tally with systemsDropped := s.tally.systemsDropped + if r.inRange then 0 else 1 } ∧
    (outcome = .outOfRange → again.1 = .outOfRange) ∧ (outcome ≠ .outOfRange → again.1 = .unchanged) ∧
    again.2.atlas = after.atlas ∧
    again.2.tally = { after.tally with systemsDropped := again.2.tally.systemsDropped } := by
  have h := hs.consistent
  have hafter := (hs.upsertSystem r).consistent
  have hstored := getElem?_systems_upsertSystem s r r.id
  rw [if_pos rfl] at hstored
  obtain ⟨hatlas, hrefused, hunchanged⟩ := upsertSystem_again s r
  refine ⟨outcome_upsertSystem s r, ?_, fun id hid => ?_, stationCount_upsertSystem s r, fun hnames name hname => ?_,
    fun before hbefore hdiffer name hold => ?_, fun name hname hold => idNamed?_upsertSystem_of_ne hold hname,
    tally_upsertSystem h r, hrefused, hunchanged, hatlas, ?_⟩
  · cases hbefore : s.atlas.systems[r.id]? with
    | none => rw [hstored, hbefore, settle]
    | some before =>
      refine ⟨afterReport before r, ?_, ?_, name_afterReport before r, needsPermit_afterReport before r,
        stations_afterReport before r, place_afterReport before r⟩
      · rw [hstored, hbefore, settle]
      · rw [id_afterReport, h.keyed hbefore]
  · rw [getElem?_systems_upsertSystem, if_neg hid.symm]
  · have hid : (s.upsertSystem r).2.atlas.idNamed? name = some r.id := by
      refine idNamed?_upsertSystem (names_reported_iff.2 (hnames.imp_left ?_)) hname
      rintro ⟨t, ht⟩
      have htells := outcome_upsertSystem s r
      rw [ht] at htells
      rw [htells.1, settle, htells.2] at hstored
      obtain ⟨sector, hsector, -⟩ := Option.map_eq_some_iff.1 hstored.symm
      exact ⟨htells.1, Option.isSome_iff_exists.2 ⟨sector, hsector⟩⟩
    rw [Atlas.systemNamed?, hid, Option.bind_some]
    exact ⟨rfl, rfl⟩
  · exact idNamed?_upsertSystem_ne hbefore hold (hold ▸ hdiffer)
  · rw [tally_upsertSystem hafter r]

/-- A report with another name and another permit, but a place out of range. -/
def strayingSonne : SystemReport := ⟨1, "Sonne", ⟨0x40F86A0000000000⟩, ⟨0⟩, ⟨0⟩, true⟩

theorem sonne_stays :
    solAlone.Reachable ∧ strayingSonne.inRange = false ∧
      (∃ t, (solAlone.upsertSystem strayingSonne).2.atlas.systems[1]? = some t ∧ t.name = "Sonne" ∧
        t.needsPermit = true ∧ t.x = ⟨0⟩ ∧ t.y = ⟨0⟩ ∧ t.z = ⟨0⟩ ∧ t.sector = ⟨0, 0, 0⟩) ∧
      (solAlone.upsertSystem strayingSonne).2.atlas.idNamed? "SONNE" = some 1 ∧
      (solAlone.upsertSystem strayingSonne).2.atlas.idNamed? "sol" ≠ some 1 ∧
      (solAlone.upsertSystem strayingSonne).2.tally.systemsDropped = 1 ∧
      ((solAlone.upsertSystem strayingSonne).2.upsertSystem strayingSonne).2.atlas =
        (solAlone.upsertSystem strayingSonne).2.atlas := by
  have hs : solAlone.Reachable := .upsertSystem _ .empty
  have hout : strayingSonne.inRange = false := by decide +kernel
  let sol : SystemReport := ⟨1, "Sol", ⟨0⟩, ⟨0⟩, ⟨0⟩, false⟩
  have hsol : solAlone.atlas.systems[strayingSonne.id]? = some (sol.toSystem ⟨0, 0, 0⟩) := rfl
  have hrename : sol.name ≠ strayingSonne.name := by decide
  obtain ⟨-, hid, -, -, hnamed, hunnamed, -, htally, -, -, hagain, -⟩ := report_takes_effect hs strayingSonne
  rw [hsol] at hid
  obtain ⟨t, ht, -, hname, hpermit, -, hplace⟩ := hid
  rw [hout, Bool.and_false, if_neg Bool.false_ne_true] at hplace
  refine ⟨hs, hout, ⟨t, ht, hname, hpermit, hplace⟩, ?_, ?_, ?_, hagain⟩
  · exact (hnamed (.inr ⟨_, hsol, hrename⟩) "SONNE" (by decide +kernel)).1
  · exact hunnamed _ hsol (by decide +kernel) "sol" (by decide +kernel)
  · rw [htally, hout]
    rfl

end Store

end StationFinder
