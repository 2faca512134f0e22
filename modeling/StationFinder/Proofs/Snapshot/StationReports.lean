import StationFinder.Proofs.Galaxy.Stock
import StationFinder.Proofs.Snapshot.Repeated

/-!
# Reports about stations

The exact effect of one report about a station of a stored system, if the station has no stock without its flag and the
report gives no distance that is not a number. One rule says what becomes of each part of the station
(`Station.TakesUp`), and the station that a first report creates obeys it too, with nothing that was there before. A
stored station counts as updated, and gets a new stamp, exactly if some other part of it changes
(`Station.revised?_cases`). Nothing but the station changes, which is `Store.station_report_is_exact`.
-/

namespace StationFinder

namespace Station

variable {s t : Station} {previous : Option Station} {r : StationReport}

/-! ### What a station takes up -/

/-- Texts count as the same if they are so in small letters. -/
theorem sameText_iff {a b : Option String} :
    sameText a b = true ↔ a.map Text.asciiLower = b.map Text.asciiLower := by
  cases a <;> cases b <;> simp [sameText, Text.sameAscii_iff]

/-- A station agrees with a report, and has stock only under the flags that the report sets: the stock of the report, or
else the stock that was there before. -/
structure TakesUp (previous : Option Station) (r : StationReport) (t : Station) : Prop where
  name : t.name = r.name
  distance : sameDistance t.distanceToStar r.distanceToStar = true
  allegiance : t.allegiance.map Text.asciiLower = r.allegiance.map Text.asciiLower
  maxLandingPadSize : t.maxLandingPadSize.map Text.asciiLower = r.maxLandingPadSize.map Text.asciiLower
  kind : t.kind.map Text.asciiLower = r.kind.map Text.asciiLower
  hasShipyard : t.hasShipyard = r.hasShipyard
  hasOutfitting : t.hasOutfitting = r.hasOutfitting
  ships : t.ships = if r.hasShipyard then r.ships.or (previous.bind Station.ships) else none
  inventory : t.inventory =
    if r.hasOutfitting then r.inventory.getD (previous.elim .unknown Station.inventory) else .unknown

/-- The stamp is no part of what is taken up. -/
theorem TakesUp.stamped (h : TakesUp previous r t) (now : Nat) :
    TakesUp previous r { t with updatedAt := now } where
  name := h.name
  distance := h.distance
  allegiance := h.allegiance
  maxLandingPadSize := h.maxLandingPadSize
  kind := h.kind
  hasShipyard := h.hasShipyard
  hasOutfitting := h.hasOutfitting
  ships := h.ships
  inventory := h.inventory

theorem takesUp_ofReport (systemId : Nat) (hdistance : HasNumber r.distanceToStar) (now : Nat) :
    TakesUp none r (ofReport systemId r now) where
  name := rfl
  distance := sameDistance_self hdistance
  allegiance := rfl
  maxLandingPadSize := rfl
  kind := rfl
  hasShipyard := rfl
  hasOutfitting := rfl
  ships := by rw [Option.bind_none, Option.or_none]; rfl
  inventory := rfl

/-- Where there is no outfitting, nothing is known of the modules. -/
theorem IsFlagged.inventory_eq_unknown (h : s.IsFlagged) (hoff : s.hasOutfitting = false) : s.inventory = .unknown := by
  ext1 c
  rw [h.modules hoff c, Inventory.get_unknown]

/-- A station that was off before has no stock to be cleared, so that the stock need not be looked at. -/
theorem IsFlagged.takesUp_aligned (h : s.IsFlagged) (hdistance : HasNumber r.distanceToStar) :
    TakesUp (some s) r (s.aligned r) where
  name := rfl
  distance := same_settle (sameDistance_self hdistance)
  allegiance := sameText_iff.1 (same_settle (sameText_self _))
  maxLandingPadSize := sameText_iff.1 (same_settle (sameText_self _))
  kind := sameText_iff.1 (same_settle (sameText_self _))
  hasShipyard := rfl
  hasOutfitting := rfl
  ships := by
    rw [Station.aligned, Option.bind_some]
    dsimp only
    congr 1
    split
    · rfl
    · next hoff => exact h.ships (Bool.eq_false_iff.2 hoff)
  inventory := by
    rw [Station.aligned, Option.elim_some]
    dsimp only
    congr 1
    split
    · rfl
    · next hoff => exact h.inventory_eq_unknown (Bool.eq_false_iff.2 hoff)

/-! ### What counts as a change -/

/-- A distance that is a number is settled once it is kept. -/
theorem isInLine_iff (hdistance : HasNumber r.distanceToStar) : s.IsInLine r ↔ s.aligned r = s := by
  refine ⟨fun h => h.1, fun h => ⟨h, ?_⟩⟩
  have hkept : sameDistance (s.aligned r).distanceToStar r.distanceToStar = true :=
    same_settle (sameDistance_self hdistance)
  rwa [h] at hkept

/-- A report leaves a station as it was, stamp and all, or changes some other part and the stamp. -/
theorem revised?_cases (hdistance : HasNumber r.distanceToStar) (now : Nat) :
    s.revised? r now = none ∧ s.aligned r = s ∨
      s.revised? r now = some { s.aligned r with updatedAt := now } ∧ s.aligned r ≠ s := by
  by_cases hline : s.aligned r = s
  · exact .inl ⟨revised?_eq_none_iff.2 ((isInLine_iff hdistance).2 hline), hline⟩
  · refine .inr ⟨?_, hline⟩
    rw [revised?, if_neg fun h => hline h.1]

end Station

namespace Store

variable {s : Store} {systemId : Nat} {system : StarSystem} {r : StationReport}

/-- **The exact effect of a report about a station.** The station in the place of the report takes the report up; apart
from it, and from the count of stations where it is new, the atlas is as it was. A stored station keeps its ids, is
reported as updated exactly if some part of it other than the stamp has changed, and gets the stamp in that case and no
other. -/
theorem station_report_is_exact (hs : s.atlas.systems[systemId]? = some system)
    (hdistance : ∀ d, r.distanceToStar = some d → d.isNaN = false)
    (hflagged : ∀ before, system.stations[r.id]? = some before → before.IsFlagged) (now : Nat) :
    let outcome := (s.upsertStation systemId r now).1
    let after := (s.upsertStation systemId r now).2
    ∃ t : Station, Station.TakesUp system.stations[r.id]? r t ∧
      after.atlas =
        { s.atlas with
          systems := s.atlas.systems.insert systemId (system.withStation r.id t)
          stationCount := s.atlas.stationCount + if outcome = .created then 1 else 0 } ∧
      after.tally =
        { s.tally with stationUpdates := s.tally.stationUpdates + if outcome = .updated then 1 else 0 } ∧
      match system.stations[r.id]? with
      | none => outcome = .created ∧ t.id = r.id ∧ t.systemId = systemId ∧ t.updatedAt = now
      | some before => (outcome = .updated ∨ outcome = .unchanged) ∧ t.id = before.id ∧ t.systemId = before.systemId ∧
          (outcome = .updated ↔ { t with updatedAt := before.updatedAt } ≠ before) ∧
          t.updatedAt = if outcome = .updated then now else before.updatedAt := by
  dsimp only
  cases hstation : system.stations[r.id]? with
  | none =>
    rw [upsertStation_of_new hs hstation]
    exact ⟨.ofReport systemId r now, Station.takesUp_ofReport systemId hdistance now, rfl, rfl, rfl, rfl, rfl, rfl⟩
  | some before =>
    have htakes := (hflagged before hstation).takesUp_aligned hdistance
    rw [upsertStation_of_stored hs hstation]
    rcases Station.revised?_cases hdistance now with ⟨hrevised, hline⟩ | ⟨hrevised, hdiffers⟩
    · rw [hrevised]
      rw [hline] at htakes
      refine ⟨before, htakes, ?_, rfl, .inr rfl, rfl, rfl, iff_of_false nofun (not_not.2 rfl), rfl⟩
      rw [systems_insert_withStation_self hs hstation]
      rfl
    · rw [hrevised]
      exact ⟨_, htakes.stamped now, rfl, rfl, .inl rfl, rfl, rfl, iff_of_true rfl hdiffers, rfl⟩

/-- Galileo as it is stored, before the report below. -/
def galileoBefore : Station :=
  .ofReport 1 ⟨10, "Galileo", some ⟨0⟩, some "Federation", none, none, true, true, some (.ofList [.vulture]), none⟩ 7

/-- Galileo in other letters, without its shipyard, though the report still lists ships. -/
def closedShipyard : StationReport :=
  ⟨10, "Galileo", some ⟨0x8000000000000000⟩, some "FEDERATION", none, none, false, true, some (.ofList [.vulture]),
    none⟩

theorem galileo_closes_shipyard :
    ∃ system, galileoStored.atlas.systems[1]? = some system ∧ system.stations[10]? = some galileoBefore ∧
      galileoBefore.IsFlagged ∧ galileoBefore.sells .vulture = true ∧
      (galileoStored.upsertStation 1 closedShipyard 8).1 = .updated ∧
      ∃ t, (galileoStored.upsertStation 1 closedShipyard 8).2.atlas.systems =
          galileoStored.atlas.systems.insert 1 (system.withStation 10 t) ∧
        t.name = "Galileo" ∧ t.hasShipyard = false ∧ t.ships = none ∧ t.inventory = .unknown ∧ t.updatedAt = 8 := by
  let sol : SystemReport := ⟨1, "Sol", ⟨0⟩, ⟨0⟩, ⟨0⟩, false⟩
  let system : StarSystem := (sol.toSystem ⟨0, 0, 0⟩).withStation 10 galileoBefore
  have hs : galileoStored.atlas.systems[1]? = some system := rfl
  have hstation : system.stations[closedShipyard.id]? = some galileoBefore := Std.ExtTreeMap.getElem?_insert_self
  have hgalileo : galileoBefore.IsFlagged := Station.isFlagged_ofReport 1 _ 7
  have hdistance : ∀ d, closedShipyard.distanceToStar = some d → d.isNaN = false := by
    intro d hd
    rw [← Option.some.inj hd]
    decide +kernel
  have hflagged : ∀ before, system.stations[closedShipyard.id]? = some before → before.IsFlagged := by
    intro before hbefore
    rw [← Option.some.inj (hstation.symm.trans hbefore)]
    exact hgalileo
  have hupdated : (galileoStored.upsertStation 1 closedShipyard 8).1 = .updated := by decide +kernel
  obtain ⟨t, htakes, hatlas, -, hstored⟩ := station_report_is_exact hs hdistance hflagged 8
  rw [hstation] at hstored htakes
  obtain ⟨-, -, -, -, hstamp⟩ := hstored
  rw [if_pos hupdated] at hstamp
  exact ⟨system, hs, hstation, hgalileo, by decide +kernel, hupdated, t, congrArg Atlas.systems hatlas, htakes.name,
    htakes.hasShipyard, htakes.ships, htakes.inventory, hstamp⟩

end Store

end StationFinder
