import StationFinder.Proofs.Galaxy.Naming
import StationFinder.Proofs.Galaxy.Places

/-!
# Stock and flags

A station has a flag that says whether it has a shipyard and one that says whether it has outfitting. Stock that is
known without the flag of its kind would be offered though nobody sells it, so there must be none (`Station.IsFlagged`).
Reports clear the stock when they take a flag away, and the relay sets the flag when it brings stock: whatever happens
to a station keeps it so (`Station.keptByReports_isFlagged`).

What reports keep of one station, the operations of the store keep of all of them. Systems that are loaded bring their
stations along, so those have to be right from the start: the stores to which operations lead that load only systems
of a kind are told apart (`Store.ReachableLoading`), and `Store.ReachableLoading.allStations` is the induction.
-/

namespace StationFinder

@[simp] theorem Inventory.get_unknown (c : Category) : unknown.get c = none := by
  rw [unknown, get_ofFun]

namespace Station

/-- A station has stock of a kind only under the flag of that kind. -/
structure IsFlagged (s : Station) : Prop where
  ships : s.hasShipyard = false → s.ships = none
  modules : s.hasOutfitting = false → ∀ c : Category, s.inventory.get c = none

/-- A property of stations that a first report establishes, and that reports and the relay keep. -/
structure KeptByReports (P : Station → Prop) : Prop where
  ofReport : ∀ (systemId : Nat) (r : StationReport) (now : Nat), P (ofReport systemId r now)
  revised : ∀ {s t : Station} {r : StationReport} {now : Nat}, P s → s.revised? r now = some t → P t
  withShips : ∀ {s : Station} (ships : ShipSet) (now : Nat), P s → P { s.withShips ships with updatedAt := now }
  withModules : ∀ {s : Station} (update : Inventory) (now : Nat),
    P s → P { s.withModules update with updatedAt := now }

/-! ### What reports make of a station -/

/-- The stamp has nothing to do with the stock. -/
theorem IsFlagged.stamped {s : Station} (h : s.IsFlagged) (now : Nat) :
    ({ s with updatedAt := now } : Station).IsFlagged where
  ships := h.ships
  modules := h.modules

theorem isFlagged_ofReport (systemId : Nat) (r : StationReport) (now : Nat) : (ofReport systemId r now).IsFlagged where
  ships hflag := by
    change r.hasShipyard = false at hflag
    rw [ofReport, hflag, if_neg Bool.false_ne_true]
  modules hflag c := by
    change r.hasOutfitting = false at hflag
    rw [ofReport, hflag, if_neg Bool.false_ne_true, Inventory.get_unknown]

/-- A report that takes a flag away has the stock cleared, unless the flag was off before: then there was none. -/
theorem IsFlagged.aligned {s : Station} (h : s.IsFlagged) (r : StationReport) : (s.aligned r).IsFlagged where
  ships hflag := by
    change r.hasShipyard = false at hflag
    change (if r.hasShipyard then r.ships.or s.ships else if s.hasShipyard then none else s.ships) = none
    rw [hflag, if_neg Bool.false_ne_true]
    split
    · rfl
    · next hoff => exact h.ships (Bool.eq_false_iff.2 hoff)
  modules hflag c := by
    change r.hasOutfitting = false at hflag
    change Inventory.get (if r.hasOutfitting then r.inventory.getD s.inventory
      else if s.hasOutfitting then .unknown else s.inventory) c = none
    rw [hflag, if_neg Bool.false_ne_true]
    split
    · exact Inventory.get_unknown c
    · next hoff => exact h.modules (Bool.eq_false_iff.2 hoff) c

theorem IsFlagged.revised {s t : Station} (h : s.IsFlagged) {r : StationReport} {now : Nat}
    (ht : s.revised? r now = some t) : t.IsFlagged := by
  rw [revised?] at ht
  split at ht
  · cases ht
  · rw [← Option.some.inj ht]
    exact (h.aligned r).stamped now

/-- Ships come with the flag of the shipyard. -/
theorem IsFlagged.withShips {s : Station} (h : s.IsFlagged) (ships : ShipSet) : (s.withShips ships).IsFlagged where
  ships hflag := by cases hflag
  modules := h.modules

/-- Modules come with the flag of the outfitting. -/
theorem IsFlagged.withModules {s : Station} (h : s.IsFlagged) (update : Inventory) :
    (s.withModules update).IsFlagged where
  ships := h.ships
  modules hflag := by cases hflag

/-- **Whatever is reported, there is no stock without its flag.** -/
theorem keptByReports_isFlagged : KeptByReports IsFlagged where
  ofReport := isFlagged_ofReport
  revised h ht := h.revised ht
  withShips ships now h := (h.withShips ships).stamped now
  withModules update now h := (h.withModules update).stamped now

end Station

/-! ### The stations of a system and of a store -/

/-- All stations of a system have a property. -/
def StarSystem.AllStations (P : Station → Prop) (system : StarSystem) : Prop :=
  ∀ (key : Nat) (station : Station), system.stations[key]? = some station → P station

theorem StarSystem.allStations_of_stations_eq_empty {P : Station → Prop} {system : StarSystem}
    (h : system.stations = ∅) : system.AllStations P := by
  intro key station hstation
  rw [h, Std.ExtTreeMap.getElem?_empty] at hstation
  cases hstation

theorem StarSystem.AllStations.withStation {P : Station → Prop} {system : StarSystem} (h : system.AllStations P)
    (key : Nat) {station : Station} (hstation : P station) : (system.withStation key station).AllStations P := by
  intro other t ht
  rw [StarSystem.withStation, Std.ExtTreeMap.getElem?_insert] at ht
  split at ht
  · rw [← Option.some.inj ht]
    exact hstation
  · exact h other t ht

namespace Store

/-- All stations of all stored systems have a property. -/
def AllStations (P : Station → Prop) (s : Store) : Prop :=
  ∀ (id : Nat) (system : StarSystem), s.atlas.systems[id]? = some system → system.AllStations P

/-- The stores to which operations lead, where only such systems are loaded as are allowed. -/
inductive ReachableLoading (allowed : StarSystem → Prop) : Store → Prop where
  | empty : ReachableLoading allowed .empty
  | loadSystem {s : Store} {system : StarSystem} :
      allowed system → ReachableLoading allowed s → ReachableLoading allowed (s.loadSystem system).2
  | upsertSystem {s : Store} (r : SystemReport) :
      ReachableLoading allowed s → ReachableLoading allowed (s.upsertSystem r).2
  | upsertStation {s : Store} (systemId : Nat) (r : StationReport) (now : Nat) :
      ReachableLoading allowed s → ReachableLoading allowed (s.upsertStation systemId r now).2
  | updateShips {s : Store} (systemName stationName : String) (ships : ShipSet) (now : Nat) :
      ReachableLoading allowed s → ReachableLoading allowed (s.updateShips systemName stationName ships now).2
  | updateModules {s : Store} (systemName stationName : String) (update : Inventory) (now : Nat) :
      ReachableLoading allowed s → ReachableLoading allowed (s.updateModules systemName stationName update now).2

/-! ### What each operation keeps -/

variable {P : Station → Prop} {s : Store}

theorem AllStations.loadSystem (h : s.AllStations P) {system : StarSystem} (hsystem : system.AllStations P) :
    (s.loadSystem system).2.AllStations P := by
  intro id t ht
  unfold Store.loadSystem at ht
  split at ht
  · exact h id t ht
  · simp only [Atlas.enter, Std.ExtTreeMap.getElem?_insert] at ht
    split at ht
    · rw [← Option.some.inj ht]
      exact hsystem
    · -- What is stored elsewhere was there before, whether a system is replaced or not.
      split at ht
      · simp only [Atlas.withdraw, Std.ExtTreeMap.getElem?_erase] at ht
        split at ht
        · cases ht
        · exact h id t ht
      · exact h id t ht

theorem AllStations.upsertSystem (h : s.AllStations P) (r : SystemReport) : (s.upsertSystem r).2.AllStations P := by
  intro id t ht
  rw [getElem?_systems_upsertSystem] at ht
  split at ht
  · cases hstored : s.atlas.systems[id]? with
    | some system =>
      rw [hstored, settle, Option.some.injEq] at ht
      intro key station hstation
      rw [← ht, stations_afterReport] at hstation
      exact h id system hstored key station hstation
    | none =>
      rw [hstored, settle, Option.map_eq_some_iff] at ht
      obtain ⟨sector, -, rfl⟩ := ht
      exact StarSystem.allStations_of_stations_eq_empty rfl
  · exact h id t ht

/-- A system with such stations only may take the place of a stored one. -/
theorem AllStations.putSystem (h : s.AllStations P) (id : Nat) {system : StarSystem} (hsystem : system.AllStations P) :
    (s.putSystem id system).AllStations P := by
  intro other t ht
  rw [Store.putSystem, Atlas.replace, Std.ExtTreeMap.getElem?_insert] at ht
  split at ht
  · rw [← Option.some.inj ht]
    exact hsystem
  · exact h other t ht

/-- What a first report establishes and further ones keep need only be so of the report that comes in. -/
theorem AllStations.upsertStation (h : s.AllStations P) (systemId : Nat) {r : StationReport} {now : Nat}
    (hofReport : P (.ofReport systemId r now))
    (hrevised : ∀ {station revised : Station}, P station → station.revised? r now = some revised → P revised) :
    (s.upsertStation systemId r now).2.AllStations P := by
  unfold Store.upsertStation
  split
  · exact h
  · next system hsystem =>
    have hstations := h systemId system hsystem
    split
    · next station hstation =>
      split
      · next revised hnews =>
        exact h.putSystem systemId (hstations.withStation r.id (hrevised (hstations _ _ hstation) hnews))
      · exact h
    · exact h.putSystem systemId (hstations.withStation r.id hofReport)

theorem AllStations.updateNamed (h : s.AllStations P) (systemName stationName : String) (now : Nat)
    {change : Station → Station} (hchange : ∀ station, P station → P { change station with updatedAt := now }) :
    (s.updateNamed systemName stationName now change).2.AllStations P := by
  intro id t ht
  rw [atlas_updateNamed, Atlas.getElem?_systems_mapStations, Option.map_eq_some_iff] at ht
  obtain ⟨system, hsystem, rfl⟩ := ht
  intro key station hstation
  rw [Std.ExtTreeMap.getElem?_map, Option.map_eq_some_iff] at hstation
  obtain ⟨before, hbefore, rfl⟩ := hstation
  have hkept := h id system hsystem key before hbefore
  split
  · exact hchange before hkept
  · exact hkept

/-- What a first report establishes and reports keep holds of all stations, if it holds of those that are loaded. -/
theorem ReachableLoading.allStations (hP : Station.KeptByReports P)
    (hs : s.ReachableLoading (StarSystem.AllStations P)) : s.AllStations P := by
  induction hs with
  | empty =>
    intro id system hsystem
    cases (Std.ExtTreeMap.getElem?_empty (a := id)).symm.trans hsystem
  | loadSystem hsystem _ ih => exact ih.loadSystem hsystem
  | upsertSystem r _ ih => exact ih.upsertSystem r
  | upsertStation systemId r now _ ih => exact ih.upsertStation systemId (hP.ofReport systemId r now) hP.revised
  | updateShips systemName stationName ships now _ ih =>
    exact ih.updateNamed systemName stationName now fun _ h => hP.withShips ships now h
  | updateModules systemName stationName update now _ ih =>
    exact ih.updateNamed systemName stationName now fun _ h => hP.withModules update now h

end Store

end StationFinder
