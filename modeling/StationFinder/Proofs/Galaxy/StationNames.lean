import StationFinder.Proofs.Galaxy.Naming
import StationFinder.Proofs.Text.Spelling

/-!
# The names of stations

A station is meant by two names, that of its system and its own. The first one is looked up in lower case; the second
one is compared by ASCII case only. The two names lead to a station exactly if one of the system goes by the second
name, ASCII case aside (`Store.stationNamed_reaches_iff`): then the station is found and the relay's news of it is taken
in. Otherwise there is no such station, and news of it is only counted. A name that is the station's in lower case leads
to a station as long as no capitals outside ASCII are involved.
-/

namespace StationFinder

namespace StarSystem

variable {t : StarSystem} {name : String}

theorem entryNamed?_isSome_iff :
    (t.entryNamed? name).isSome ↔ ∃ station ∈ t.stationList, Text.sameAscii station.name name = true := by
  rw [entryNamed?, List.find?_isSome, stationList]
  constructor
  · rintro ⟨entry, hentry, hname⟩
    exact ⟨entry.2, List.mem_map_of_mem hentry, hname⟩
  · rintro ⟨station, hstation, hname⟩
    obtain ⟨entry, hentry, rfl⟩ := List.mem_map.1 hstation
    exact ⟨entry, hentry, hname⟩

end StarSystem

namespace Store

variable {s : Store} {systemName stationName : String} {t : StarSystem}

/-- Two names lead to a station: it is found, and news of it is taken in. -/
def Reaches (s : Store) (systemName stationName : String) (t : StarSystem) (station : Station) : Prop :=
  s.stationNamed systemName stationName = .ok (t, station) ∧ ∀ ships update now,
    (s.updateShips systemName stationName ships now).1 = .applied ∧
      (s.updateModules systemName stationName update now).1 = .applied

/-- Two names lead to a system that has no such station: none is found, and news of it is only counted. -/
def Misses (s : Store) (systemName stationName : String) (t : StarSystem) : Prop :=
  s.stationNamed systemName stationName = .error (.stationNotFound t.name stationName) ∧ ∀ ships update now,
    s.updateShips systemName stationName ships now = (.unknownStation, s.countUnknownStation) ∧
      s.updateModules systemName stationName update now = (.unknownStation, s.countUnknownStation)

theorem systemNamed?_congr {name name' : String} (h : Text.lower name = Text.lower name') :
    s.atlas.systemNamed? name = s.atlas.systemNamed? name' := by
  simp only [Atlas.systemNamed?, Atlas.idNamed?, h]

/-! ### With and without such a station -/

theorem stationNamed_eq (ht : s.atlas.systemNamed? systemName = some t) (stationName : String) :
    s.stationNamed systemName stationName =
      match t.stationNamed? stationName with
      | some station => .ok (t, station)
      | none => .error (.stationNotFound t.name stationName) := by
  rw [stationNamed, systemNamed, ht]
  change (match t.stationNamed? stationName with | some station => _ | none => _) = _
  cases t.stationNamed? stationName <;> rfl

theorem reaches_of_entry (ht : s.atlas.systemNamed? systemName = some t) {entry : Nat × Station}
    (hentry : t.entryNamed? stationName = some entry) : s.Reaches systemName stationName t entry.2 := by
  obtain ⟨id, hid, hsystem⟩ := Option.bind_eq_some_iff.1 ht
  have happlied (now : Nat) (change : Station → Station) :
      (s.updateNamed systemName stationName now change).1 = .applied := by
    simp only [updateNamed, hid, hsystem, hentry]
  refine ⟨?_, fun ships update now => ⟨happlied now _, happlied now _⟩⟩
  rw [stationNamed_eq ht, StarSystem.stationNamed?, hentry, Option.map_some]

theorem misses_of_no_entry (ht : s.atlas.systemNamed? systemName = some t)
    (hentry : t.entryNamed? stationName = none) : s.Misses systemName stationName t := by
  obtain ⟨id, hid, hsystem⟩ := Option.bind_eq_some_iff.1 ht
  have hmissed (now : Nat) (change : Station → Station) :
      s.updateNamed systemName stationName now change = (.unknownStation, s.countUnknownStation) := by
    simp only [updateNamed, hid, hsystem, hentry]
  refine ⟨?_, fun ships update now => ⟨hmissed now _, hmissed now _⟩⟩
  rw [stationNamed_eq ht, StarSystem.stationNamed?, hentry, Option.map_none]

theorem Misses.not_reaches (h : s.Misses systemName stationName t) (station : Station) :
    ¬ s.Reaches systemName stationName t station := by
  rintro ⟨hfound, -⟩
  rw [h.1] at hfound
  cases hfound

theorem exists_reaches_iff (ht : s.atlas.systemNamed? systemName = some t) :
    (∃ station, s.Reaches systemName stationName t station) ↔
      ∃ station ∈ t.stationList, Text.sameAscii station.name stationName = true := by
  rw [← StarSystem.entryNamed?_isSome_iff]
  cases hentry : t.entryNamed? stationName with
  | none => exact iff_of_false (fun ⟨_, h⟩ => (misses_of_no_entry ht hentry).not_reaches _ h) Bool.false_ne_true
  | some entry => exact iff_of_true ⟨entry.2, reaches_of_entry ht hentry⟩ rfl

theorem misses_iff (ht : s.atlas.systemNamed? systemName = some t) :
    s.Misses systemName stationName t ↔ ¬ ∃ station, s.Reaches systemName stationName t station := by
  cases hentry : t.entryNamed? stationName with
  | none =>
    have hmisses := misses_of_no_entry ht hentry
    exact iff_of_true hmisses fun ⟨station, h⟩ => hmisses.not_reaches station h
  | some entry =>
    have hreaches := reaches_of_entry ht hentry
    exact iff_of_false (fun h => h.not_reaches _ hreaches) (not_not.2 ⟨_, hreaches⟩)

/-- **Station names are compared by ASCII case.** When the first of two names is in lower case the name of a system to
which that leads, a station is reached exactly if one of the system goes by the second name, ASCII case aside; if there
is none, the names miss. A second name that is a station's in lower case reaches a station if lower case changes only
ASCII letters in both. -/
theorem stationNamed_reaches_iff (ht : s.atlas.systemNamed? t.name = some t)
    (hsystem : Text.lower systemName = Text.lower t.name) (stationName : String) :
    ((∃ station, s.Reaches systemName stationName t station) ↔
        ∃ station ∈ t.stationList, Text.sameAscii station.name stationName = true) ∧
      (s.Misses systemName stationName t ↔
        ∀ station ∈ t.stationList, Text.sameAscii station.name stationName = false) ∧
      ∀ station ∈ t.stationList, Text.lower stationName = Text.lower station.name → Text.HasAsciiCase stationName →
        Text.HasAsciiCase station.name → ∃ found, s.Reaches systemName stationName t found := by
  rw [← systemNamed?_congr hsystem] at ht
  refine ⟨exists_reaches_iff ht, ?_, fun station hstation hlower hname hstationName => ?_⟩
  · rw [misses_iff ht, exists_reaches_iff ht]
    simp
  · exact (exists_reaches_iff ht).2
      ⟨station, hstation, Text.sameAscii_of_lower_eq hstationName hname hlower.symm⟩

/-- A system with two stations, one of them with an accented capital in its name. -/
def twoPorts : Store :=
  let report (id : Nat) (name : String) : StationReport :=
    ⟨id, name, none, none, none, none, false, false, none, none⟩
  let s := empty.hear (.reported ⟨1, "Sol", ⟨0⟩, ⟨0⟩, ⟨0⟩, false⟩)
  let s := (s.upsertStation 1 (report 10 "Galileo") 7).2
  (s.upsertStation 1 (report 11 "Élan") 8).2

theorem reachable_twoPorts : twoPorts.Reachable :=
  .upsertStation 1 _ 8 (.upsertStation 1 _ 7 (Reachable.empty.hear _))

theorem exists_twoPorts :
    ∃ t, twoPorts.atlas.systemNamed? t.name = some t ∧ t.name = "Sol" ∧
      t.stationList.map Station.name = ["Galileo", "Élan"] := by
  have hsol : (twoPorts.atlas.systemNamed? "Sol").map (fun t => (t.name, t.stationList.map Station.name)) =
      some ("Sol", ["Galileo", "Élan"]) := by decide +kernel
  obtain ⟨t, ht, hnames⟩ := Option.map_eq_some_iff.1 hsol
  obtain ⟨hname, hstations⟩ := Prod.mk.inj hnames
  exact ⟨t, by rw [hname, ht], hname, hstations⟩

/-- Galileo is reached in capitals. -/
theorem twoPorts_reached :
    twoPorts.Reachable ∧ ∃ t, twoPorts.atlas.systemNamed? t.name = some t ∧ Text.lower "SOL" = Text.lower t.name ∧
      ∃ station ∈ t.stationList, Text.lower "GALILEO" = Text.lower station.name ∧
        ∃ found, twoPorts.Reaches "SOL" "GALILEO" t found := by
  obtain ⟨t, ht, hname, hstations⟩ := exists_twoPorts
  have hsystem : Text.lower "SOL" = Text.lower t.name := by
    rw [hname]
    decide +kernel
  obtain ⟨station, hstation, hgalileo⟩ : ∃ station ∈ t.stationList, station.name = "Galileo" :=
    List.mem_map.1 (by simp [hstations])
  have hlower : Text.lower "GALILEO" = Text.lower station.name := by
    rw [hgalileo]
    decide +kernel
  refine ⟨reachable_twoPorts, t, ht, hsystem, station, hstation, hlower,
    (stationNamed_reaches_iff ht hsystem "GALILEO").2.2 station hstation hlower ?_ ?_⟩
  · exact Text.hasAsciiCase_of_ascii rfl
  · rw [hgalileo]
    exact Text.hasAsciiCase_of_ascii rfl

/-- Élan is missed when its name is written in lower case. -/
theorem twoPorts_missed :
    twoPorts.Reachable ∧ ∃ t, twoPorts.atlas.systemNamed? t.name = some t ∧ Text.lower "sol" = Text.lower t.name ∧
      ∃ station ∈ t.stationList, Text.lower "élan" = Text.lower station.name ∧
        twoPorts.Misses "sol" "élan" t := by
  obtain ⟨t, ht, hname, hstations⟩ := exists_twoPorts
  have hsystem : Text.lower "sol" = Text.lower t.name := by
    rw [hname]
    decide +kernel
  obtain ⟨station, hstation, hélan⟩ : ∃ station ∈ t.stationList, station.name = "Élan" :=
    List.mem_map.1 (by simp [hstations])
  have hnone : t.entryNamed? "élan" = none := by
    have hother : ∀ name ∈ ["Galileo", "Élan"], Text.sameAscii name "élan" = false := by decide +kernel
    rw [← Option.not_isSome_iff_eq_none, StarSystem.entryNamed?_isSome_iff]
    rintro ⟨station, hstation, hsame⟩
    have hname := hother station.name (hstations ▸ List.mem_map_of_mem hstation)
    exact Bool.false_ne_true (hname.symm.trans hsame)
  refine ⟨reachable_twoPorts, t, ht, hsystem, station, hstation, ?_, misses_of_no_entry ?_ hnone⟩
  · rw [hélan]
    decide +kernel
  · rw [systemNamed?_congr hsystem, ht]

end Store

end StationFinder
