import StationFinder.Galaxy.Store

/-!
# Places of stations

Two stations can look the same, so a station is meant by its place in the atlas: the id of its system and the id under
which that keeps it. A change to stations, each by its place, touches nothing else of the atlas
(`Atlas.mapStations`), and if it leaves their names alone, then names of systems and stations mean the same places
before and after. What the relay does to the store is such a change, of at most one station
(`Store.atlas_updateNamed`).
-/

namespace StationFinder

/-- The place of a station in the atlas: the id of a system and the id under which that keeps the station. -/
structure Place where
  system : Nat
  station : Nat
deriving DecidableEq

namespace Atlas

/-- The station at a place. -/
def stationAt? (a : Atlas) (p : Place) : Option Station :=
  (a.systems[p.system]?).bind fun system => system.stations[p.station]?

/-- The place of the station that two names mean: in the system to which the first one leads, the first station that
goes by the second. -/
def placeNamed? (a : Atlas) (systemName stationName : String) : Option Place :=
  (a.idNamed? systemName).bind fun id => (a.systems[id]?).bind fun system =>
    (system.entryNamed? stationName).map fun entry => ⟨id, entry.1⟩

/-! ### Changing stations in their places -/

/-- The atlas with every station changed, each by its place. -/
def mapStations (a : Atlas) (f : Place → Station → Station) : Atlas :=
  { a with
    systems := a.systems.map fun id system =>
      { system with stations := system.stations.map fun key => f ⟨id, key⟩ } }

variable {a : Atlas} {f g : Place → Station → Station}

theorem getElem?_systems_mapStations (a : Atlas) (f : Place → Station → Station) (id : Nat) :
    (a.mapStations f).systems[id]? = (a.systems[id]?).map fun system =>
      { system with stations := system.stations.map fun key => f ⟨id, key⟩ } := by
  rw [mapStations, Std.ExtTreeMap.getElem?_map]

@[simp] theorem stationAt?_mapStations (a : Atlas) (f : Place → Station → Station) (p : Place) :
    (a.mapStations f).stationAt? p = (a.stationAt? p).map (f p) := by
  rw [stationAt?, stationAt?, getElem?_systems_mapStations]
  cases a.systems[p.system]? with
  | none => rfl
  | some system => simp only [Option.map_some, Option.bind_some, Std.ExtTreeMap.getElem?_map]

theorem mapStations_mapStations (a : Atlas) (f g : Place → Station → Station) :
    (a.mapStations f).mapStations g = a.mapStations fun p station => g p (f p station) := by
  simp only [mapStations, Std.ExtTreeMap.map_map]

/-- Changes that leave every station as it is leave the atlas as it is. -/
theorem mapStations_eq_self (a : Atlas) (hf : ∀ p station, f p station = station) : a.mapStations f = a := by
  have hid (id : Nat) : (fun key => f ⟨id, key⟩) = fun (_ : Nat) (station : Station) => station := by
    funext key station
    exact hf _ _
  simp only [mapStations, hid, Std.ExtTreeMap.map_id]

/-- Names mean the same places after changes to stations that leave their names alone. -/
theorem placeNamed?_mapStations (hf : ∀ p station, (f p station).name = station.name)
    (systemName stationName : String) :
    (a.mapStations f).placeNamed? systemName stationName = a.placeNamed? systemName stationName := by
  have hentry (id : Nat) (system : StarSystem) :
      (({ system with stations := system.stations.map fun key => f ⟨id, key⟩ } : StarSystem).entryNamed?
        stationName).map Prod.fst = (system.entryNamed? stationName).map Prod.fst := by
    simp only [StarSystem.entryNamed?, Std.ExtTreeMap.toList_map, List.find?_map, Option.map_map]
    simp only [Function.comp_def, hf]
  unfold placeNamed?
  rw [show (a.mapStations f).idNamed? systemName = a.idNamed? systemName from rfl]
  congr 1
  funext id
  rw [getElem?_systems_mapStations]
  cases a.systems[id]? with
  | none => rfl
  | some system =>
    have := congrArg (Option.map (Place.mk id)) (hentry id system)
    rw [Option.map_map, Option.map_map] at this
    exact this

/-- To put a changed station into its place is to change the station there. -/
theorem replace_withStation {id key : Nat} {system : StarSystem} {station : Station}
    (hsystem : a.systems[id]? = some system) (hstation : system.stations[key]? = some station)
    (change : Station → Station) :
    a.replace id (system.withStation key (change station)) =
      a.mapStations fun p s => if p = ⟨id, key⟩ then change s else s := by
  simp only [replace, mapStations, mk.injEq, and_self, and_true]
  refine Std.ExtTreeMap.ext_getElem? fun j => ?_
  rw [Std.ExtTreeMap.getElem?_insert, Std.ExtTreeMap.getElem?_map]
  by_cases hj : id = j
  · subst hj
    rw [if_pos (by simp), hsystem, Option.map_some, StarSystem.withStation]
    congr 2
    refine Std.ExtTreeMap.ext_getElem? fun k => ?_
    rw [Std.ExtTreeMap.getElem?_insert, Std.ExtTreeMap.getElem?_map]
    by_cases hk : key = k
    · subst hk
      simp [hstation]
    · simp [hk, Ne.symm hk]
  · simp [hj, Ne.symm hj, Std.ExtTreeMap.map_id]

end Atlas

/-- What the relay says of a station changes the station that its names mean, if they mean one, and nothing else. -/
theorem Store.atlas_updateNamed (s : Store) (systemName stationName : String) (now : Nat)
    (change : Station → Station) :
    (s.updateNamed systemName stationName now change).2.atlas = s.atlas.mapStations fun p station =>
      if s.atlas.placeNamed? systemName stationName = some p then { change station with updatedAt := now }
      else station := by
  have hkeep (hnone : s.atlas.placeNamed? systemName stationName = none) :
      s.atlas = s.atlas.mapStations fun p station =>
        if s.atlas.placeNamed? systemName stationName = some p then { change station with updatedAt := now }
        else station :=
    (Atlas.mapStations_eq_self _ fun _ _ => if_neg (by simp [hnone])).symm
  unfold updateNamed
  split
  · next hname => exact hkeep (by simp [Atlas.placeNamed?, hname])
  · next id hname =>
    split
    · next hsystem => exact hkeep (by simp [Atlas.placeNamed?, hname, hsystem])
    · next system hsystem =>
      split
      · next hentry => exact hkeep (by simp [Atlas.placeNamed?, hname, hsystem, hentry])
      · next key station hentry =>
        have hstation : system.stations[key]? = some station :=
          Std.ExtTreeMap.mem_toList_iff_getElem?_eq_some.1 (List.mem_of_find?_eq_some hentry)
        have hplace : s.atlas.placeNamed? systemName stationName = some ⟨id, key⟩ := by
          simp [Atlas.placeNamed?, hname, hsystem, hentry]
        simp only [hplace, Option.some.injEq, eq_comm (a := Place.mk id key)]
        exact Atlas.replace_withStation hsystem hstation fun s => { change s with updatedAt := now }

end StationFinder
