import StationFinder.Fault
import StationFinder.Galaxy.Atlas
import StationFinder.Text.Search

/-!
# The store

The atlas together with a tally of what happened to it. Systems come in whole, or by reports that are compared
with what is stored; stations come by reports about stations of a known system, or by the relay, which names
system and station. Each operation gives its outcome and the store afterwards. What changes a station is given
the time, to stamp it with.
-/

namespace StationFinder

/-- Counts of what happened. -/
structure Tally where
  /-- Systems refused, and moves ignored, for a place out of range. -/
  systemsDropped : Nat
  /-- Reports about systems that are not stored. -/
  unknownSystems : Nat
  /-- Reports about stations that are not stored, though their systems are. -/
  unknownStations : Nat
  /-- Reports that changed a station. -/
  stationUpdates : Nat
deriving DecidableEq, Repr

/-- The outcome of a report about a system. -/
inductive SystemOutcome where
  | created (system : StarSystem)
  | updated (system : StarSystem)
  | unchanged
  /-- The system is not stored and its place is out of range. -/
  | outOfRange

/-- The outcome of a report about a station. -/
inductive StationOutcome where
  | created
  | updated
  | unchanged
  | unknownSystem
deriving DecidableEq, Repr

/-- The outcome of a report from the relay. -/
inductive RelayOutcome where
  | applied
  | unknownSystem
  | unknownStation
deriving DecidableEq, Repr

/-- The stored systems and the tally. -/
structure Store where
  atlas : Atlas
  tally : Tally

namespace Store

/-- The store at the start. -/
def empty : Store := ⟨.empty, ⟨0, 0, 0, 0⟩⟩

/-! ### Counting -/

def countDropped (s : Store) : Store :=
  { s with tally := { s.tally with systemsDropped := s.tally.systemsDropped + 1 } }

def countUnknownSystem (s : Store) : Store :=
  { s with tally := { s.tally with unknownSystems := s.tally.unknownSystems + 1 } }

def countUnknownStation (s : Store) : Store :=
  { s with tally := { s.tally with unknownStations := s.tally.unknownStations + 1 } }

def countUpdate (s : Store) : Store :=
  { s with tally := { s.tally with stationUpdates := s.tally.stationUpdates + 1 } }

/-! ### Systems -/

/-- Takes in a system with its stations, in the place of a stored one with its id. The sector is worked out anew; a
system out of range is refused. -/
def loadSystem (s : Store) (system : StarSystem) : Bool × Store :=
  match Sector.of? system.x system.y system.z with
  | none => (false, s.countDropped)
  | some sector =>
    let atlas := match s.atlas.systems[system.id]? with
      | some previous => s.atlas.withdraw previous
      | none => s.atlas
    (true, { s with atlas := atlas.enter { system with sector } })

/-- A stored system after a report: the place only if the system moves, which is when a sector is given. -/
def revisedSystem (system : StarSystem) (r : SystemReport) : Option Sector → StarSystem
  | some sector =>
    { system with name := r.name, needsPermit := r.needsPermit, x := r.x, y := r.y, z := r.z, sector }
  | none => { system with name := r.name, needsPermit := r.needsPermit }

/-- Brings a stored system in line with a report. Name, permit and place are compared each on its own; a move out
of range is ignored, though counted. -/
def reviseSystem (s : Store) (system : StarSystem) (r : SystemReport) : SystemOutcome × Store :=
  let moved := !system.isAt r
  let target := if moved then r.sector? else none
  let s := if moved && target.isNone then s.countDropped else s
  let renamed := decide (system.name ≠ r.name)
  if !renamed && system.needsPermit = r.needsPermit && target.isNone then (.unchanged, s)
  else
    let revised := revisedSystem system r target
    let atlas := if renamed then s.atlas.rename system.name r.name r.id else s.atlas
    let atlas := atlas.relocate system.sector revised.sector r.id
    (.updated revised, { s with atlas := atlas.replace r.id revised })

/-- Takes in a report about a system. -/
def upsertSystem (s : Store) (r : SystemReport) : SystemOutcome × Store :=
  match s.atlas.systems[r.id]? with
  | some system => s.reviseSystem system r
  | none =>
    match r.sector? with
    | some sector =>
      (.created (r.toSystem sector), { s with atlas := s.atlas.enter (r.toSystem sector) })
    | none => (.outOfRange, s.countDropped)

/-! ### Stations -/

/-- Puts a system into the place of the one that is stored under an id. -/
def putSystem (s : Store) (id : Nat) (system : StarSystem) : Store :=
  { s with atlas := s.atlas.replace id system }

/-- Takes in a report about a station of a system. -/
def upsertStation (s : Store) (systemId : Nat) (r : StationReport) (now : Nat) : StationOutcome × Store :=
  match s.atlas.systems[systemId]? with
  | none => (.unknownSystem, s.countUnknownSystem)
  | some system =>
    match system.stations[r.id]? with
    | some station =>
      match station.revised? r now with
      | some revised => (.updated, (s.putSystem systemId (system.withStation r.id revised)).countUpdate)
      | none => (.unchanged, s)
    | none =>
      let s := s.putSystem systemId (system.withStation r.id (.ofReport systemId r now))
      (.created, { s with atlas := { s.atlas with stationCount := s.atlas.stationCount + 1 } })

/-- Changes the station that the relay names, and stamps it. -/
def updateNamed (s : Store) (systemName stationName : String) (now : Nat) (change : Station → Station) :
    RelayOutcome × Store :=
  match s.atlas.idNamed? systemName with
  | none => (.unknownSystem, s.countUnknownSystem)
  | some id =>
    match s.atlas.systems[id]? with
    | none => (.unknownStation, s.countUnknownStation)
    | some system =>
      match system.entryNamed? stationName with
      | none => (.unknownStation, s.countUnknownStation)
      | some (key, station) =>
        let changed := { change station with updatedAt := now }
        (.applied, (s.putSystem id (system.withStation key changed)).countUpdate)

/-- Takes in the ships that a station sells. -/
def updateShips (s : Store) (systemName stationName : String) (ships : ShipSet) (now : Nat) :
    RelayOutcome × Store :=
  s.updateNamed systemName stationName now (·.withShips ships)

/-- Takes in modules that a station sells, category by category. -/
def updateModules (s : Store) (systemName stationName : String) (update : Inventory) (now : Nat) :
    RelayOutcome × Store :=
  s.updateNamed systemName stationName now (·.withModules update)

/-! ### Questions -/

/-- The system that a name stands for. -/
def systemNamed (s : Store) (name : String) : Except Fault StarSystem :=
  match s.atlas.systemNamed? name with
  | some system => .ok system
  | none => .error (.systemNotFound name)

/-- A station by the names of its system and its own, with the system. -/
def stationNamed (s : Store) (systemName stationName : String) : Except Fault (StarSystem × Station) := do
  let system ← s.systemNamed systemName
  match system.stationNamed? stationName with
  | some station => return (system, station)
  | none => throw (.stationNotFound system.name stationName)

/-- The names of the systems whose names contain a text, letter case aside, in order. -/
def namesContaining (s : Store) (part : String) : List String :=
  let part := (Text.lower part).toList
  let names := s.atlas.systemList.filterMap fun system =>
    if Text.occursIn part system.key.toList then some system.name else none
  names.mergeSort fun a b => decide (a ≤ b)

end Store

end StationFinder
