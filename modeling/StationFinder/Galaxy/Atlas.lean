import StationFinder.Galaxy.StarSystem

/-!
# The atlas

The star systems with the ways to find them: by id, by name in lower case, and by sector. A name leads to one
system only, the one that took it last. The number of stations is kept as well. The operations here change one of
these parts, or all of them together where a system comes in or goes out.
-/

namespace StationFinder

/-- The star systems and the ways to find them. -/
structure Atlas where
  systems : Std.ExtTreeMap Nat StarSystem
  /-- Names in lower case, with the id of the system that each one means. -/
  names : Std.ExtTreeMap String Nat
  /-- The ids of the systems in each sector that holds any. -/
  sectors : Std.ExtTreeMap Sector (List Nat)
  /-- The number of stations in all systems. -/
  stationCount : Nat

namespace Atlas

/-- The atlas without systems. -/
def empty : Atlas := ⟨∅, ∅, ∅, 0⟩

/-! ### Looking up -/

/-- The id that a name stands for. -/
def idNamed? (a : Atlas) (name : String) : Option Nat := a.names[Text.lower name]?

/-- The system that a name stands for. -/
def systemNamed? (a : Atlas) (name : String) : Option StarSystem :=
  (a.idNamed? name).bind fun id => a.systems[id]?

/-- The systems in a sector. -/
def systemsIn (a : Atlas) (sector : Sector) : List StarSystem :=
  (a.sectors[sector]?.getD []).filterMap fun id => a.systems[id]?

/-- The systems in the order of their ids. -/
def systemList (a : Atlas) : List StarSystem := a.systems.toList.map Prod.snd

/-! ### Changing -/

/-- A system's id removed from a sector; a sector that holds nothing more is dropped. -/
def removeFromSector (a : Atlas) (sector : Sector) (id : Nat) : Atlas :=
  { a with sectors := a.sectors.alter sector fun ids? =>
      (ids?.map (·.filter (· ≠ id))).filter (!·.isEmpty) }

/-- A system's id added to a sector. -/
def addToSector (a : Atlas) (sector : Sector) (id : Nat) : Atlas :=
  { a with sectors := a.sectors.alter sector fun ids? => some (ids?.getD [] ++ [id]) }

/-- A system's id moved from one sector to another. -/
def relocate (a : Atlas) (source target : Sector) (id : Nat) : Atlas :=
  if source = target then a else (a.removeFromSector source id).addToSector target id

/-- A name given to a system, and its old one dropped unless that has come to mean another system. -/
def rename (a : Atlas) (old new : String) (id : Nat) : Atlas :=
  let names := if a.names[Text.lower old]? = some id then a.names.erase (Text.lower old) else a.names
  { a with names := names.insert (Text.lower new) id }

/-- The atlas with one more system, which no part of it mentions yet. -/
def enter (a : Atlas) (s : StarSystem) : Atlas :=
  { a.addToSector s.sector s.id with
    systems := a.systems.insert s.id s
    names := a.names.insert s.key s.id
    stationCount := a.stationCount + s.stations.size }

/-- The atlas without a system of it: its id, its name, its place in the sector and its stations are dropped. -/
def withdraw (a : Atlas) (s : StarSystem) : Atlas :=
  { a.removeFromSector s.sector s.id with
    systems := a.systems.erase s.id
    names := a.names.erase s.key
    stationCount := a.stationCount - s.stations.size }

/-- The atlas with a system in the place of the one that is stored under an id. -/
def replace (a : Atlas) (id : Nat) (s : StarSystem) : Atlas := { a with systems := a.systems.insert id s }

end Atlas

end StationFinder
