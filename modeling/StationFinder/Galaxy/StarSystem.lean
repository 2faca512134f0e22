import StationFinder.Galaxy.Sector
import StationFinder.Galaxy.Station

/-!
# Star systems

A star system stands at a point in space, in the sector of that point, and owns stations, which are kept by id.
-/

namespace StationFinder

/-- A star system. -/
structure StarSystem where
  id : Nat
  /-- The name as it is displayed. -/
  name : String
  /-- The place in space, in light-years. -/
  x : Binary64
  y : Binary64
  z : Binary64
  /-- The sector that holds the place. -/
  sector : Sector
  /-- Is a permit needed to enter? -/
  needsPermit : Bool
  stations : Std.ExtTreeMap Nat Station

/-- A star system as a snapshot reports it. -/
structure SystemReport where
  id : Nat
  name : String
  x : Binary64
  y : Binary64
  z : Binary64
  needsPermit : Bool
deriving DecidableEq

namespace SystemReport

/-- The sector of the reported place, if the place is in the inhabited range. -/
def sector? (r : SystemReport) : Option Sector := Sector.of? r.x r.y r.z

/-- The star system that a first report about it creates, its sector given. -/
def toSystem (r : SystemReport) (sector : Sector) : StarSystem where
  id := r.id
  name := r.name
  x := r.x
  y := r.y
  z := r.z
  sector := sector
  needsPermit := r.needsPermit
  stations := ∅

end SystemReport

namespace StarSystem

/-- The name under which the system is looked up. -/
def key (s : StarSystem) : String := Text.lower s.name

/-- The distance between two systems in light-years. -/
def distanceTo (s t : StarSystem) : Binary64 :=
  let dx := s.x - t.x
  let dy := s.y - t.y
  let dz := s.z - t.z
  (dx * dx + dy * dy + dz * dz).sqrt

/-- Is the system at the reported place already? -/
def isAt (s : StarSystem) (r : SystemReport) : Bool :=
  s.x.sameNumber r.x && s.y.sameNumber r.y && s.z.sameNumber r.z

/-- The stations in the order of their ids. -/
def stationList (s : StarSystem) : List Station := s.stations.toList.map Prod.snd

/-- The first station with a name, ASCII case aside, and the id under which it is kept. -/
def entryNamed? (s : StarSystem) (name : String) : Option (Nat × Station) :=
  s.stations.toList.find? fun entry => Text.sameAscii entry.2.name name

/-- The first station with a name, ASCII case aside. -/
def stationNamed? (s : StarSystem) (name : String) : Option Station := (s.entryNamed? name).map Prod.snd

/-- The system with a station kept under an id, in the place of any other. -/
def withStation (s : StarSystem) (id : Nat) (station : Station) : StarSystem :=
  { s with stations := s.stations.insert id station }

end StarSystem

end StationFinder
