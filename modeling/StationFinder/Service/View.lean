import StationFinder.Catalog.Build
import StationFinder.Search.Nearest

/-!
# Views

What is shown of systems, stations and candidates: the stored facts, with sets of modules as lists of ids and sets
of ships as lists of ships. Lists that are not known are left out.
-/

namespace StationFinder

/-- A station as it is shown. -/
structure StationView where
  station : Station
  ships : Option (List Ship)
  /-- The known categories with the ids of their modules. -/
  modules : List (Category × List String)

/-- A star system as it is shown. -/
structure SystemView where
  system : StarSystem
  stations : List StationView

/-- A candidate as it is shown. -/
structure CandidateView where
  systemName : String
  station : StationView
  standing : Standing Score

namespace Catalog

/-- The view of a station. -/
def viewStation (catalog : Catalog) (station : Station) : StationView :=
  ⟨station, station.ships.map ShipSet.toList, catalog.describe station.inventory⟩

/-- The view of a star system, its stations in the order of their ids. -/
def viewSystem (catalog : Catalog) (system : StarSystem) : SystemView :=
  ⟨system, system.stationList.map catalog.viewStation⟩

/-- The view of a candidate. -/
def viewCandidate (catalog : Catalog) (c : Candidate) : CandidateView :=
  ⟨c.systemName, catalog.viewStation c.station, c.standing⟩

end Catalog

end StationFinder
