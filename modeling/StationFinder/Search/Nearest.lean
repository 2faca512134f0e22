import StationFinder.Galaxy.Store
import StationFinder.Search.Query
import StationFinder.Search.Shortlist
import StationFinder.Search.Standing

/-!
# The nearest stations

The search goes outward from the sector of a star system, one shell of sectors after the other. Every station there
that has something of what is wanted becomes a candidate. The search ends with the first shell that holds a full
match, a station with the ship and every module, or else with the last shell allowed. The best candidates are the
answer. They are collected in a shortlist of as many as may be answered; where there is no memory for it the search
breaks down before it visits the first shell.
-/

namespace StationFinder

/-- A station that answers a query, with its standing. -/
structure Candidate where
  systemName : String
  station : Station
  standing : Standing Score

namespace Candidate

/-- Which of two candidates is better. -/
def rank (a b : Candidate) : Ordering := a.standing.rank b.standing

end Candidate

/-- How far a search goes and how much it answers. -/
structure SearchLimits where
  /-- The last shell; a negative number leaves not even the first. -/
  maxShellRadius : Int
  maxResults : Nat
deriving DecidableEq, Repr

namespace Query

/-- How a station at some distance answers a query. -/
def standing (q : Query) (station : Station) (distance : Binary64) : Standing Score :=
  let found := q.found station.inventory
  let hasShip := q.soldBy station
  { hasShip, modulesFound := found, score := ⟨found, q.wanted, hasShip⟩, distance }

/-- The candidates among the stations of a system: those with a positive score. -/
def candidatesIn (q : Query) (origin system : StarSystem) : List Candidate :=
  let distance := (system.distanceTo origin).toHundredths
  system.stationList.filterMap fun station =>
    let standing := q.standing station distance
    if 0 < standing.score.exact then some ⟨system.name, station, standing⟩ else none

/-- Does a candidate have the ship and all of the modules, of which there are some? -/
def isFullMatch (q : Query) (c : Candidate) : Bool :=
  c.standing.hasShip && 0 < q.wanted && c.standing.modulesFound = q.wanted

/-- The candidates in the sectors of one shell. -/
def candidatesAt (q : Query) (a : Atlas) (origin : StarSystem) (radius : Nat) : List Candidate :=
  (origin.sector.shell radius).flatMap fun sector => (a.systemsIn sector).flatMap (q.candidatesIn origin)

/-- The candidates in a number of shells from one radius on, up to the first shell with a full match. -/
def gather (q : Query) (a : Atlas) (origin : StarSystem) : (shells radius : Nat) → List Candidate
  | 0, _ => []
  | shells + 1, radius =>
    let here := q.candidatesAt a origin radius
    here ++ if here.any q.isFullMatch then [] else q.gather a origin shells (radius + 1)

/-- The best stations for a query around a system, best first. A candidate takes some memory in the shortlist. -/
def nearest (q : Query) (size : EntrySize) (a : Atlas) (origin : StarSystem) (limits : SearchLimits) :
    Except Failure (List Candidate) := do
  let list ← Shortlist.empty size limits.maxResults
  let shells := (limits.maxShellRadius + 1).toNat
  return (list.offerAll Candidate.rank (q.gather a origin shells 0)).kept

variable (q : Query) {size : EntrySize} (a : Atlas) (origin : StarSystem) {limits : SearchLimits}

theorem nearest_of_fits (h : (limits.maxResults + 1) * size.bytes ≤ maxSigned64) :
    q.nearest size a origin limits = .ok ((Shortlist.bare limits.maxResults).offerAll Candidate.rank
      (q.gather a origin (limits.maxShellRadius + 1).toNat 0)).kept := by
  rw [nearest, Shortlist.empty_of_fits h]
  rfl

theorem nearest_of_not_fits (h : maxSigned64 < (limits.maxResults + 1) * size.bytes) :
    q.nearest size a origin limits = .error .capacityOverflow := by
  rw [nearest, Shortlist.empty_of_not_fits h]
  rfl

end Query

/-- The best stations for a query around the system that a name stands for. -/
def Store.findNear (s : Store) (size : EntrySize) (limits : SearchLimits) (origin : String) (q : Query) :
    Except Failure (List Candidate) := do
  if q.isEmpty then throw (.fault (.request .emptyQuery))
  let system ← (s.systemNamed origin).mapError .fault
  q.nearest size s.atlas system limits

/-- With something wanted and an origin that is a system, it is for the search to succeed. -/
theorem Store.findNear_eq_nearest {s : Store} {name : String} {origin : StarSystem}
    (horigin : s.atlas.systemNamed? name = some origin) {q : Query} (hq : q.isEmpty = false) (size : EntrySize)
    (limits : SearchLimits) : s.findNear size limits name q = q.nearest size s.atlas origin limits := by
  rw [findNear, hq, if_neg Bool.false_ne_true, systemNamed, horigin]
  rfl

end StationFinder
