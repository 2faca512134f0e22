import StationFinder.Outfit.Inventory
import StationFinder.Ship
import StationFinder.Numeric.Binary64

/-!
# Stations

A station, what is known of its stock, and how it takes up reports about itself. A station without a shipyard
lists no ships and one without outfitting no modules; a station with them may have lists that nobody knows yet.

Snapshots report a station as a whole. The station is then brought in line with the report and, if that made a
difference, stamped with the time. The relay reports one list at a time, and always leaves a stamp.
-/

namespace StationFinder

/-- A clock: what it shows each time it is read, from the first time on. -/
abbrev Clock := Nat → Nat

/-- A station where ships dock. -/
structure Station where
  id : Nat
  /-- The star system it belongs to. -/
  systemId : Nat
  name : String
  /-- How far it is from the star at which ships arrive, in light-seconds. -/
  distanceToStar : Option Binary64
  allegiance : Option String
  maxLandingPadSize : Option String
  kind : Option String
  hasShipyard : Bool
  hasOutfitting : Bool
  /-- When it last changed; zero if it never did since it was loaded. -/
  updatedAt : Nat
  inventory : Inventory
  /-- The ships sold here, if known. -/
  ships : Option ShipSet
deriving DecidableEq

/-- A station as a snapshot reports it. -/
structure StationReport where
  id : Nat
  name : String
  distanceToStar : Option Binary64
  allegiance : Option String
  maxLandingPadSize : Option String
  kind : Option String
  hasShipyard : Bool
  hasOutfitting : Bool
  /-- The ships sold, if the report lists them. -/
  ships : Option ShipSet
  /-- The modules sold, if the report lists them. -/
  inventory : Option Inventory
deriving DecidableEq

namespace Station

/-- Is the ship known to be sold here? -/
def sells (s : Station) (ship : Ship) : Bool := s.ships.any (·.has ship)

/-! ### Reports from snapshots -/

/-- The station that a first report about it creates. -/
def ofReport (systemId : Nat) (r : StationReport) (now : Nat) : Station where
  id := r.id
  systemId := systemId
  name := r.name
  distanceToStar := r.distanceToStar
  allegiance := r.allegiance
  maxLandingPadSize := r.maxLandingPadSize
  kind := r.kind
  hasShipyard := r.hasShipyard
  hasOutfitting := r.hasOutfitting
  updatedAt := now
  inventory := if r.hasOutfitting then r.inventory.getD .unknown else .unknown
  ships := if r.hasShipyard then r.ships else none

/-- Do two optional texts differ at most in ASCII case? -/
def sameText : Option String → Option String → Bool
  | some a, some b => Text.sameAscii a b
  | none, none => true
  | _, _ => false

/-- Are two optional distances equal as numbers? -/
def sameDistance : Option Binary64 → Option Binary64 → Bool
  | some a, some b => a.sameNumber b
  | none, none => true
  | _, _ => false

/-- The old value if the new one counts as the same, else the new one. -/
def settle {α : Type} (same : α → α → Bool) (old new : α) : α := if same old new then old else new

/-- The station brought in line with a report. A list that the report leaves out stays as it was, unless the report
takes away the shipyard or the outfitting that it belongs to. -/
def aligned (s : Station) (r : StationReport) : Station where
  id := s.id
  systemId := s.systemId
  name := r.name
  distanceToStar := settle sameDistance s.distanceToStar r.distanceToStar
  allegiance := settle sameText s.allegiance r.allegiance
  maxLandingPadSize := settle sameText s.maxLandingPadSize r.maxLandingPadSize
  kind := settle sameText s.kind r.kind
  hasShipyard := r.hasShipyard
  hasOutfitting := r.hasOutfitting
  updatedAt := s.updatedAt
  inventory :=
    if r.hasOutfitting then r.inventory.getD s.inventory
    else if s.hasOutfitting then .unknown else s.inventory
  ships :=
    if r.hasShipyard then r.ships.or s.ships
    else if s.hasShipyard then none else s.ships

/-- The station after a report, if the report makes a difference. A distance that is no number always does. -/
def revised? (s : Station) (r : StationReport) (now : Nat) : Option Station :=
  if s.aligned r = s ∧ sameDistance s.distanceToStar r.distanceToStar then none
  else some { s.aligned r with updatedAt := now }

/-! ### Reports from the relay -/

/-- The station once the ships it sells are known. -/
def withShips (s : Station) (ships : ShipSet) : Station := { s with hasShipyard := true, ships := some ships }

/-- The station after an update of its inventory. -/
def withModules (s : Station) (update : Inventory) : Station :=
  { s with hasOutfitting := true, inventory := s.inventory.updated update }

end Station

end StationFinder
