import StationFinder.Catalog.Build
import StationFinder.Galaxy.StarSystem

/-!
# Snapshot records

A snapshot is a JSON list of records, either of star systems or of stations. A station record lists ships by name
and modules by external id; it is decoded with the help of the catalog, and what cannot be resolved is reported
beside it.
-/

namespace StationFinder

open Json.Value

/-- Reads the record of a star system. -/
def SystemReport.ofJson? (v : Json.Value) : Option SystemReport := do
  match ← v.fields ["id", "name", "x", "y", "z", "needs_permit"] with
  | [id, name, x, y, z, needsPermit] =>
    some {
      id := ← required asId id
      name := ← required asText name
      x := ← required asReal x
      y := ← required asReal y
      z := ← required asReal z
      needsPermit := (← optional asBool needsPermit).getD false }
  | _ => none

/-- The record of a station, with the names and ids as they are written. -/
structure StationRecord where
  id : Nat
  systemId : Nat
  name : String
  distanceToStar : Option Binary64
  allegiance : Option String
  maxLandingPadSize : Option String
  kind : Option String
  hasShipyard : Bool
  hasOutfitting : Bool
  /-- The ships sold, by name. -/
  sellingShips : Option (List String)
  /-- The modules sold, by external id. -/
  sellingModules : Option (List String)
deriving DecidableEq, Repr

/-- A station record with its lists resolved. -/
structure DecodedStation where
  report : StationReport
  /-- The ship names that no ship goes by, in order. -/
  unknownShips : List String
  /-- The external ids that no category knows, in order. -/
  unknownModules : List String
deriving DecidableEq

namespace StationRecord

/-- Reads the record of a station. -/
def ofJson? (v : Json.Value) : Option StationRecord := do
  match ← v.fields ["id", "system_id", "name", "distance_to_star", "allegiance", "max_landing_pad_size", "type",
      "has_shipyard", "has_outfitting", "selling_ships", "selling_modules"] with
  | [id, systemId, name, distanceToStar, allegiance, maxLandingPadSize, kind, hasShipyard, hasOutfitting,
      sellingShips, sellingModules] =>
    some {
      id := ← required asId id
      systemId := ← required asId systemId
      name := ← required asText name
      distanceToStar := ← optional asReal distanceToStar
      allegiance := ← optional asText allegiance
      maxLandingPadSize := ← optional asText maxLandingPadSize
      kind := ← optional asText kind
      hasShipyard := (← optional asBool hasShipyard).getD false
      hasOutfitting := (← optional asBool hasOutfitting).getD false
      sellingShips := ← optional (asListOf asText) sellingShips
      sellingModules := ← optional (asListOf asLooseText) sellingModules }
  | _ => none

/-- The stock that a list of external ids means: in each category the modules that it knows. All categories are
known then. -/
def stockOf (catalog : Catalog) (externals : List String) : Inventory :=
  .ofFun fun c => some ((catalog.space c).setOfExternals externals)

/-- Does some category know the external id? -/
def isKnown (catalog : Catalog) (external : String) : Bool :=
  Category.all.any fun c => ((catalog.space c).indexOfExternal? external).isSome

/-- The record with its ships and modules resolved. -/
def decode (r : StationRecord) (catalog : Catalog) : DecodedStation where
  report :=
    { id := r.id, name := r.name, distanceToStar := r.distanceToStar, allegiance := r.allegiance,
      maxLandingPadSize := r.maxLandingPadSize, kind := r.kind, hasShipyard := r.hasShipyard,
      hasOutfitting := r.hasOutfitting, ships := r.sellingShips.map fun names => (shipsOfNames names).1,
      inventory := r.sellingModules.map (stockOf catalog) }
  unknownShips := (r.sellingShips.map fun names => (shipsOfNames names).2).getD []
  unknownModules := (r.sellingModules.getD []).filter fun e => !isKnown catalog e

end StationRecord

/-- The records of a snapshot: all of them, or none if one is bad. -/
def recordsOfBytes? {α : Type} (read : Reader α) (bytes : ByteArray) : Option (List α) :=
  (Json.parseBytes bytes).bind (asListOf read)

end StationFinder
