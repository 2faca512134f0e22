import StationFinder.Json.Reader
import StationFinder.Json.Record

/-!
# Catalog documents

The reference document that lists all modules: three lists of module records, and the hull armour of each ship
under the ship's name. This module says what a document holds and how it is read from JSON.
-/

namespace StationFinder.Catalog

open Json.Value

/-- One module. -/
structure ModuleRecord where
  id : String
  /-- The id under which station snapshots list the module. -/
  externalId : Option String
  name : Option String
  group : Option String
  /-- The size class, as text. -/
  classText : String
  rating : String
  /-- The mount of a weapon: fixed, gimballed or turreted. -/
  mode : Option String
  /-- The guidance of a missile: dumbfire or seeker. -/
  missile : Option String
deriving DecidableEq, Repr

/-- One grade of hull armour. -/
structure ArmourRecord where
  id : String
  name : String
  classText : String
  rating : String
deriving DecidableEq, Repr

/-- A reference document. -/
structure Document where
  standard : List ModuleRecord
  internal : List ModuleRecord
  /-- Hardpoint and utility modules; class zero marks the latter. -/
  hardpoints : List ModuleRecord
  /-- Hull armour under ship names as written, in the order of the names. -/
  bulkheads : List (String × List ArmourRecord)
deriving DecidableEq, Repr

def ModuleRecord.ofJson? (v : Json.Value) : Option ModuleRecord := do
  match ← v.fields ["id", "eddbID", "name", "grp", "class", "rating", "mode", "missile"] with
  | [id, externalId, name, group, classText, rating, mode, missile] =>
    some {
      id := ← required asText id
      externalId := ← optional asLooseText externalId
      name := ← optional asText name
      group := ← optional asText group
      classText := ← required asLooseText classText
      rating := ← required asText rating
      mode := ← optional asText mode
      missile := ← optional asText missile }
  | _ => none

def ArmourRecord.ofJson? (v : Json.Value) : Option ArmourRecord := do
  match ← v.fields ["id", "name", "class", "rating"] with
  | [id, name, classText, rating] =>
    some {
      id := ← required asText id
      name := ← required asText name
      classText := ← required asLooseText classText
      rating := ← required asText rating }
  | _ => none

def Document.ofJson? (v : Json.Value) : Option Document := do
  match ← v.fields ["standard", "internal", "hardpoints", "bulkheads"] with
  | [standard, internal, hardpoints, bulkheads] =>
    some {
      standard := ← defaulted [] (asListOf ModuleRecord.ofJson?) standard
      internal := ← defaulted [] (asListOf ModuleRecord.ofJson?) internal
      hardpoints := ← defaulted [] (asListOf ModuleRecord.ofJson?) hardpoints
      bulkheads := ← defaulted [] (asEntriesOf (asListOf ArmourRecord.ofJson?)) bulkheads }
  | _ => none

/-- The document that a text holds. -/
def Document.parse? (text : String) : Option Document := (Json.parse text).bind Document.ofJson?

end StationFinder.Catalog
