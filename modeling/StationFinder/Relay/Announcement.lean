import StationFinder.Catalog.Build
import StationFinder.Relay.Schema

/-!
# Announcements

A message of the relay, once it is understood: the ships or the modules that a station sells. Ships are listed by
name and modules by description, each under a category. What cannot be resolved is reported beside the rest. A
category counts as announced even if none of its modules is known. Messages of other schemas are discarded unread.
-/

namespace StationFinder

open Json.Value

/-- What a message announces. -/
inductive Announcement where
  /-- The ships that a station sells, and the names that no ship goes by. -/
  | ships (system station : String) (ships : ShipSet) (unknown : List String)
  /-- The modules that a station sells, by category, why other modules are unknown, and the categories that do not
  exist. -/
  | modules (system station : String) (update : Inventory) (unknown unknownCategories : List String)
  /-- The message is of no interest. -/
  | discarded
deriving DecidableEq

/-- A module as a message lists it. -/
structure ListedModule where
  category : String
  name : String
  classText : String
  rating : String
  ship : Option String
  mount : Option String
  guidance : Option String
deriving DecidableEq, Repr

namespace ListedModule

def ofJson? (v : Json.Value) : Option ListedModule := do
  match ← v.fields ["category", "name", "class", "rating", "ship", "mount", "guidance"] with
  | [category, name, classText, rating, ship, mount, guidance] =>
    some {
      category := ← required asText category
      name := ← required asText name
      classText := ← required asLooseText classText
      rating := ← required asLooseText rating
      ship := ← optional asText ship
      mount := ← optional asText mount
      guidance := ← optional asText guidance }
  | _ => none

/-- The description of a module of a category. The ship counts for standard modules only, mount and guidance for
hardpoints only. -/
def descriptor (m : ListedModule) (category : Category) : Except Fault Catalog.Descriptor := do
  let ship ← match category, m.ship with
    | .standard, some name => some <$> Ship.parse name
    | _, _ => pure none
  return {
    ship, name := m.name, classText := m.classText, rating := m.rating
    mount := if category = .hardpoint then m.mount else none
    guidance := if category = .hardpoint then m.guidance else none }

/-- The number of a module in its category. -/
def resolve (m : ListedModule) (catalog : Catalog) (category : Category) : Except Fault Nat := do
  (catalog.space category).indexOfDescriptor (← m.descriptor category)

/-- The category that a module is listed under. -/
def category? (m : ListedModule) : Option Category := Category.ofMessage? m.category

end ListedModule

namespace Announcement

/-- The text fields of all messages and a list that may be missing: system, station, entries. -/
def readMessage {α : Type} (entries : String) (read : Reader α) : Reader (String × String × List α) := fun v => do
  match ← v.fields ["systemName", "stationName", entries] with
  | [system, station, items] =>
    some (← required asText system, ← required asText station, ← defaulted [] (asListOf read) items)
  | _ => none

/-- The content of a payload, which carries it as its message. -/
def readPayload {α : Type} (read : Reader α) (payload : String) : Except Fault α :=
  let message? : Option α := do
    match ← (← Json.parse payload).fields ["message"] with
    | [message] => required read message
    | _ => none
  match message? with
  | some message => .ok message
  | none => .error (.document .malformed)

/-- The announcement of ships by name. -/
def ofShips (system station : String) (names : List String) : Announcement :=
  let (known, unknown) := shipsOfNames names
  .ships system station known unknown

/-- The modules of a list that belong to a category. -/
def modulesUnder (listed : List ListedModule) (category : Category) : List ListedModule :=
  listed.filter (·.category? = some category)

/-- The sets of a list of modules: in each category that occurs, the modules that can be resolved. -/
def stockOf (catalog : Catalog) (listed : List ListedModule) : Inventory :=
  .ofFun fun c =>
    let here := modulesUnder listed c
    if here.isEmpty then none
    else some (.ofList (catalog.space c).count (here.filterMap fun m => (m.resolve catalog c).toOption))

/-- Why a listed module is unknown, unless it is known or its category is not. -/
def whyUnknown? (catalog : Catalog) (m : ListedModule) : Option String := do
  let category ← m.category?
  match m.resolve catalog category with
  | .ok _ => none
  | .error fault => some fault.message

/-- The announcement of a list of modules. -/
def ofModules (catalog : Catalog) (system station : String) (listed : List ListedModule) : Announcement :=
  .modules system station (stockOf catalog listed) (listed.filterMap (whyUnknown? catalog))
    ((listed.filter (·.category?.isNone)).map ListedModule.category)

/-- The announcement in a payload. -/
def ofPayload (catalog : Catalog) (payload : String) : Except Fault Announcement := do
  match Schema.classify payload with
  | none => return .discarded
  | some .shipyard =>
    let (system, station, names) ← readPayload (readMessage "ships" asText) payload
    return ofShips system station names
  | some .outfitting =>
    let (system, station, listed) ← readPayload (readMessage "modules" ListedModule.ofJson?) payload
    return ofModules catalog system station listed

end Announcement

end StationFinder
