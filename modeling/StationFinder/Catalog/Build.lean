import StationFinder.Catalog.Document
import StationFinder.Catalog.Group
import StationFinder.Catalog.Space
import StationFinder.Outfit.Inventory

/-!
# Catalogs

A catalog holds the four numbering spaces of one reference document. Standard modules come first in their space
and the hull armour of all ships after them; of the hardpoint records those of class zero are utility modules.
Mount and guidance tell modules apart in the hardpoint space only.

A document is refused at its first mistake, reading standard records, armour, internal records and hardpoint
records in this order.
-/

namespace StationFinder

/-- The four numbering spaces. -/
structure Catalog where
  standard : Catalog.Space
  internal : Catalog.Space
  hardpoint : Catalog.Space
  utility : Catalog.Space

namespace Catalog

/-- The space of a category. -/
def space (catalog : Catalog) : Category → Space
  | .standard => catalog.standard
  | .internal => catalog.internal
  | .hardpoint => catalog.hardpoint
  | .utility => catalog.utility

/-- The class of a module, which must be a number of thirty-two bits, blanks around it aside. -/
def classOf (record : ModuleRecord) : Except Fault Nat :=
  match wholeOfText? max32 (Text.trim record.classText) with
  | some n => .ok n
  | none => .error (.catalog (.classNotNumeric record.id record.classText))

/-- The name of a module: its own, or else that of its group. -/
def nameOf (record : ModuleRecord) : Except Fault String :=
  match record.name, record.group with
  | some name, _ => .ok name
  | none, some code =>
    match groupName? code with
    | some name => .ok name
    | none => .error (.catalog (.unknownGroup record.id code))
  | none, none => .error (.catalog (.nameless record.id))

/-- How the module of a record is described, its name given; the mount and the guidance only if they are to
count. -/
def ModuleRecord.descriptor (record : ModuleRecord) (name : String) (qualified : Bool) : Descriptor :=
  { ship := none, name, classText := record.classText, rating := record.rating
    mount := if qualified then record.mode else none
    guidance := if qualified then record.missile else none }

/-- How the armour of a record is described. -/
def ArmourRecord.descriptor (record : ArmourRecord) (ship : Ship) : Descriptor :=
  { ship, name := record.name, classText := record.classText, rating := record.rating
    mount := none, guidance := none }

/-- The module of a record, ready to be numbered. -/
def moduleEntry (qualified : Bool) (record : ModuleRecord) : Except Fault Entry := do
  let _ ← classOf record
  let name ← nameOf record
  return ⟨record.id, record.externalId.filter (· ≠ ""), (record.descriptor name qualified).key⟩

/-- A space with the module of a record. -/
def addModule (qualified : Bool) (space : Space) (record : ModuleRecord) : Except Fault Space := do
  space.push (← moduleEntry qualified record)

/-- A space with the armour that is listed under a ship's name. -/
def addArmour (space : Space) (listed : String × List ArmourRecord) : Except Fault Space := do
  let ship ← Ship.parse listed.1
  listed.2.foldlM (fun space record => space.push ⟨record.id, none, (record.descriptor ship).key⟩) space

/-- The hardpoint and utility spaces with the module of a record, which goes to the latter if its class is
zero. -/
def addMounted (spaces : Space × Space) (record : ModuleRecord) : Except Fault (Space × Space) := do
  if (← classOf record) = 0 then return (spaces.1, ← addModule false spaces.2 record)
  else return (← addModule true spaces.1 record, spaces.2)

/-- The catalog of a document. -/
def ofDocument (doc : Document) : Except Fault Catalog := do
  let standard ← doc.standard.foldlM (addModule false) (.empty .standard)
  let standard ← doc.bulkheads.foldlM addArmour standard
  let internal ← doc.internal.foldlM (addModule false) (.empty .internal)
  let (hardpoint, utility) ← doc.hardpoints.foldlM addMounted (.empty .hardpoint, .empty .utility)
  return { standard, internal, hardpoint, utility }

/-- The catalog of a document in JSON. -/
def parse (text : String) : Except Fault Catalog :=
  match Document.parse? text with
  | some doc => ofDocument doc
  | none => .error (.catalog .malformed)

/-- What to look for when modules of a category are wanted, by their ids; nothing if there are none. -/
def matcher (catalog : Catalog) (category : Category) (ids : List String) : Except Fault (Option Matcher) :=
  ((catalog.space category).setOfIds ids).map (·.map Matcher.mk)

/-- The known categories of an inventory with the ids of their modules. -/
def describe (catalog : Catalog) (inv : Inventory) : List (Category × List String) :=
  inv.present.map fun (category, set) => (category, (catalog.space category).idsOf set)

end Catalog

end StationFinder
