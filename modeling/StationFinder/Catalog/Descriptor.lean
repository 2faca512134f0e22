import StationFinder.Ship

/-!
# Module descriptions

The relay describes a module by free text: a name, a class, a rating, for hull armour the ship, for weapons the
mount and the guidance. Descriptions are compared by a key in which blanks, the case of the name and of the
rating, and all of mount and guidance but their first letter do not count.
-/

namespace StationFinder.Catalog

/-- A module as somebody describes it. -/
structure Descriptor where
  ship : Option Ship
  name : String
  classText : String
  rating : String
  mount : Option String
  guidance : Option String
deriving DecidableEq, Repr

namespace Descriptor

/-- The first character of a qualifier that is not blank, as an ASCII capital; empty without one. -/
def initial (qualifier : Option String) : String :=
  match qualifier.map fun q => Text.trimChars q.toList with
  | some (c :: _) => String.ofList [c.toUpper]
  | _ => ""

/-- What counts of a description, part by part. -/
def parts (d : Descriptor) : List String :=
  [(d.ship.map Ship.name).getD "", Text.lower (Text.trim d.name), Text.trim d.classText,
    Text.asciiUpper (Text.trim d.rating), initial d.mount, initial d.guidance]

/-- The key by which descriptions are compared: the parts with bars between them. -/
def key (d : Descriptor) : String := "|".intercalate d.parts

/-- The description in words. -/
def text (d : Descriptor) : String :=
  let ship := (d.ship.map (·.name ++ " ")).getD ""
  let mount := (d.mount.map (" mount=" ++ ·)).getD ""
  let guidance := (d.guidance.map (" guidance=" ++ ·)).getD ""
  s!"{ship}{d.name} {d.classText}{d.rating}{mount}{guidance}"

end Descriptor

end StationFinder.Catalog
