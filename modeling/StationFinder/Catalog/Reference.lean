import StationFinder.Catalog.Build
import StationFinder.Text.Search

/-!
# The reference catalog

The document that is used when no other is given. Most modules come in families that share a group, and are told
apart by class and rating; weapons by their mount as well, missiles by their guidance. The ids follow from
these, external ids are numbered through in document order, and each ship has the same five grades of armour.
-/

namespace StationFinder.Catalog.Reference

/-- A model within a group: its class, its rating, its mount and guidance if it has any; for the few modules with
an id and a name of their own, these. -/
structure Model where
  group : String
  size : Nat
  rating : Char
  mount : Option Char
  guidance : Option Char
  named : Option (String × String)

/-- The id of a model. The guidance of a missile takes the place of its rating. -/
def Model.id (m : Model) : String :=
  match m.named with
  | some (id, _) => id
  | none => s!"{m.group}{m.size}" ++ String.ofList (m.mount.toList ++ [m.guidance.getD m.rating])

/-- The models of a group with the given classes and ratings. -/
def graded (group : String) (sizes : List Nat) (ratings : String) : List Model :=
  sizes.flatMap fun size => ratings.toList.map fun rating => ⟨group, size, rating, none, none, none⟩

/-- The weapons of a group. Each is written with its class, its rating, its mount and, for a missile, its
guidance. -/
def weapons (group codes : String) : List Model :=
  (Text.splitAt ' ' codes.toList).filterMap fun
    | [size, rating, mount] => some ⟨group, (digit? size).getD 0, rating, some mount, none, none⟩
    | [size, rating, mount, guidance] =>
      some ⟨group, (digit? size).getD 0, rating, some mount, some guidance, none⟩
    | _ => none

/-- A module with an id and a name of its own. -/
def special (group : String) (size : Nat) (rating : Char) (id name : String) : Model :=
  ⟨group, size, rating, none, none, some (id, name)⟩

def standardModels : List Model :=
  ["pp", "t", "fd", "ls", "pd", "s"].flatMap (graded · [2, 3, 4, 5, 6, 7, 8] "EDCBA") ++
    graded "ft" [1, 2, 3, 4, 5, 6] "C"

def internalModels : List Model :=
  ["fs", "am", "fi", "hr", "rf", "scb", "sg"].flatMap (graded · [1, 2, 3, 4, 5, 6, 7, 8] "EDCBA") ++
    graded "cr" [1, 2, 3, 4, 5, 6, 7, 8] "E" ++
    graded "psg" [3, 4, 5, 6, 7, 8] "A" ++
    ["hb", "fx", "pc", "cc"].flatMap (graded · [1, 3, 5, 7] "EDCBA") ++
    graded "dc" [1] "E" ++
    [special "sc" 1 'E' "scbds" "Basic Discovery Scanner",
      special "sc" 1 'D' "scids" "Intermediate Discovery Scanner",
      special "sc" 1 'C' "scads" "Advanced Discovery Scanner",
      special "sc" 1 'C' "scdss" "Detailed Surface Scanner"]

def hardpointModels : List Model :=
  weapons "bl" "1EF 1DG 1CT 2DF 2CG 2CT 3CF 3CG 3CT 4CF 4CG 4CT" ++
    weapons "ul" "1FF 1EG 1DT 2EF 2DG 2CT 3DF 3CG 3CT 4CF 4CG 4CT" ++
    weapons "pl" "1FF 1EG 1DT 2EF 2DG 2DT 3DF 3DG 3DT 4DF 4DG 4DT" ++
    weapons "mc" "1FF 1EG 1DT 2EF 2DG 2DT 3DF 3DG 3DT 4DF 4DG 4DT" ++
    weapons "c" "1DF 1CG 1BT 2CF 2BG 2BT 3BF 3BG 3BT 4BF 4BG 4BT" ++
    weapons "fc" "1AF 1CG 1BT 2CF 2BG 2BT 3BF 3BG 3BT 4BF 4BG 4BT" ++
    weapons "rg" "1DF 2BF 3BF 4BF" ++
    weapons "pa" "1CF 2BF 3AF 4AF" ++
    weapons "ml" "1DF 1ET 2EF 2ET 3EF 3ET 4EF 4ET" ++
    weapons "nl" "1IF 2DF 3DF 4DF" ++
    weapons "tp" "1IF 2IF 3IF 4IF" ++
    weapons "mr" "1BFD 1BFS 2BFD 2BFS" ++
    ["cs", "ws", "kw", "sb"].flatMap (graded · [0] "EDCBA") ++
    [special "cm" 0 'I' "cm0ch" "Chaff Launcher", special "cm" 0 'I' "cm0hs" "Heat Sink Launcher",
      special "cm" 0 'I' "cm0po" "Point Defence", special "cm" 0 'I' "cm0ec" "Electronic Countermeasure"]

/-- The records of models whose external ids start at `first`. -/
def records (first : Nat) (models : List Model) : List ModuleRecord :=
  models.mapIdx fun i m =>
    { id := m.id, externalId := s!"{first + i}", name := m.named.map Prod.snd, group := m.group
      classText := s!"{m.size}", rating := String.singleton m.rating
      mode := m.mount.map String.singleton, missile := m.guidance.map String.singleton }

/-- The grades of hull armour. -/
def armourGrades : List String :=
  ["Lightweight Alloy", "Reinforced Alloy", "Military Grade Composite", "Mirrored Surface Composite",
    "Reactive Surface Composite"]

/-- The armour of the ship with a given number. -/
def armour (number : Nat) : List ArmourRecord :=
  armourGrades.mapIdx fun grade name =>
    { id := s!"b{number / 10}{number % 10}{grade}", name, classText := "1", rating := "I" }

/-- The external id of the first module. -/
def firstExternal : Nat := 1001

/-- The reference document. -/
def document : Document :=
  { standard := records firstExternal standardModels
    internal := records (firstExternal + standardModels.length) internalModels
    hardpoints := records (firstExternal + standardModels.length + internalModels.length) hardpointModels
    bulkheads := Ship.all.mapIdx fun number ship => (ship.name, armour number) }

end StationFinder.Catalog.Reference

namespace StationFinder.Catalog

/-- The reference catalog. -/
def reference : Except Fault Catalog := ofDocument Reference.document

end StationFinder.Catalog
