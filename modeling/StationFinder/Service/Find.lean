import StationFinder.Service.App
import StationFinder.Service.View
import StationFinder.Text.Search

/-!
# Searching for what is wanted

A search is asked for by a few texts: the name of a ship, and for each category a list of module ids with commas
between them. Blanks around an id do not count, nor do entries without any, nor a ship's name of blanks alone.
-/

namespace StationFinder

/-- The texts of a search. -/
structure FindParams where
  ship : Option String
  standard : Option String
  internal : Option String
  hardpoints : Option String
  utilities : Option String
deriving DecidableEq, Repr

namespace FindParams

/-- The list of modules of a category. -/
def listed (p : FindParams) : Category → Option String
  | .standard => p.standard
  | .internal => p.internal
  | .hardpoint => p.hardpoints
  | .utility => p.utilities

/-- The ids in a list. -/
def idsIn (list : String) : List String :=
  (((Text.splitAt ',' list.toList).map Text.trimChars).filter (!·.isEmpty)).map String.ofList

/-- The wanted modules of a category, by their ids. -/
def ids (p : FindParams) (category : Category) : List String := ((p.listed category).map idsIn).getD []

/-- The wanted ship, if its name is not blank. -/
def wantedShip (p : FindParams) : Except Fault (Option Ship) :=
  match p.ship.filter fun name => Text.trim name ≠ "" with
  | some name => some <$> Ship.parse name
  | none => .ok none

/-- What is wanted. The ship is looked at first, then the categories in their usual order. -/
def query (p : FindParams) (catalog : Catalog) : Except Fault Query := do
  let ship ← p.wantedShip
  let standard ← catalog.matcher .standard (p.ids .standard)
  let internal ← catalog.matcher .internal (p.ids .internal)
  let hardpoint ← catalog.matcher .hardpoint (p.ids .hardpoint)
  let utility ← catalog.matcher .utility (p.ids .utility)
  return {
    ship
    matcher := fun
      | .standard => standard
      | .internal => internal
      | .hardpoint => hardpoint
      | .utility => utility }

end FindParams

/-- The answer to a search around a system. -/
def App.findNear (app : App) (size : EntrySize) (origin : String) (params : FindParams) :
    Except Failure (List CandidateView) := do
  let query ← (params.query app.catalog).mapError .fault
  let candidates ← app.store.findNear size app.settings.search origin query
  return candidates.map app.catalog.viewCandidate

end StationFinder
