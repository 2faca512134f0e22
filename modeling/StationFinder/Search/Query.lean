import StationFinder.Galaxy.Station

/-!
# Queries

What somebody wants to put together: a ship, modules of some categories, or both.

What is wanted and what is found of it is counted in numbers of any size. Counts and sums in thirty-two bits are the
same as long as fewer than `2 ^ 32` modules are wanted, since no more are found (`Query.found_le_wanted`).
-/

namespace StationFinder

/-- A wanted ship and wanted modules. -/
structure Query where
  ship : Option Ship
  /-- The wanted modules of a category, if there are any. -/
  matcher : Category → Option Matcher

namespace Query

/-- How many modules are wanted, in all categories together. -/
def wanted (q : Query) : Nat := Category.total fun c => ((q.matcher c).map Matcher.count).getD 0

/-- Is nothing wanted? -/
def isEmpty (q : Query) : Bool := q.ship.isNone && q.wanted = 0

/-- How many of the wanted modules a stock holds. -/
def found (q : Query) (stock : Inventory) : Nat :=
  Category.total fun c => ((q.matcher c).map (·.matchCount (stock.get c))).getD 0

/-- Does a station sell the wanted ship? Never if no ship is wanted. -/
def soldBy (q : Query) (station : Station) : Bool := q.ship.any station.sells

end Query

end StationFinder
