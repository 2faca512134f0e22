import StationFinder.Numeric.Binary64
import Std.Data.ExtTreeMap

/-!
# Sectors

Space is cut into cubes of a hundred light-years, the sectors, centred on the points whose coordinates are whole
multiples of a hundred. Only the sectors up to ten steps from the middle along each axis are inhabited. Distances
between sectors are counted in steps along the axis on which they are farthest apart; the sectors at one distance
from a sector form a shell around it.
-/

namespace StationFinder

/-- A sector, by its place on each axis. -/
structure Sector where
  x : Int
  y : Int
  z : Int
deriving DecidableEq, Repr

namespace Sector

/-! ### Order -/

/-- Sectors are ordered by their places on the axes, the first axis first. -/
instance : Ord Sector :=
  ⟨compareLex (compareOn Sector.x) (compareLex (compareOn Sector.y) (compareOn Sector.z))⟩

instance : Std.TransOrd Sector :=
  inferInstanceAs (Std.TransCmp
    (compareLex (compareOn Sector.x) (compareLex (compareOn Sector.y) (compareOn Sector.z))))

instance : Std.LawfulEqOrd Sector where
  eq_of_compare {a b} h := by
    have h : compareLex (compareOn x) (compareLex (compareOn y) (compareOn z)) a b = .eq := h
    simp only [compareLex, Ordering.then_eq_eq, compareOn, Std.LawfulEqCmp.compare_eq_iff_eq] at h
    cases a; cases b; simp_all

/-! ### The sector of a point -/

/-- The side of a sector in light-years. -/
def side : Nat := 100

/-- How far the inhabited sectors reach along each axis. -/
def reach : Nat := 10

/-- The place of a coordinate on its axis: the nearest multiple of the side, halfway points going away from zero.
There is none for a coordinate that is not finite or lies beyond the reach. -/
def axisPlace? (c : Binary64) : Option Int :=
  let steps := (2 * c.absUnits + side * Binary64.unitsPerOne) / (2 * side * Binary64.unitsPerOne)
  if !c.isFinite || reach < steps then none
  else some (if c.isNegative then -steps else steps)

/-- The sector that holds a point, if the point is in the inhabited range. -/
def of? (x y z : Binary64) : Option Sector := do
  return ⟨← axisPlace? x, ← axisPlace? y, ← axisPlace? z⟩

/-! ### Shells -/

/-- The sector some steps away along each axis. -/
def offset (s : Sector) (dx dy dz : Int) : Sector := ⟨s.x + dx, s.y + dy, s.z + dz⟩

/-- The steps between two sectors along the axis on which they are farthest apart. -/
def distance (a b : Sector) : Nat :=
  max (a.x - b.x).natAbs (max (a.y - b.y).natAbs (a.z - b.z).natAbs)

/-- The whole numbers from `-r` to `r`. -/
def span (r : Nat) : List Int := (List.range (2 * r + 1)).map fun (i : Nat) => (i : Int) - r

/-- The sectors at distance `r` from a sector: those steps of the cube around it that go out to the surface along
some axis. -/
def shell (origin : Sector) (r : Nat) : List Sector :=
  (span r).flatMap fun dx => (span r).flatMap fun dy => (span r).filterMap fun dz =>
    if dx.natAbs = r ∨ dy.natAbs = r ∨ dz.natAbs = r then some (origin.offset dx dy dz) else none

end Sector

end StationFinder
