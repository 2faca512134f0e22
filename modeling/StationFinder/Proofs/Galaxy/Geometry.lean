import Mathlib.Algebra.Order.Field.Basic
import Mathlib.Algebra.Order.Field.Rat
import Mathlib.Algebra.Order.Ring.Abs
import Mathlib.Tactic.FieldSimp
import Mathlib.Tactic.Linarith
import Mathlib.Tactic.Ring
import StationFinder.Galaxy.StarSystem

/-!
# Sectors and distances in space

A coordinate is at most half a side away from the middle of its place on the axis (`Sector.abs_exact_sub_le`), so
points in sectors that are more than some steps apart are at least as many sides apart
(`Sector.square_le_of_lt_distance`). All this is about the exact values of the coordinates: doubles are fractions here,
and distances are compared by their squares. Coordinates that are equal as numbers have the same place, though there are
two zeros (`Sector.axisPlace?_congr`).
-/

namespace StationFinder

namespace Binary64

/-- The exact value of a finite double. -/
def exact (x : Binary64) : ℚ := x.units / unitsPerOne

theorem unitsPerOne_pos : 0 < unitsPerOne := by
  rw [unitsPerOne, Nat.one_shiftLeft]
  exact Nat.two_pow_pos 1074

theorem abs_exact (x : Binary64) : |x.exact| = (x.absUnits : ℚ) / unitsPerOne := by
  rw [exact, abs_div, Nat.abs_cast, units]
  congr 1
  split
  · push_cast
    rw [abs_neg, Nat.abs_cast]
  · push_cast
    exact Nat.abs_cast _

end Binary64

namespace Sector

/-- The division that finds a place rounds to the nearest one. -/
theorem abs_div_sub_le (n : Nat) {u : Nat} (hu : 0 < u) :
    |(n : ℚ) / u - side * ((2 * n + side * u) / (2 * side * u) : Nat)| ≤ side / 2 := by
  have hu' : (0 : ℚ) < u := by exact_mod_cast hu
  have hside : 0 < 2 * side * u := Nat.mul_pos (by decide) hu
  generalize hk : (2 * n + side * u) / (2 * side * u) = k
  have hlow : k * (2 * side * u) ≤ 2 * n + side * u := hk ▸ Nat.div_mul_le_self _ _
  have hhigh : 2 * n + side * u < 2 * side * u * (k + 1) := hk ▸ Nat.lt_mul_div_succ _ hside
  have hlow : (k : ℚ) * (2 * side * u) ≤ 2 * n + side * u := by exact_mod_cast hlow
  have hhigh : (2 : ℚ) * n + side * u < 2 * side * u * (k + 1) := by exact_mod_cast hhigh
  rw [abs_le, show (n : ℚ) / u - side * k = (n - side * k * u) / u by field_simp, le_div_iff₀ hu', div_le_iff₀ hu']
  constructor <;> linarith

/-- A coordinate is in the place to whose middle it is nearest. -/
theorem abs_exact_sub_le {c : Binary64} {n : Int} (h : axisPlace? c = some n) : |c.exact - side * n| ≤ side / 2 := by
  have hround := abs_div_sub_le c.absUnits Binary64.unitsPerOne_pos
  simp only [axisPlace?, Option.ite_none_left_eq_some, Option.some.injEq] at h
  obtain ⟨-, rfl⟩ := h
  generalize (2 * c.absUnits + side * Binary64.unitsPerOne) / (2 * side * Binary64.unitsPerOne) = steps at hround ⊢
  unfold Binary64.exact Binary64.units
  split
  · rw [← abs_neg]
    push_cast
    convert hround using 2
    ring
  · push_cast
    exact hround

/-- The division that rounds to the nearest multiple gives at most `k` for what is less than half a multiple beyond the
`k`-th one. -/
theorem div_le_iff_lt {n s u k : Nat} (hs : 0 < s) (hu : 0 < u) :
    (2 * n + s * u) / (2 * s * u) ≤ k ↔ (n : ℚ) / u < s * k + s / 2 := by
  have hu' : (0 : ℚ) < u := by exact_mod_cast hu
  have hsu : 0 < 2 * s * u := Nat.mul_pos (Nat.mul_pos Nat.two_pos hs) hu
  rw [← Nat.lt_succ_iff, Nat.div_lt_iff_lt_mul hsu, div_lt_iff₀ hu', ← Nat.cast_lt (α := ℚ)]
  push_cast
  constructor <;> intro h <;> linarith

/-- The coordinates that have a place on an axis are those less than half a side beyond the reach. -/
theorem isSome_axisPlace?_iff {c : Binary64} :
    (axisPlace? c).isSome = true ↔ c.isFinite = true ∧ |c.exact| < side * reach + side / 2 := by
  have hsteps : (2 * c.absUnits + side * Binary64.unitsPerOne) / (2 * side * Binary64.unitsPerOne) ≤ reach ↔
      |c.exact| < side * reach + side / 2 := by
    rw [div_le_iff_lt (by decide) Binary64.unitsPerOne_pos, Binary64.abs_exact]
  rw [← hsteps, ← not_lt]
  cases hfinite : c.isFinite with
  | true => simp [axisPlace?, hfinite]
  | false => simp [axisPlace?, hfinite]

/-- A place is not beyond the reach. -/
theorem natAbs_le_reach {c : Binary64} {n : Int} (h : axisPlace? c = some n) : n.natAbs ≤ reach := by
  simp only [axisPlace?, Option.ite_none_left_eq_some, Option.some.injEq, Bool.or_eq_true, decide_eq_true_eq,
    not_or, not_lt] at h
  obtain ⟨⟨-, hsteps⟩, rfl⟩ := h
  split
  · rwa [Int.natAbs_neg, Int.natAbs_natCast]
  · rwa [Int.natAbs_natCast]

/-- Coordinates in places that are more than some steps apart are at least as many sides apart. -/
theorem le_abs_exact_sub {c d : Binary64} {m n : Int} (hc : axisPlace? c = some m) (hd : axisPlace? d = some n)
    {r : Nat} (h : r < (m - n).natAbs) : (side * r : ℚ) ≤ |c.exact - d.exact| := by
  have hc := abs_exact_sub_le hc
  have hd := abs_exact_sub_le hd
  have hsteps : (r : ℚ) + 1 ≤ |(m : ℚ) - n| := by
    rw [← Int.cast_sub, ← Int.cast_abs, Int.abs_eq_natAbs]
    exact_mod_cast h
  have hmiddles : (side : ℚ) * (r + 1) ≤ |(side : ℚ) * m - side * n| := by
    rw [← mul_sub, abs_mul, Nat.abs_cast]
    exact mul_le_mul_of_nonneg_left hsteps (Nat.cast_nonneg side)
  have hsplit : |(side : ℚ) * m - side * n| ≤ |c.exact - side * m| + |c.exact - d.exact| + |d.exact - side * n| := by
    rw [abs_sub_comm c.exact (side * m),
      show (side : ℚ) * m - side * n = side * m - c.exact + (c.exact - d.exact) + (d.exact - side * n) by ring]
    exact (abs_add_le _ _).trans (add_le_add (abs_add_le _ _) le_rfl)
  linarith

/-- A coordinate that has a place on its axis is a number. -/
theorem isNaN_of_axisPlace? {c : Binary64} {n : Int} (h : axisPlace? c = some n) : c.isNaN = false := by
  have hfinite : c.isFinite = true := by
    by_contra hno
    simp [axisPlace?, hno] at h
  simp only [Binary64.isFinite, decide_eq_true_eq] at hfinite
  simp only [Binary64.isNaN, decide_eq_false_iff_not]
  omega

/-- The two zeros have the same place, in the middle. -/
theorem axisPlace?_of_isZero {c : Binary64} (h : c.isZero = true) : axisPlace? c = some 0 := by
  have hmagnitude : c.magnitude = 0 := by simpa [Binary64.isZero] using h
  have hfinite : c.isFinite = true := by simp [Binary64.isFinite, Binary64.infiniteMagnitude, hmagnitude]
  have hunits : c.absUnits = 0 := by
    simp [Binary64.absUnits, Binary64.exponentBits, Binary64.fractionBits, hmagnitude]
  have hsteps : side * Binary64.unitsPerOne / (2 * side * Binary64.unitsPerOne) = 0 := by
    refine Nat.div_eq_of_lt ?_
    have hpos := Binary64.unitsPerOne_pos
    rw [side]
    omega
  simp only [axisPlace?, hunits, Nat.mul_zero, Nat.zero_add, hsteps, hfinite]
  simp

/-- Equal numbers have the same place on an axis. -/
theorem axisPlace?_congr {c d : Binary64} (h : c.sameNumber d = true) : axisPlace? d = axisPlace? c := by
  simp only [Binary64.sameNumber, Bool.and_eq_true, Bool.or_eq_true, beq_iff_eq] at h
  obtain ⟨-, hbits | ⟨hc, hd⟩⟩ := h
  · have hcd : c = d := by
      cases c
      exact congrArg Binary64.mk hbits
    rw [hcd]
  · rw [axisPlace?_of_isZero hc, axisPlace?_of_isZero hd]

theorem of?_eq_some_iff {x y z : Binary64} {s : Sector} :
    of? x y z = some s ↔ axisPlace? x = some s.x ∧ axisPlace? y = some s.y ∧ axisPlace? z = some s.z := by
  cases s
  simp [of?, Option.bind_eq_some_iff]

/-- The points in the inhabited range are those with three such coordinates. -/
theorem isSome_of?_iff {x y z : Binary64} :
    (of? x y z).isSome = true ↔
      (axisPlace? x).isSome = true ∧ (axisPlace? y).isSome = true ∧ (axisPlace? z).isSome = true := by
  simp only [Option.isSome_iff_exists, of?_eq_some_iff]
  constructor
  · rintro ⟨s, hx, hy, hz⟩
    exact ⟨⟨_, hx⟩, ⟨_, hy⟩, ⟨_, hz⟩⟩
  · rintro ⟨⟨i, hx⟩, ⟨j, hy⟩, ⟨k, hz⟩⟩
    exact ⟨⟨i, j, k⟩, hx, hy, hz⟩

/-- Points in sectors that are more than some steps apart are at least as many sides apart. -/
theorem square_le_of_lt_distance {x y z x' y' z' : Binary64} {s t : Sector} (hs : of? x y z = some s)
    (ht : of? x' y' z' = some t) {r : Nat} (h : r < s.distance t) :
    ((side : ℚ) * r) ^ 2 ≤ (x.exact - x'.exact) ^ 2 + (y.exact - y'.exact) ^ 2 + (z.exact - z'.exact) ^ 2 := by
  have hsquare {c d : Binary64} (hcd : (side * r : ℚ) ≤ |c.exact - d.exact|) :
      ((side : ℚ) * r) ^ 2 ≤ (c.exact - d.exact) ^ 2 := by
    rw [← sq_abs (c.exact - d.exact)]
    exact pow_le_pow_left₀ (mul_nonneg (Nat.cast_nonneg _) (Nat.cast_nonneg _)) hcd 2
  obtain ⟨hsx, hsy, hsz⟩ := of?_eq_some_iff.1 hs
  obtain ⟨htx, hty, htz⟩ := of?_eq_some_iff.1 ht
  have hx := sq_nonneg (x.exact - x'.exact)
  have hy := sq_nonneg (y.exact - y'.exact)
  have hz := sq_nonneg (z.exact - z'.exact)
  simp only [distance, lt_max_iff] at h
  rcases h with h | h | h
  · have := hsquare (le_abs_exact_sub hsx htx h)
    linarith
  · have := hsquare (le_abs_exact_sub hsy hty h)
    linarith
  · have := hsquare (le_abs_exact_sub hsz htz h)
    linarith

end Sector

namespace StarSystem

/-- The square of the distance between two systems, exactly. -/
def squareTo (s t : StarSystem) : ℚ :=
  (s.x.exact - t.x.exact) ^ 2 + (s.y.exact - t.y.exact) ^ 2 + (s.z.exact - t.z.exact) ^ 2

/-- Systems in sectors that are more than some steps apart are at least as many sides apart. -/
theorem square_le_squareTo {s t : StarSystem} (hs : Sector.of? s.x s.y s.z = some s.sector)
    (ht : Sector.of? t.x t.y t.z = some t.sector) {r : Nat} (h : r < s.sector.distance t.sector) :
    ((Sector.side : ℚ) * r) ^ 2 ≤ s.squareTo t :=
  Sector.square_le_of_lt_distance hs ht h

end StarSystem

end StationFinder
