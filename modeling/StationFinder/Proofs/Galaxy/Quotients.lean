import StationFinder.Proofs.Galaxy.Geometry

/-!
# Places from rounded quotients

The place of a coordinate is found by exact division here. A machine divides the coordinate by the side, rounds the
quotient to the nearest double, and only then rounds to a whole number. It could round up to a halfway point first and
away from it afterwards. It never does (`Sector.axisPlace?_eq_of_isNearest`): the halfway points within reach are
doubles, and so are the coordinates that belong to them, and the last coordinate below such a one lies so far below it
that its quotient is nearer to the last double below the halfway point (`Sector.exists_halfway`).
-/

namespace StationFinder

namespace Binary64

/-- A double that is nearest to a fraction. There can be two. -/
structure IsNearest (q : Binary64) (t : ℚ) : Prop where
  isFinite : q.isFinite = true
  le : ∀ d : Binary64, d.isFinite = true → |q.exact - t| ≤ |d.exact - t|

/-! ### Magnitudes and signs -/

/-- The absolute value grows with the magnitude. -/
theorem absUnits_lt_of_magnitude_lt {x y : Binary64} (h : x.magnitude < y.magnitude) : x.absUnits < y.absUnits := by
  have hx : fractionCount * x.exponentBits + x.fractionBits = x.magnitude := Nat.div_add_mod _ _
  have hy : fractionCount * y.exponentBits + y.fractionBits = y.magnitude := Nat.div_add_mod _ _
  have hfraction : x.fractionBits < fractionCount := Nat.mod_lt _ (by decide)
  have hexponent : x.exponentBits ≤ y.exponentBits := Nat.div_le_div_right h.le
  have hpow (e : Nat) : 0 < 2 ^ e := Nat.two_pow_pos e
  simp only [absUnits, Nat.shiftLeft_eq]
  rcases hexponent.lt_or_eq with hlt | heq
  · -- The larger one is at least the power of two that its exponent stands for, and the other one is below that.
    have hle : fractionCount * 2 ^ (y.exponentBits - 1) ≤ (fractionCount + y.fractionBits) * 2 ^ (y.exponentBits - 1) :=
      Nat.mul_le_mul_right _ (Nat.le_add_right _ _)
    rw [if_neg (Nat.ne_zero_of_lt hlt)]
    refine Nat.lt_of_lt_of_le ?_ hle
    split
    · exact hfraction.trans_le (Nat.le_mul_of_pos_right _ (hpow _))
    · have hpowers : 2 * 2 ^ (x.exponentBits - 1) ≤ 2 ^ (y.exponentBits - 1) := by
        rw [← pow_succ']
        exact Nat.pow_le_pow_right Nat.two_pos (by omega)
      calc (fractionCount + x.fractionBits) * 2 ^ (x.exponentBits - 1)
          < (fractionCount * 2) * 2 ^ (x.exponentBits - 1) := Nat.mul_lt_mul_of_pos_right (by omega) (hpow _)
        _ ≤ fractionCount * 2 ^ (y.exponentBits - 1) := by
          rw [Nat.mul_assoc]
          exact Nat.mul_le_mul_left _ hpowers
  · rw [heq] at hx ⊢
    have hfractions : x.fractionBits < y.fractionBits := by omega
    split
    · exact hfractions
    · exact Nat.mul_lt_mul_of_pos_right (by omega) (hpow _)

theorem absUnits_le_of_magnitude_le {x y : Binary64} (h : x.magnitude ≤ y.magnitude) : x.absUnits ≤ y.absUnits := by
  rcases h.lt_or_eq with hlt | heq
  · exact (absUnits_lt_of_magnitude_lt hlt).le
  · rw [absUnits, absUnits, exponentBits, exponentBits, fractionBits, fractionBits, heq]

theorem exact_eq (x : Binary64) : x.exact = if x.isNegative then -|x.exact| else |x.exact| := by
  rw [abs_exact, exact, units]
  split
  · push_cast
    exact neg_div _ _
  · push_cast
    rfl

/-- The distance of a double from a fraction on its side of zero is that of their absolute values. -/
theorem abs_exact_sub_of_isNegative {d : Binary64} {t : ℚ} (h : d.isNegative = decide (t < 0)) :
    |d.exact - t| = |(|d.exact| - |t|)| := by
  have hd := exact_eq d
  rcases lt_or_ge t 0 with hneg | hpos
  · rw [h, decide_eq_true hneg, if_pos rfl] at hd
    rw [abs_of_neg hneg, ← abs_neg (|d.exact| - -t)]
    congr 1
    linarith
  · rw [h, decide_eq_false (not_lt.2 hpos), if_neg Bool.false_ne_true] at hd
    rw [abs_of_nonneg hpos, ← hd]

theorem absRound_le_iff {q : Binary64} {k : Nat} : q.absRound ≤ k ↔ |q.exact| < k + 1 / 2 := by
  have h := Sector.div_le_iff_lt (n := q.absUnits) (k := k) Nat.one_pos unitsPerOne_pos
  rw [Nat.one_mul, Nat.mul_one, Nat.cast_one, one_mul] at h
  rw [absRound, h, abs_exact]

end Binary64

namespace Sector

open Binary64 (unitsPerOne IsNearest)

/-! ### Halfway points -/

/-- The double halfway between a whole number up to the reach and the next one, and the coordinate which belongs to it,
both by their bits. -/
def halfway (k : Nat) : UInt64 × UInt64 :=
  [(0x3FE0000000000000, 0x4049000000000000), (0x3FF8000000000000, 0x4062C00000000000),
    (0x4004000000000000, 0x406F400000000000), (0x400C000000000000, 0x4075E00000000000),
    (0x4012000000000000, 0x407C200000000000), (0x4016000000000000, 0x4081300000000000),
    (0x401A000000000000, 0x4084500000000000), (0x401E000000000000, 0x4087700000000000),
    (0x4021000000000000, 0x408A900000000000), (0x4023000000000000, 0x408DB00000000000),
    (0x4025000000000000, 0x4090680000000000)].getD k (0, 0)

/-- A halfway point with the last double below it, on either side of zero, and the coordinate that belongs to it with
the last one below that, all in units. -/
theorem halfway_units (k : Fin (reach + 1)) (negative : Bool) :
    ∃ half below edge last : Binary64, half.isFinite = true ∧ below.isFinite = true ∧ half.isNegative = negative ∧
      below.isNegative = negative ∧ 2 * half.absUnits = (2 * k + 1) * unitsPerOne ∧
      below.absUnits < half.absUnits ∧ edge.absUnits = side * half.absUnits ∧ last.magnitude + 1 = edge.magnitude ∧
      2 * last.absUnits < side * (below.absUnits + half.absUnits) := by
  have hall : ∀ k : Fin (reach + 1), ∀ negative : Bool,
      let sign : UInt64 := if negative then 0x8000000000000000 else 0
      let half : Binary64 := ⟨(halfway k).1 + sign⟩
      let below : Binary64 := ⟨(halfway k).1 + sign - 1⟩
      let edge : Binary64 := ⟨(halfway k).2⟩
      let last : Binary64 := ⟨(halfway k).2 - 1⟩
      half.isFinite = true ∧ below.isFinite = true ∧ half.isNegative = negative ∧ below.isNegative = negative ∧
        2 * half.absUnits = (2 * k + 1) * unitsPerOne ∧ below.absUnits < half.absUnits ∧
        edge.absUnits = side * half.absUnits ∧ last.magnitude + 1 = edge.magnitude ∧
        2 * last.absUnits < side * (below.absUnits + half.absUnits) := by decide +kernel
  exact ⟨_, _, _, _, hall k negative⟩

/-- On either side of zero there are a halfway point and a double below it, so that a coordinate which is less than a
side times the halfway point is less than a side times the middle between the two. -/
theorem exists_halfway {k : Nat} (hk : k ≤ reach) (negative : Bool) :
    ∃ half below : Binary64, half.isFinite = true ∧ below.isFinite = true ∧ half.isNegative = negative ∧
      below.isNegative = negative ∧ |half.exact| = k + 1 / 2 ∧ |below.exact| < k + 1 / 2 ∧
      ∀ c : Binary64, |c.exact| < side * (k + 1 / 2) → 2 * |c.exact| < side * (|below.exact| + (k + 1 / 2)) := by
  obtain ⟨half, below, edge, last, hhalf, hbelow, hhalf_sign, hbelow_sign, hunits, hlt, hedge, hlast, hgap⟩ :=
    halfway_units ⟨k, Nat.lt_succ_of_le hk⟩ negative
  have hunit : (0 : ℚ) < unitsPerOne := by exact_mod_cast Binary64.unitsPerOne_pos
  have hvalue : (half.absUnits : ℚ) / unitsPerOne = k + 1 / 2 := by
    have hunits' : (2 : ℚ) * half.absUnits = (2 * k + 1) * unitsPerOne := by exact_mod_cast hunits
    rw [div_eq_iff hunit.ne']
    linarith
  refine ⟨half, below, hhalf, hbelow, hhalf_sign, hbelow_sign, ?_, ?_, ?_⟩
  · rw [Binary64.abs_exact]
    exact hvalue
  · rw [Binary64.abs_exact, ← hvalue, div_lt_div_iff_of_pos_right hunit]
    exact_mod_cast hlt
  · intro c hc
    rw [Binary64.abs_exact, ← hvalue] at hc ⊢
    rw [Binary64.abs_exact]
    have hunder : c.absUnits < edge.absUnits := by
      rw [← mul_div_assoc, div_lt_div_iff_of_pos_right hunit] at hc
      rw [hedge]
      exact_mod_cast hc
    have hmagnitude : c.magnitude ≤ last.magnitude := by
      by_contra hover
      have hge := Binary64.absUnits_le_of_magnitude_le (x := edge) (y := c) (by omega)
      omega
    have hle := Binary64.absUnits_le_of_magnitude_le hmagnitude
    have hgap' : (2 : ℚ) * c.absUnits < side * (below.absUnits + half.absUnits) := by
      exact_mod_cast (Nat.mul_le_mul_left 2 hle).trans_lt hgap
    rw [← add_div, ← mul_div_assoc, ← mul_div_assoc, div_lt_div_iff_of_pos_right hunit]
    exact hgap'

/-! ### Rounding twice -/

/-- The nearest double to the quotient of a coordinate rounds as the quotient does. -/
theorem absRound_le_iff_of_isNearest {c q : Binary64} (hq : q.IsNearest (c.exact / side)) {k : Nat} (hk : k ≤ reach) :
    q.absRound ≤ k ↔ |c.exact| < side * (k + 1 / 2) := by
  obtain ⟨half, below, hhalf, hbelow, hhalf_sign, hbelow_sign, hvalue, hlt, hgap⟩ :=
    exists_halfway hk (decide (c.exact / side < 0))
  have hside : (0 : ℚ) < side := by exact_mod_cast (show 0 < side by decide)
  have hquotient : |c.exact| = side * |c.exact / side| := by
    rw [abs_div, Nat.abs_cast, mul_div_cancel₀ _ hside.ne']
  have hq_far : |(|q.exact| - |c.exact / side|)| ≤ |q.exact - c.exact / side| := abs_abs_sub_abs_le_abs_sub _ _
  have hq_half := hq.le half hhalf
  have hq_below := hq.le below hbelow
  rw [Binary64.abs_exact_sub_of_isNegative hhalf_sign, hvalue] at hq_half
  rw [Binary64.abs_exact_sub_of_isNegative hbelow_sign] at hq_below
  rw [Binary64.absRound_le_iff, hquotient, mul_lt_mul_iff_right₀ hside]
  have hgap := hgap c
  rw [hquotient, mul_lt_mul_iff_right₀ hside, mul_left_comm, mul_lt_mul_iff_right₀ hside] at hgap
  generalize |q.exact - c.exact / side| = error at hq_far hq_half hq_below
  generalize |c.exact / side| = t at *
  rw [abs_le] at hq_far
  constructor
  · intro hlow
    by_contra hhigh
    -- The halfway point would be nearer to the quotient.
    rw [abs_of_nonpos (sub_nonpos.2 (not_lt.1 hhigh))] at hq_half
    linarith
  · intro hlow
    by_contra hhigh
    -- The double below the halfway point would be nearer.
    have hmiddle := hgap hlow
    rcases le_total |below.exact| t with hle | hge
    · rw [abs_of_nonpos (sub_nonpos.2 hle)] at hq_below
      linarith
    · rw [abs_of_nonneg (sub_nonneg.2 hge)] at hq_below
      linarith

/-- The nearest double to the quotient of a coordinate is on the same side of zero, unless one of them is zero. -/
theorem isNegative_of_isNearest {c q : Binary64} (hq : q.IsNearest (c.exact / side)) (hc_pos : 0 < |c.exact|)
    (hq_pos : 0 < |q.exact|) : q.isNegative = c.isNegative := by
  have hside : (0 : ℚ) < side := by exact_mod_cast (show 0 < side by decide)
  have hquotient : 0 < |c.exact| / side := div_pos hc_pos hside
  have hzero : |q.exact - c.exact / side| ≤ |c.exact| / side := by
    have h := hq.le ⟨0⟩ (by decide)
    have hexact : (⟨0⟩ : Binary64).exact = 0 := by
      rw [Binary64.exact, show (⟨0⟩ : Binary64).units = 0 by decide, Int.cast_zero, zero_div]
    rwa [hexact, zero_sub, abs_neg, abs_div, Nat.abs_cast] at h
  have hc_exact := Binary64.exact_eq c
  have hq_exact := Binary64.exact_eq q
  generalize |c.exact| = a at *
  generalize |q.exact| = b at *
  rw [abs_le] at hzero
  cases hq_sign : q.isNegative <;> cases hc_sign : c.isNegative
  case false.false | true.true => rfl
  case false.true =>
    rw [hc_sign, if_pos rfl] at hc_exact
    rw [hq_sign, if_neg Bool.false_ne_true] at hq_exact
    rw [hc_exact, hq_exact, neg_div] at hzero
    linarith
  case true.false =>
    rw [hc_sign, if_neg Bool.false_ne_true] at hc_exact
    rw [hq_sign, if_pos rfl] at hq_exact
    rw [hc_exact, hq_exact] at hzero
    linarith

/-- **Rounding twice does no harm.** The place of a coordinate is what comes of the quotient by the side as a machine
rounds it: to a nearest double, then to the nearest whole number with halves going away from zero. -/
theorem axisPlace?_eq_of_isNearest {c q : Binary64} (hc : c.isFinite = true) (hq : q.IsNearest (c.exact / side)) :
    axisPlace? c =
      if reach < q.absRound then none else some (if q.isNegative then -(q.absRound : Int) else q.absRound) := by
  have hsteps : ∀ k ≤ reach,
      (2 * c.absUnits + side * unitsPerOne) / (2 * side * unitsPerOne) ≤ k ↔ q.absRound ≤ k := by
    intro k hk
    rw [div_le_iff_lt (by decide) Binary64.unitsPerOne_pos, absRound_le_iff_of_isNearest hq hk, Binary64.abs_exact,
      mul_add, mul_one_div]
  simp only [axisPlace?, hc, Bool.not_true, Bool.false_or, decide_eq_true_eq]
  generalize (2 * c.absUnits + side * unitsPerOne) / (2 * side * unitsPerOne) = steps at hsteps ⊢
  by_cases hbeyond : reach < q.absRound
  · have hbeyond' : reach < steps := not_le.1 ((not_congr (hsteps reach le_rfl)).2 (not_le.2 hbeyond))
    rw [if_pos hbeyond, if_pos hbeyond']
  · have hwithin : q.absRound ≤ reach := not_lt.1 hbeyond
    have heq : steps = q.absRound := by
      refine le_antisymm ((hsteps _ hwithin).2 le_rfl) ((hsteps _ ?_).1 le_rfl)
      exact (hsteps reach le_rfl).2 hwithin
    subst heq
    rw [if_neg hbeyond, if_neg hbeyond]
    congr 1
    rcases Nat.eq_zero_or_pos q.absRound with hzero | hpos
    · simp [hzero]
    · have hq_far := (not_congr (Binary64.absRound_le_iff (k := 0))).1 (Nat.not_le.2 hpos)
      have hc_far := (not_congr (absRound_le_iff_of_isNearest hq (Nat.zero_le _))).1 (Nat.not_le.2 hpos)
      have hside : (0 : ℚ) < side := by exact_mod_cast (show 0 < side by decide)
      rw [isNegative_of_isNearest hq]
      · refine lt_of_lt_of_le ?_ (not_lt.1 hc_far)
        rw [Nat.cast_zero, zero_add]
        exact mul_pos hside one_half_pos
      · refine lt_of_lt_of_le ?_ (not_lt.1 hq_far)
        rw [Nat.cast_zero, zero_add]
        exact one_half_pos

end Sector

end StationFinder
