import Mathlib.Algebra.Order.Field.Rat
import Mathlib.Tactic.FieldSimp
import Mathlib.Tactic.Linarith
import Mathlib.Tactic.Positivity
import StationFinder.Proofs.Search.Coverage
import StationFinder.Proofs.Search.Shortlist

/-!
# The ranking of one query's candidates

The rank looks at the modules found where both candidates sell the ship, and at the scores otherwise. Between the
candidates of one query this is no more than the score, higher first, and then the distance, nearer first
(`Query.rank_eq_compare`), so the rank is a total preorder on them (`Query.ranksOn_builds`). Together this is
`Query.rank_orders_candidates`; between candidates of several queries the rank need not be transitive.
-/

namespace StationFinder

/-- Scores are compared as fractions. -/
theorem Score.compare_eq (a b : Score) : compare a b = compare a.exact b.exact :=
  (LinearOrder.compare_eq_compareOfLessAndEq a.exact b.exact).symm

namespace Binary64

theorem compare_eq_lt_iff {x y : Binary64} : compare x y = .lt ↔ x.orderKey < y.orderKey :=
  Int.compare_eq_lt

theorem compare_eq_eq_iff {x y : Binary64} : compare x y = .eq ↔ x.orderKey = y.orderKey :=
  Int.compare_eq_eq

/-- In the total order only a double itself has its place. -/
theorem orderKey_inj {x y : Binary64} : x.orderKey = y.orderKey ↔ x = y := by
  refine ⟨fun h => ?_, congrArg _⟩
  have hx := x.bits.toNat_lt
  have hy := y.bits.toNat_lt
  have hbits : x.bits.toNat = y.bits.toNat := by
    unfold orderKey isNegative magnitude signBit at h
    simp only [decide_eq_true_eq] at h
    split at h <;> split at h <;> omega
  cases x
  cases y
  exact congrArg mk (UInt64.toNat_inj.1 hbits)

end Binary64

/-- The first standing has the higher score, or the same score and the shorter distance. -/
def Standing.IsAhead (a b : Standing Score) : Prop :=
  b.score.exact < a.score.exact ∨
    a.score.exact = b.score.exact ∧ a.distance.orderKey < b.distance.orderKey

namespace Query

variable {q : Query}

theorem exact_standing (q : Query) (station : Station) (d : Binary64) :
    (q.standing station d).score.exact =
      (q.found station.inventory : ℚ) / q.wanted + if q.soldBy station then 1 else 0 := rfl

/-- Of two answers with the ship the one with more modules has the higher score. -/
theorem exact_lt_exact_iff (q : Query) {a b : Station} {d e : Binary64} (ha : q.soldBy a) (hb : q.soldBy b) :
    (q.standing a d).score.exact < (q.standing b e).score.exact ↔ q.found a.inventory < q.found b.inventory := by
  have hle := q.found_le_wanted b.inventory
  simp only [exact_standing, ha, hb, if_true, add_lt_add_iff_right]
  rcases Nat.eq_zero_or_pos q.wanted with h0 | hpos
  · simp [h0]
    omega
  · rw [div_lt_div_iff_of_pos_right (by exact_mod_cast hpos)]
    exact Nat.cast_lt

/-- Among the answers to a query the rank compares the scores, then the distances. -/
theorem rank_eq_compare (q : Query) (a b : Station) (d e : Binary64) :
    (q.standing a d).rank (q.standing b e) =
      (compare (q.standing b e).score.exact (q.standing a d).score.exact).then (compare d e) := by
  unfold Standing.rank
  refine congrArg (Ordering.then · _) ?_
  split
  · next h =>
    -- Both have the ship, so that the modules decide the scores.
    obtain ⟨ha, hb⟩ := Bool.and_eq_true_iff.1 h
    change compare (q.found b.inventory) (q.found a.inventory) = _
    cases hfound : compare (q.found b.inventory) (q.found a.inventory) with
    | lt => exact (compare_lt_iff_lt.2 ((q.exact_lt_exact_iff hb ha).2 (compare_lt_iff_lt.1 hfound))).symm
    | gt => exact (compare_gt_iff_gt.2 ((q.exact_lt_exact_iff ha hb).2 (compare_gt_iff_gt.1 hfound))).symm
    | eq =>
      have hb : q.soldBy b = true := hb
      have ha : q.soldBy a = true := ha
      rw [eq_comm, compare_eq_iff_eq, exact_standing, exact_standing, compare_eq_iff_eq.1 hfound, ha, hb]
  · exact Score.compare_eq _ _

/-- Among the answers to a query the rank puts one ahead for its score, or at the same score for its distance. -/
theorem rank_eq_lt_iff (q : Query) (a b : Station) (d e : Binary64) :
    (q.standing a d).rank (q.standing b e) = .lt ↔ (q.standing a d).IsAhead (q.standing b e) := by
  rw [rank_eq_compare, Ordering.then_eq_lt, compare_lt_iff_lt, compare_eq_iff_eq, Binary64.compare_eq_lt_iff, eq_comm]
  rfl

theorem rank_eq_eq_iff (q : Query) (a b : Station) (d e : Binary64) :
    (q.standing a d).rank (q.standing b e) = .eq ↔
      (q.standing a d).score.exact = (q.standing b e).score.exact ∧ d.orderKey = e.orderKey := by
  rw [rank_eq_compare, Ordering.then_eq_eq, compare_eq_iff_eq, Binary64.compare_eq_eq_iff, eq_comm]

theorem rank_eq_gt_iff (q : Query) (a b : Station) (d e : Binary64) :
    (q.standing a d).rank (q.standing b e) = .gt ↔ (q.standing b e).IsAhead (q.standing a d) := by
  have hgt : ∀ o : Ordering, o = .gt ↔ ¬ o = .lt ∧ ¬ o = .eq := by decide
  rw [hgt, rank_eq_lt_iff, rank_eq_eq_iff]
  change ¬ (_ ∨ _ ∧ d.orderKey < e.orderKey) ∧ _ ↔ _ ∨ _ ∧ e.orderKey < d.orderKey
  grind

/-! ### Candidates -/

/-- A candidate as a search builds it: it stands as the query says of its station, at whatever distance. -/
def Builds (q : Query) (c : Candidate) : Prop := c.standing = q.standing c.station c.standing.distance

/-- A station of a system as a candidate, whatever its score. -/
def candidate (q : Query) (origin system : StarSystem) (station : Station) : Candidate :=
  ⟨system.name, station, q.standing station (system.distanceTo origin).toHundredths⟩

/-- A candidate of the query, from whatever system. -/
def Rates (q : Query) (origin : StarSystem) (c : Candidate) : Prop :=
  ∃ system station, c = q.candidate origin system station

theorem Rates.builds {origin : StarSystem} {c : Candidate} (h : q.Rates origin c) : q.Builds c := by
  obtain ⟨system, station, rfl⟩ := h
  rfl

/-- The search comes upon nothing but what is in some shell. -/
theorem mem_candidatesAt_of_mem_gather {a : Atlas} {origin : StarSystem} {shells radius : Nat} {c : Candidate}
    (hc : c ∈ q.gather a origin shells radius) : ∃ r, c ∈ q.candidatesAt a origin r := by
  induction shells generalizing radius with
  | zero => cases hc
  | succ shells ih =>
    rcases List.mem_append.1 hc with hhere | hbeyond
    · exact ⟨radius, hhere⟩
    · split at hbeyond
      · cases hbeyond
      · exact ih hbeyond

/-- The search builds its candidates from stations and their distances. -/
theorem rates_of_mem_gather {a : Atlas} {origin : StarSystem} {shells radius : Nat} {c : Candidate}
    (hc : c ∈ q.gather a origin shells radius) : q.Rates origin c := by
  obtain ⟨r, hr⟩ := mem_candidatesAt_of_mem_gather hc
  obtain ⟨sector, -, hsector⟩ := List.mem_flatMap.1 hr
  obtain ⟨system, -, hsystem⟩ := List.mem_flatMap.1 hsector
  obtain ⟨station, -, hstation⟩ := List.mem_filterMap.1 hsystem
  obtain ⟨-, hc⟩ := Option.ite_none_right_eq_some.1 hstation
  exact ⟨system, station, (Option.some.inj hc).symm⟩

/-- **The rank is a total preorder on the candidates of a query.** -/
theorem ranksOn_builds (q : Query) : Shortlist.RanksOn Candidate.rank q.Builds where
  swap := by
    intro a b ha hb
    rw [Candidate.rank, Candidate.rank, ha, hb]
    generalize a.standing.distance = d, b.standing.distance = e
    have hlt := q.rank_eq_lt_iff a.station b.station d e
    have hgt := q.rank_eq_gt_iff a.station b.station d e
    cases h : (q.standing a.station d).rank (q.standing b.station e) with
    | lt => exact (q.rank_eq_gt_iff b.station a.station e d).2 (hlt.1 h)
    | gt => exact (q.rank_eq_lt_iff b.station a.station e d).2 (hgt.1 h)
    | eq =>
      obtain ⟨hscore, hdistance⟩ := (q.rank_eq_eq_iff a.station b.station d e).1 h
      exact (q.rank_eq_eq_iff b.station a.station e d).2 ⟨hscore.symm, hdistance.symm⟩
  trans := by
    intro a b c ha hb hc
    rw [Candidate.rank, Candidate.rank, Candidate.rank, ha, hb, hc]
    simp only [ne_eq, rank_eq_gt_iff, Standing.IsAhead]
    intro hab hbc
    grind

theorem ranksOn_candidate (q : Query) (origin : StarSystem) : Shortlist.RanksOn Candidate.rank (q.Rates origin) :=
  q.ranksOn_builds.mono Rates.builds

/-! ### The order of candidates -/

/-- What a station is worth to a query: the part of the wanted modules that it carries, nothing if none are wanted,
and one more if it sells the ship. -/
def worth (q : Query) (station : Station) : ℚ :=
  (if q.wanted = 0 then 0 else (q.found station.inventory : ℚ) / q.wanted) + if q.soldBy station then 1 else 0

theorem exact_eq_worth (q : Query) (station : Station) (d : Binary64) :
    (q.standing station d).score.exact = q.worth station := by
  rw [exact_standing, worth]
  by_cases hnone : q.wanted = 0
  · rw [if_pos hnone, hnone, Nat.cast_zero, div_zero]
  · rw [if_neg hnone]

/-- **The rank orders the candidates of a query.** A search builds its candidates from stations and distances, and
whatever the stations and the distances, the rank compares what the stations are worth, the greater worth first, and
then the distances in the total order of doubles, the shorter first. So it is transitive and total on them, two that are
each not behind the other are equal, and equal are just those with the same worth and the same distance. -/
theorem rank_orders_candidates (q : Query) :
    (∀ (a : Atlas) (origin : StarSystem) (shells radius : Nat), ∀ c ∈ q.gather a origin shells radius, q.Builds c) ∧
    (∀ (systemName : String) (station : Station) (distance : Binary64),
      q.Builds ⟨systemName, station, q.standing station distance⟩) ∧
    ∀ a b c : Candidate, q.Builds a → q.Builds b → q.Builds c →
      a.rank b = (compare (q.worth b.station) (q.worth a.station)).then
        (compare a.standing.distance b.standing.distance) ∧
      b.rank a = (a.rank b).swap ∧
      (a.rank b ≠ .gt → b.rank c ≠ .gt → a.rank c ≠ .gt) ∧
      (a.rank b ≠ .gt ∨ b.rank a ≠ .gt) ∧
      (a.rank b ≠ .gt → b.rank a ≠ .gt → a.rank b = .eq) ∧
      (a.rank b = .eq ↔ q.worth a.station = q.worth b.station ∧ a.standing.distance = b.standing.distance) := by
  refine ⟨fun a origin shells radius c hc => (rates_of_mem_gather hc).builds, fun _ _ _ => rfl, ?_⟩
  intro a b c ha hb hc
  have hswap := q.ranksOn_builds.swap ha hb
  refine ⟨?_, hswap, q.ranksOn_builds.trans ha hb hc, ?_, ?_, ?_⟩
  · rw [Candidate.rank, ha, hb]
    rw [rank_eq_compare, exact_eq_worth, exact_eq_worth]
    rfl
  · rw [hswap]
    cases a.rank b <;> decide
  · rw [hswap]
    cases a.rank b <;> decide
  · rw [Candidate.rank, ha, hb, rank_eq_eq_iff, exact_eq_worth, exact_eq_worth, Binary64.orderKey_inj]
    rfl

/-- A size that a candidate may have. -/
def sampleSize : EntrySize := ⟨256, by decide⟩

/-- The Vulture and one internal module. -/
def vultureWithModule : Query :=
  ⟨some .vulture, fun c => if c = .internal then some ⟨.ofList 2 [1]⟩ else none⟩

/-- The candidate of a station that sells some ships and carries some internal modules, so many light-years away. -/
def vultureWithModuleAt (ships : List Ship) (modules : List Nat) (distance : Binary64) : Candidate :=
  let carried : Inventory := Inventory.unknown.set .internal (some (.ofList 2 modules))
  let station := Station.ofReport 1 ⟨10, "Galileo", none, none, none, none, true, true, some (.ofList ships), carried⟩ 7
  ⟨"Sol", station, vultureWithModule.standing station distance⟩

/-- The ship alone and the module alone are worth the same, and both together more than either. -/
theorem shipAndModule_are_ordered :
    let both := vultureWithModuleAt [.vulture] [1] ⟨0x4044000000000000⟩
    let ship := vultureWithModuleAt [.vulture] [0] ⟨0x3FF0000000000000⟩
    let modules := vultureWithModuleAt [] [0, 1] ⟨0x4014000000000000⟩
    vultureWithModule.Builds both ∧ vultureWithModule.Builds ship ∧ vultureWithModule.Builds modules ∧
      both.rank ship = .lt ∧ ship.rank modules = .lt ∧ both.rank modules ≠ .gt := by
  intro both ship modules
  have hboth : both.rank ship = .lt := by decide +kernel
  have hship : ship.rank modules = .lt := by decide +kernel
  obtain ⟨-, -, horder⟩ := vultureWithModule.rank_orders_candidates
  obtain ⟨-, -, htrans, -⟩ := horder both ship modules rfl rfl rfl
  exact ⟨rfl, rfl, rfl, hboth, hship, htrans (by rw [hboth]; decide) (by rw [hship]; decide)⟩

end Query

/-- Standings of any origin need not be ordered: the scores decide twice, and the modules the third time. -/
example : ∃ a b c : Standing Score, a.rank b = .lt ∧ b.rank c = .lt ∧ a.rank c = .gt :=
  ⟨⟨true, 0, ⟨3, 1, true⟩, ⟨0⟩⟩, ⟨false, 0, ⟨2, 1, false⟩, ⟨0⟩⟩, ⟨true, 1, ⟨0, 1, true⟩, ⟨0⟩⟩, by decide +kernel⟩

end StationFinder
