import Mathlib.Data.List.Basic
import StationFinder.Search.Nearest

/-!
# Full matches

A full match has the wanted ship and every wanted module. The search tells one by counting: all that is wanted was
found. Counting tells it exactly (`Query.found_eq_wanted_iff`), since no category can find more than it wants.
-/

namespace StationFinder

theorem Category.total_le_total {f g : Category → Nat} (h : ∀ c, f c ≤ g c) : total f ≤ total g :=
  Nat.add_le_add (Nat.add_le_add (Nat.add_le_add (h .standard) (h .internal)) (h .hardpoint)) (h .utility)

theorem Matcher.matchCount_le_count (m : Matcher) (carried : Option ModuleSet) : m.matchCount carried ≤ m.count := by
  cases carried with
  | none => exact Nat.zero_le _
  | some set => exact List.length_filter_le _ _

/-- A matcher finds all that it wants in a known set that has all of it, and in no set if it wants nothing. -/
theorem Matcher.matchCount_eq_count_iff (m : Matcher) (carried : Option ModuleSet) :
    m.matchCount carried = m.count ↔ ∀ i ∈ m.wanted, ∃ set, carried = some set ∧ i ∈ set := by
  cases carried with
  | none =>
    simp only [matchCount, count, ModuleSet.size, ModuleSet.mem_def, reduceCtorEq, false_and, exists_false]
    rw [eq_comm, List.length_eq_zero_iff, List.eq_nil_iff_forall_not_mem]
  | some set =>
    simp only [matchCount, count, ModuleSet.size, List.length_filter_eq_length_iff, decide_eq_true_eq,
      ModuleSet.mem_def, Option.some.injEq, exists_eq_left']

namespace Query

/-- Every wanted module is in a stock, in a category of which the stock is known. -/
def IsCoveredBy (q : Query) (stock : Inventory) : Prop :=
  ∀ (c : Category) (m : Matcher), q.matcher c = some m →
    ∀ i ∈ m.wanted, ∃ set, stock.get c = some set ∧ i ∈ set

/-- A station sells the wanted ship and carries every wanted module, of which there are some. -/
def IsSuppliedBy (q : Query) (station : Station) : Prop :=
  (∃ ship, q.ship = some ship ∧ station.sells ship = true) ∧ 0 < q.wanted ∧ q.IsCoveredBy station.inventory

/-- What is found of one category. -/
def foundIn (q : Query) (stock : Inventory) (c : Category) : Nat :=
  ((q.matcher c).map (·.matchCount (stock.get c))).getD 0

/-- What is wanted of one category. -/
def wantedIn (q : Query) (c : Category) : Nat := ((q.matcher c).map Matcher.count).getD 0

theorem foundIn_le_wantedIn (q : Query) (stock : Inventory) (c : Category) : q.foundIn stock c ≤ q.wantedIn c := by
  unfold foundIn wantedIn
  cases q.matcher c with
  | none => exact Nat.le_refl 0
  | some m => exact m.matchCount_le_count _

theorem foundIn_eq_wantedIn_iff (q : Query) (stock : Inventory) (c : Category) :
    q.foundIn stock c = q.wantedIn c ↔
      ∀ m, q.matcher c = some m → ∀ i ∈ m.wanted, ∃ set, stock.get c = some set ∧ i ∈ set := by
  unfold foundIn wantedIn
  cases q.matcher c with
  | none => simp
  | some m =>
    simp only [Option.map_some, Option.getD_some, Option.some.injEq, forall_eq']
    exact m.matchCount_eq_count_iff _

/-- No station has more of the wanted modules than there are. -/
theorem found_le_wanted (q : Query) (stock : Inventory) : q.found stock ≤ q.wanted :=
  Category.total_le_total fun c => q.foundIn_le_wantedIn stock c

/-- All that is wanted was found exactly if it is all there. -/
theorem found_eq_wanted_iff (q : Query) (stock : Inventory) : q.found stock = q.wanted ↔ q.IsCoveredBy stock := by
  have hle := q.foundIn_le_wantedIn stock
  have hsum : q.found stock = q.wanted ↔ ∀ c, q.foundIn stock c = q.wantedIn c := by
    change q.foundIn stock .standard + q.foundIn stock .internal + q.foundIn stock .hardpoint +
      q.foundIn stock .utility = q.wantedIn .standard + q.wantedIn .internal + q.wantedIn .hardpoint +
      q.wantedIn .utility ↔ _
    constructor
    · intro h c
      have h₁ := hle .standard
      have h₂ := hle .internal
      have h₃ := hle .hardpoint
      have h₄ := hle .utility
      cases c <;> omega
    · intro h
      rw [h, h, h, h]
  rw [hsum]
  exact forall_congr' fun c => q.foundIn_eq_wantedIn_iff stock c

theorem soldBy_iff (q : Query) (station : Station) :
    q.soldBy station = true ↔ ∃ ship, q.ship = some ship ∧ station.sells ship = true := by
  simp [soldBy, Option.any_eq_true]

end Query

end StationFinder
