import Mathlib.Data.Set.Card
import StationFinder.Proofs.Catalog.IdSets
import StationFinder.Proofs.Search.Coverage

/-!
# What is wanted and what is found

The search takes a station for a full match by two sums over the categories: what is wanted and what was found of it.
No category has more found than wanted, so the sums agree only if all is there; a stock with more has no less found; and
what is wanted is counted without repetition, since a list of ids means a set. `Query.full_match_is_exact` says so of
every query.
-/

namespace StationFinder

/-! ### Sums over the categories -/

/-- The sum of the lengths of lists without repetition is the number of their items, those of different categories told
apart. -/
theorem Category.ncard_eq_total {β : Type} {l : Category → List β} (h : ∀ c, (l c).Nodup) :
    {p : Category × β | p.2 ∈ l p.1}.ncard = total fun c => (l c).length := by
  classical
  let all : List (Category × β) := Category.all.flatMap fun c => (l c).map (Prod.mk c)
  have hnodup : all.Nodup := by
    refine List.nodup_flatMap.2 ⟨fun c _ => (h c).map (Prod.mk_right_injective c), ?_⟩
    refine (by decide : Category.all.Nodup).imp ?_
    intro c d hne p hc hd
    obtain ⟨_, -, rfl⟩ := List.mem_map.1 hc
    obtain ⟨_, -, heq⟩ := List.mem_map.1 hd
    exact hne (congrArg Prod.fst heq).symm
  have hset : {p : Category × β | p.2 ∈ l p.1} = ↑all.toFinset := by
    ext ⟨c, b⟩
    simp [all, Category.mem_all]
  rw [hset, Set.ncard_coe_finset, List.toFinset_card_of_nodup hnodup]
  simp [all, Category.all, total, Nat.add_assoc]

/-! ### More in stock -/

/-- A stock is within another one that has a set where the first has one, with no module less. -/
def Inventory.IsWithin (stock more : Inventory) : Prop :=
  ∀ (c : Category) (s : ModuleSet), stock.get c = some s → ∃ t, more.get c = some t ∧ ∀ i ∈ s, i ∈ t

/-- A stock is within what it becomes when a category gets a set with no module less, or gets known. -/
theorem Inventory.isWithin_set {stock : Inventory} {c : Category} {t : ModuleSet}
    (h : ∀ s, stock.get c = some s → ∀ i ∈ s, i ∈ t) : stock.IsWithin (stock.set c (some t)) := by
  intro d s hs
  rw [set, get_ofFun]
  by_cases hd : d = c
  · subst hd
    exact ⟨t, if_pos rfl, h s hs⟩
  · exact ⟨s, (if_neg hd).trans hs, fun _ hi => hi⟩

theorem Matcher.matchCount_mono (m : Matcher) {carried more : Option ModuleSet}
    (h : ∀ s, carried = some s → ∃ t, more = some t ∧ ∀ i ∈ s, i ∈ t) :
    m.matchCount carried ≤ m.matchCount more := by
  cases carried with
  | none => exact Nat.zero_le _
  | some s =>
    obtain ⟨t, rfl, hmem⟩ := h s rfl
    exact (List.monotone_filter_right _ fun i hi => decide_eq_true (hmem i (of_decide_eq_true hi))).length_le

namespace Query

/-- A stock with more has no less of what is wanted. -/
theorem found_mono (q : Query) {stock more : Inventory} (h : stock.IsWithin more) : q.found stock ≤ q.found more := by
  refine Category.total_le_total fun c => ?_
  cases q.matcher c with
  | none => exact Nat.le_refl 0
  | some m => exact m.matchCount_mono (h c)

/-! ### All there -/

/-- All that is wanted is there if each category with modules to match is known with all of them. -/
theorem isCoveredBy_iff (q : Query) (stock : Inventory) :
    q.IsCoveredBy stock ↔ ∀ c m, q.matcher c = some m → m.wanted.isEmpty = false →
      ∃ s, stock.get c = some s ∧ ∀ i ∈ m.wanted, i ∈ s := by
  refine forall_congr' fun c => forall_congr' fun m => forall_congr' fun _ => ?_
  constructor
  · intro h hsome
    obtain ⟨i, hi⟩ := List.exists_mem_of_ne_nil _ (List.isEmpty_eq_false_iff.1 hsome)
    obtain ⟨s, hs, -⟩ := h i hi
    refine ⟨s, hs, fun j hj => ?_⟩
    obtain ⟨t, ht, hmem⟩ := h j hj
    obtain rfl := Option.some.inj (hs.symm.trans ht)
    exact hmem
  · intro h i hi
    obtain ⟨s, hs, hall⟩ := h (List.isEmpty_eq_false_iff.2 (List.ne_nil_of_mem hi))
    exact ⟨s, hs, hall i hi⟩

/-! ### What is wanted -/

/-- What is wanted are so many modules of all categories. -/
theorem wanted_eq_ncard (q : Query) :
    q.wanted = {p : Category × Nat | ∃ m, q.matcher p.1 = some m ∧ p.2 ∈ m.wanted}.ncard := by
  let indexes (c : Category) : List Nat := ((q.matcher c).map (·.wanted.indexes)).getD []
  have hset : {p : Category × Nat | ∃ m, q.matcher p.1 = some m ∧ p.2 ∈ m.wanted} = {p | p.2 ∈ indexes p.1} := by
    ext ⟨c, i⟩
    cases h : q.matcher c <;> simp [indexes, h, ModuleSet.mem_def]
  rw [hset, Category.ncard_eq_total fun c => ?_]
  · refine congrArg Category.total (funext fun c => ?_)
    cases h : q.matcher c <;> simp [indexes, h, Matcher.count, ModuleSet.size]
  · cases h : q.matcher c with
    | none => simp [indexes, h]
    | some m => simpa [indexes, h] using m.wanted.nodup_indexes

/-- Where matchers were compiled from lists of ids, as many modules are wanted as there are different ids in the lists
of each category. -/
theorem wanted_eq_ncard_listed {q : Query} {catalog : Catalog} {listed : Category → List String}
    (h : ∀ c, catalog.matcher c (listed c) = .ok (q.matcher c)) :
    q.wanted = {p : Category × String | p.2 ∈ listed p.1}.ncard := by
  have hset : {p : Category × String | p.2 ∈ listed p.1} = {p | p.2 ∈ (listed p.1).dedup} := by
    ext p
    exact List.mem_dedup.symm
  rw [hset, Category.ncard_eq_total fun c => (listed c).nodup_dedup]
  refine congrArg Category.total (funext fun c => ?_)
  have hc := h c
  rw [Catalog.matcher] at hc
  cases hids : (catalog.space c).setOfIds (listed c) with
  | error fault =>
    rw [hids] at hc
    cases hc
  | ok set =>
    rw [hids] at hc
    rw [← Except.ok.inj hc, ← Catalog.Space.size_of_setOfIds hids, Option.map_map]
    rfl

/-- **Full matches are told exactly.** The modules found, which are the matches of each category that has a matcher, are
at most those wanted, and as many just if every category with modules to match is known in stock with all of them; a
candidate counts as a full match just if this is so, with some modules wanted and the ship sold. A stock that has more,
or is known where another is not, has no fewer of the modules found. What is wanted are the different modules of the
matchers, and of the lists of ids from which they were compiled, however often an id is listed and in which order. -/
theorem full_match_is_exact (q : Query) :
    let found (stock : Inventory) := Category.total fun c => ((q.matcher c).map (·.matchCount (stock.get c))).getD 0
    let isAllThere (stock : Inventory) := ∀ c m, q.matcher c = some m → m.wanted.isEmpty = false →
      ∃ s, stock.get c = some s ∧ ∀ i ∈ m.wanted, i ∈ s
    (∀ stock, found stock ≤ q.wanted ∧ (found stock = q.wanted ↔ isAllThere stock)) ∧
    (∀ stock more, stock.IsWithin more → found stock ≤ found more) ∧
    (∀ (systemName : String) (station : Station) (distance : Binary64),
      (q.standing station distance).modulesFound = found station.inventory ∧
      (q.isFullMatch ⟨systemName, station, q.standing station distance⟩ = true ↔
        q.soldBy station = true ∧ 0 < q.wanted ∧ isAllThere station.inventory)) ∧
    q.wanted = {p : Category × Nat | ∃ m, q.matcher p.1 = some m ∧ p.2 ∈ m.wanted}.ncard ∧
    ∀ (catalog : Catalog) (listed : Category → List String),
      (∀ c, catalog.matcher c (listed c) = .ok (q.matcher c)) →
      q.wanted = {p : Category × String | p.2 ∈ listed p.1}.ncard := by
  intro found isAllThere
  have hfull (stock : Inventory) : found stock = q.wanted ↔ isAllThere stock :=
    (q.found_eq_wanted_iff stock).trans (q.isCoveredBy_iff stock)
  refine ⟨fun stock => ⟨q.found_le_wanted stock, hfull stock⟩, fun stock more h => q.found_mono h, ?_,
    q.wanted_eq_ncard, fun catalog listed h => wanted_eq_ncard_listed h⟩
  intro systemName station distance
  refine ⟨rfl, ?_⟩
  rw [← hfull, isFullMatch, Bool.and_eq_true, Bool.and_eq_true, decide_eq_true_eq, decide_eq_true_eq, and_assoc]
  rfl

/-- Two power plants and no other modules. -/
def twoPlants : Catalog where
  standard :=
    .ofList .standard [⟨"pp2e", none, "|power plant|2|E||"⟩, ⟨"pp2d", none, "|power plant|2|D||"⟩] (by decide)
  internal := .empty .internal
  hardpoint := .empty .hardpoint
  utility := .empty .utility

/-- The ids of both plants, one of them twice. -/
def plantIds (c : Category) : List String := if c = .standard then ["pp2d", "pp2e", "pp2d"] else []

/-- The Vulture and both plants. -/
def vultureWithPlants : Query :=
  ⟨some .vulture, fun c => if c = .standard then some ⟨.ofList 2 [1, 0]⟩ else none⟩

theorem vultureWithPlants_full_match :
    let one := Inventory.unknown.set .standard (some (.ofList 2 [0]))
    let both := one.set .standard (some (.ofList 2 [0, 1]))
    (∀ c, twoPlants.matcher c (plantIds c) = .ok (vultureWithPlants.matcher c)) ∧
      vultureWithPlants.wanted = {p : Category × String | p.2 ∈ plantIds p.1}.ncard ∧
      Inventory.unknown.IsWithin one ∧ vultureWithPlants.found .unknown ≤ vultureWithPlants.found one ∧
      one.IsWithin both ∧ vultureWithPlants.found one ≤ vultureWithPlants.found both ∧
      vultureWithPlants.found one ≠ vultureWithPlants.wanted ∧
      vultureWithPlants.found both = vultureWithPlants.wanted := by
  intro one both
  have hcompiled : ∀ c, twoPlants.matcher c (plantIds c) = .ok (vultureWithPlants.matcher c) := by
    intro c
    cases c <;> decide +kernel
  have hone : Inventory.unknown.IsWithin one := Inventory.isWithin_set nofun
  have hboth : one.IsWithin both := Inventory.isWithin_set fun s hs => by
    obtain rfl : ModuleSet.ofList 2 [0] = s := Option.some.inj hs
    decide
  obtain ⟨hfull, hmono, -, -, hlisted⟩ := vultureWithPlants.full_match_is_exact
  refine ⟨hcompiled, hlisted _ _ hcompiled, hone, hmono _ _ hone, hboth, hmono _ _ hboth, fun hall => ?_, ?_⟩
  · obtain ⟨s, hs, hplants⟩ := (hfull one).2.1 hall .standard ⟨.ofList 2 [1, 0]⟩ rfl rfl
    obtain rfl : ModuleSet.ofList 2 [0] = s := Option.some.inj hs
    exact absurd (hplants 1 (by decide)) (by decide)
  · refine (hfull both).2.2 fun c m hm _ => ?_
    cases c with
    | standard =>
      obtain rfl : (⟨.ofList 2 [1, 0]⟩ : Matcher) = m := Option.some.inj hm
      exact ⟨.ofList 2 [0, 1], rfl, by decide⟩
    | internal => cases hm
    | hardpoint => cases hm
    | utility => cases hm

end Query

end StationFinder
