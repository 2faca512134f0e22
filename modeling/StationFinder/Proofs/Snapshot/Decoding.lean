import StationFinder.Proofs.Catalog.IdSets
import StationFinder.Snapshot.Record

/-!
# Station records resolved

A station record lists ships by name and modules by external id. Resolving it goes over the ids several times, once to
find the unknown ones and once for each category, and the passes agree: an id is reported exactly if no category has it
(`StationRecord.isKnown_iff`), which is when it puts no module into any set (`StationRecord.stockOf_filter_ne_iff`),
since the number of a module leads back to its external id (`Catalog.Space.indexOfExternal?_inj`). Nothing that is
listed gets lost, and a list that is left out stays unknown: `StationRecord.listed_items_are_accounted_for`.
-/

namespace StationFinder

/-- What is left of a list once some of its entries are taken out: the others, in order and as often as they are
listed. -/
structure IsRest (listed : List String) (Taken : String → Prop) (rest : List String) : Prop where
  sublist : rest.Sublist listed
  count_of_not_taken : ∀ text, ¬ Taken text → rest.count text = listed.count text
  not_mem_of_taken : ∀ text, Taken text → text ∉ rest

theorem isRest_filter {Taken : String → Prop} {p : String → Bool} (h : ∀ text, p text = true ↔ Taken text)
    (listed : List String) : IsRest listed Taken (listed.filter (!p ·)) where
  sublist := List.filter_sublist
  count_of_not_taken text htext := List.count_filter (by simp [← h] at htext; simp [htext])
  not_mem_of_taken text htext hmem := by
    have hnot := (List.mem_filter.1 hmem).2
    rw [(h text).2 htext] at hnot
    cases hnot

namespace Catalog.Space

variable {space : Space} {external external' : String} {i : Nat}

/-- A number leads back to the external id under which it is found. -/
theorem indexOfExternal?_inj (h : space.indexOfExternal? external = some i)
    (h' : space.indexOfExternal? external' = some i) : external = external' := by
  rw [indexOfExternal?_eq] at h h'
  obtain ⟨hi, hexternal, -⟩ := List.findIdx?_eq_some_iff_getElem.1 h
  obtain ⟨_, hexternal', -⟩ := List.findIdx?_eq_some_iff_getElem.1 h'
  rw [decide_eq_true_eq] at hexternal hexternal'
  exact Option.some.inj (hexternal.symm.trans hexternal')

theorem mem_setOfExternals {externals : List String} :
    i ∈ space.setOfExternals externals ↔ ∃ external ∈ externals, space.indexOfExternal? external = some i := by
  rw [setOfExternals, ModuleSet.mem_ofList, List.mem_filterMap]

theorem isOver_setOfExternals (space : Space) (externals : List String) :
    (space.setOfExternals externals).IsOver space.count := by
  refine ⟨ModuleSet.capacity_ofList .., fun i hi => ?_⟩
  obtain ⟨external, -, hindex⟩ := mem_setOfExternals.1 hi
  exact lt_count_of_indexOfExternal? hindex

end Catalog.Space

/-- The ships that some of the names lead to. -/
theorem has_shipsOfNames {names : List String} {s : Ship} :
    (shipsOfNames names).1.has s = true ↔ ∃ name ∈ names, Ship.parse name = .ok s := by
  have hparse (name : String) : (Ship.parse name).toOption = some s ↔ Ship.parse name = .ok s := by
    cases Ship.parse name <;> simp [Except.toOption]
  simp only [shipsOfNames, ShipSet.has_ofList, decide_eq_true_eq, List.mem_filterMap, hparse]

namespace StationRecord

open Catalog

variable {catalog : Catalog} {external : String} {externals : List String}

/-! ### External ids -/

theorem isKnown_iff : isKnown catalog external = true ↔
    ∃ c i, (catalog.space c).indexOfExternal? external = some i := by
  simp only [isKnown, List.any_eq_true, Option.isSome_iff_exists, Category.mem_all, true_and]

/-- The stock that a list of external ids means changes with an id of the list exactly if some category knows it. -/
theorem stockOf_filter_ne_iff (hmem : external ∈ externals) :
    stockOf catalog (externals.filter (· ≠ external)) = stockOf catalog externals ↔
      isKnown catalog external = false := by
  rw [← Bool.not_eq_true, isKnown_iff]
  constructor
  · rintro hsame ⟨c, i, hi⟩
    have hset := congrArg (Inventory.get · c) hsame
    simp only [stockOf, Inventory.get_ofFun, Option.some.injEq] at hset
    have hthere : i ∈ (catalog.space c).setOfExternals externals := Space.mem_setOfExternals.2 ⟨external, hmem, hi⟩
    rw [← hset, Space.mem_setOfExternals] at hthere
    obtain ⟨other, hother, hi'⟩ := hthere
    have hne : other ≠ external := by simpa using (List.mem_filter.1 hother).2
    exact hne (Space.indexOfExternal?_inj hi' hi)
  · intro hunknown
    refine Inventory.ext fun c => ?_
    rw [stockOf, stockOf, Inventory.get_ofFun, Inventory.get_ofFun, Option.some.injEq]
    refine ModuleSet.ext (by simp [Space.setOfExternals]) fun i => ?_
    simp only [Space.mem_setOfExternals, List.mem_filter, decide_eq_true_eq]
    constructor
    · rintro ⟨other, ⟨hother, -⟩, hi⟩
      exact ⟨other, hother, hi⟩
    · rintro ⟨other, hother, hi⟩
      refine ⟨other, ⟨hother, ?_⟩, hi⟩
      rintro rfl
      exact hunknown ⟨c, i, hi⟩

/-! ### Whole records -/

/-- **What a record lists is accounted for.** The ships are those that some listed name leads to, and the names that
lead to none are reported, in order and with repeats. All four categories are known; the set of each is over its space
and holds the numbers that the listed external ids have there. The ids that no category knows are reported, in order and
with repeats; they are those that could be left off the list without a change in stock. A list that is left out leaves
the ships or the stock unknown, and nothing to report. -/
theorem listed_items_are_accounted_for (r : StationRecord) (catalog : Catalog) :
    let decoded := r.decode catalog
    (∀ names, r.sellingShips = some names →
      (∃ ships, decoded.report.ships = some ships ∧
        ∀ s, ships.has s = true ↔ ∃ name ∈ names, Ship.parse name = .ok s) ∧
      IsRest names (fun name => ∃ s, Ship.parse name = .ok s) decoded.unknownShips) ∧
    (∀ externals, r.sellingModules = some externals →
      (∃ stock, decoded.report.inventory = some stock ∧ stock.isComplete = true ∧
        ∀ c set, stock.get c = some set → set.IsOver (catalog.space c).count ∧
          ∀ i, i ∈ set ↔ ∃ external ∈ externals, (catalog.space c).indexOfExternal? external = some i) ∧
      IsRest externals (fun external => ∃ c i, (catalog.space c).indexOfExternal? external = some i)
        decoded.unknownModules ∧
      ∀ external ∈ externals, external ∈ decoded.unknownModules ↔
        (({ r with sellingModules := some (externals.filter (· ≠ external)) } : StationRecord).decode
          catalog).report.inventory = decoded.report.inventory) ∧
    (r.sellingShips = none → decoded.report.ships = none ∧ decoded.unknownShips = []) ∧
    (r.sellingModules = none → decoded.report.inventory = none ∧ decoded.unknownModules = []) := by
  refine ⟨fun names hships => ⟨?_, ?_⟩, fun externals hmodules => ⟨?_, ?_, ?_⟩, fun hships => ?_, fun hmodules => ?_⟩
  · exact ⟨(shipsOfNames names).1, by simp [decode, hships], fun s => has_shipsOfNames⟩
  · simp only [decode, hships, Option.map_some, Option.getD_some]
    refine isRest_filter (fun name => ?_) names
    cases Ship.parse name <;> simp [Except.isOk, Except.toBool]
  · refine ⟨stockOf catalog externals, by simp [decode, hmodules], by simp [stockOf, Inventory.isComplete], ?_⟩
    intro c set hset
    rw [stockOf, Inventory.get_ofFun, Option.some.injEq] at hset
    subst hset
    exact ⟨Space.isOver_setOfExternals _ _, fun i => Space.mem_setOfExternals⟩
  · simp only [decode, hmodules, Option.getD_some]
    exact isRest_filter (fun external => isKnown_iff) externals
  · intro external hmem
    simp only [decode, hmodules, Option.getD_some, Option.map_some, Option.some.injEq, stockOf_filter_ne_iff hmem,
      List.mem_filter, hmem, true_and, Bool.not_eq_true']
  · simp [decode, hships]
  · simp [decode, hmodules]

/-- Two modules share an external id, in different categories. -/
def sharedExternal : Catalog :=
  ⟨.empty .standard, .empty .internal,
    .ofList .hardpoint [⟨"bl1f", some "200", "laser"⟩, ⟨"bl1g", some "201", "gimbal"⟩] (by simp),
    .ofList .utility [⟨"cm0ch", some "200", "chaff"⟩] (by simp)⟩

/-- A station that sells these two modules, and much else. -/
def sellsMuch : StationRecord where
  id := 7
  systemId := 1
  name := "Galileo"
  distanceToStar := none
  allegiance := none
  maxLandingPadSize := none
  kind := none
  hasShipyard := true
  hasOutfitting := true
  sellingShips := some ["asp", "X-Wing", "Asp Explorer", "", "X-Wing"]
  sellingModules := some ["999", "200", "", "200", "999"]

theorem sellsMuch_is_accounted_for :
    let decoded := sellsMuch.decode sharedExternal
    (∃ ships, decoded.report.ships = some ships ∧ ships.has .aspExplorer = true) ∧
    decoded.unknownShips = ["X-Wing", "", "X-Wing"] ∧ decoded.unknownModules = ["999", "", "999"] ∧
    (∃ stock, decoded.report.inventory = some stock ∧ stock.isComplete = true ∧
      ∀ c set, stock.get c = some set → (0 ∈ set ↔ c = .hardpoint ∨ c = .utility) ∧ 1 ∉ set) ∧
    (({ sellsMuch with sellingShips := none } : StationRecord).decode sharedExternal).report.ships = none := by
  intro decoded
  obtain ⟨hships, hmodules, -, -⟩ := listed_items_are_accounted_for sellsMuch sharedExternal
  obtain ⟨⟨ships, hsold, hhas⟩, -⟩ := hships _ rfl
  obtain ⟨⟨stock, hstock, hcomplete, hsets⟩, -, -⟩ := hmodules _ rfl
  obtain ⟨-, -, habsent, -⟩ := listed_items_are_accounted_for { sellsMuch with sellingShips := none } sharedExternal
  refine ⟨⟨ships, hsold, (hhas .aspExplorer).2 ⟨"asp", by decide, by decide +kernel⟩⟩, by decide +kernel,
    by decide +kernel, ⟨stock, hstock, hcomplete, fun c set hset => ?_⟩, (habsent rfl).1⟩
  obtain ⟨-, hmem⟩ := hsets c set hset
  rw [hmem, hmem]
  cases c <;> decide +kernel

end StationRecord

end StationFinder
