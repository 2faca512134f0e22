import Mathlib.Data.List.Dedup
import Mathlib.Data.List.Sort
import StationFinder.Proofs.Catalog.Lookup
import StationFinder.Service.View

/-!
# Sets of modules by their ids

Ids go into a set through the lookup by id and come out of it by their place in the space. That the two undo each other
is due to the ids of a space being distinct (`Catalog.Space.indexOfId?_eq_some_iff`). A list of known ids means the set
of their numbers (`Catalog.Space.exists_setOfIds`), whose ids are the listed ones in the order of the space
(`Catalog.Space.idsOf_eq_filter`); and a set over the space is what its ids mean (`Catalog.Space.setOfIds_idsOf`), so
nothing is lost in showing ids for sets. Together this is `Catalog.ids_round_trip`.
-/

namespace StationFinder

/-! ### Sets over a space -/

/-- A set over a space of so many modules: made for its size, with no number beyond. -/
structure ModuleSet.IsOver (s : ModuleSet) (count : Nat) : Prop where
  capacity_eq : s.capacity = count
  lt_count : ∀ i ∈ s, i < count

/-- Every known set of an inventory is over the space of its category. -/
def Inventory.IsOver (stock : Inventory) (catalog : Catalog) : Prop :=
  ∀ (c : Category) (s : ModuleSet), stock.get c = some s → s.IsOver (catalog.space c).count

namespace ModuleSet

variable {s t : ModuleSet} {count : Nat}

theorem ext (hcapacity : s.capacity = t.capacity) (h : ∀ i, i ∈ s ↔ i ∈ t) : s = t := by
  obtain ⟨capacity, indexes, hs⟩ := s
  obtain ⟨capacity', indexes', ht⟩ := t
  obtain rfl : indexes = indexes' := hs.eq_of_mem_iff ht h
  obtain rfl : capacity = capacity' := hcapacity
  rfl

/-- The members of a set over a space are those of all numbers, in order, that it contains. -/
theorem IsOver.indexes_eq (h : s.IsOver count) : s.indexes = (List.range count).filter (· ∈ s) := by
  refine s.ascending.eq_of_mem_iff (List.pairwise_lt_range.filter _) fun i => ?_
  rw [List.mem_filter, List.mem_range, decide_eq_true_eq, ← mem_def]
  exact ⟨fun hi => ⟨h.lt_count i hi, hi⟩, And.right⟩

theorem nodup_indexes (s : ModuleSet) : s.indexes.Nodup := s.ascending.imp Nat.ne_of_lt

end ModuleSet

namespace Catalog

namespace Space

/-- The ids of a space, in the order of their numbers. -/
def ids (space : Space) : List String := space.entries.map Entry.id

variable {space : Space} {id : String} {listed : List String} {s t : ModuleSet} {i j : Nat}

/-! ### Ids and their places -/

theorem idAt?_eq (space : Space) (i : Nat) : space.idAt? i = space.ids[i]? := (List.getElem?_map ..).symm

theorem lt_count_of_idAt? (h : space.idAt? i = some id) : i < space.count := by
  rw [idAt?, Option.map_eq_some_iff] at h
  obtain ⟨entry, hentry, -⟩ := h
  exact (List.getElem?_eq_some_iff.1 hentry).1

theorem exists_idAt? (h : i < space.count) : ∃ id, space.idAt? i = some id :=
  ⟨_, by rw [idAt?, List.getElem?_eq_getElem h, Option.map_some]⟩

theorem mem_ids_iff : id ∈ space.ids ↔ ∃ i, space.idAt? i = some id := by
  simp only [List.mem_iff_getElem?, idAt?_eq]

theorem idAt?_inj (hi : space.idAt? i = some id) (hj : space.idAt? j = some id) : i = j :=
  Option.some.inj ((indexOfId?_eq_some_iff.2 hi).symm.trans (indexOfId?_eq_some_iff.2 hj))

theorem indexOfId_of_mem (h : id ∈ space.ids) : ∃ i, space.indexOfId id = .ok i ∧ space.idAt? i = some id := by
  obtain ⟨i, hi⟩ := mem_ids_iff.1 h
  exact ⟨i, indexOfId_eq_ok_iff.2 (indexOfId?_eq_some_iff.2 hi), hi⟩

theorem indexOfId_of_not_mem (h : id ∉ space.ids) : space.indexOfId id = .error (.unknownId id) := by
  have hnone : space.indexOfId? id = none :=
    Option.eq_none_iff_forall_ne_some.2 fun i hi => h (mem_ids_iff.2 ⟨i, indexOfId?_eq_some_iff.1 hi⟩)
  rw [indexOfId, hnone]

/-- All numbers in order stand for all ids in order. -/
theorem filterMap_range_idAt? (space : Space) : (List.range space.count).filterMap space.idAt? = space.ids := by
  have hrange (l : List String) : (List.range l.length).filterMap (l[·]?) = l := by
    induction l with
    | nil => rfl
    | cons a l ih =>
      rw [List.length_cons, List.range_succ_eq_map, List.filterMap_cons_some List.getElem?_cons_zero,
        List.filterMap_map]
      exact congrArg _ ih
  rw [funext space.idAt?_eq, count, ← List.length_map Entry.id]
  exact hrange space.ids

/-! ### From ids to sets -/

/-- Known ids are looked up to the numbers under which they stand. -/
theorem exists_mapM_indexOfId (hknown : ∀ id ∈ listed, id ∈ space.ids) :
    ∃ indexes, listed.mapM space.indexOfId = .ok indexes ∧
      ∀ i, i ∈ indexes ↔ ∃ id ∈ listed, space.idAt? i = some id := by
  induction listed with
  | nil => exact ⟨[], rfl, by simp⟩
  | cons first rest ih =>
    obtain ⟨i, hi, hat⟩ := indexOfId_of_mem (hknown first List.mem_cons_self)
    obtain ⟨indexes, hrest, hmem⟩ := ih fun id hid => hknown id (List.mem_cons_of_mem first hid)
    refine ⟨i :: indexes, by rw [List.mapM_cons, hi, hrest]; rfl, fun j => ?_⟩
    simp only [List.mem_cons, exists_eq_or_imp, hmem]
    exact or_congr_left ⟨fun hj => hj ▸ hat, fun hj => idAt?_inj hj hat⟩

/-- Known ids mean the set of their numbers. -/
theorem exists_setOfIds (hne : listed ≠ []) (hknown : ∀ id ∈ listed, id ∈ space.ids) :
    ∃ s, space.setOfIds listed = .ok (some s) ∧ s.IsOver space.count ∧
      ∀ i, i ∈ s ↔ ∃ id ∈ listed, space.idAt? i = some id := by
  obtain ⟨indexes, hmapM, hmem⟩ := exists_mapM_indexOfId hknown
  refine ⟨.ofList space.count indexes, ?_, ⟨ModuleSet.capacity_ofList .., fun i hi => ?_⟩, fun i => ?_⟩
  · rw [setOfIds, List.isEmpty_eq_false_iff.2 hne, hmapM]
    rfl
  · obtain ⟨id, -, hid⟩ := (hmem i).1 (ModuleSet.mem_ofList.1 hi)
    exact lt_count_of_idAt? hid
  · rw [ModuleSet.mem_ofList, hmem]

/-- The first unknown id is the one that is named. -/
theorem setOfIds_of_unknown (h : listed.find? (· ∉ space.ids) = some id) :
    space.setOfIds listed = .error (.unknownId id) := by
  have hmapM : listed.mapM space.indexOfId = .error (.unknownId id) := by
    induction listed with
    | nil => cases h
    | cons first rest ih =>
      rw [List.mapM_cons]
      by_cases hfirst : first ∈ space.ids
      · obtain ⟨i, hi, -⟩ := indexOfId_of_mem hfirst
        rw [List.find?_cons_of_neg (by simpa using hfirst)] at h
        rw [hi, ih h]
        rfl
      · rw [List.find?_cons_of_pos (by simpa using hfirst), Option.some.injEq] at h
        rw [indexOfId_of_not_mem hfirst, h]
        rfl
  cases listed with
  | nil => cases h
  | cons first rest =>
    rw [setOfIds, hmapM]
    rfl

theorem known_of_setOfIds {set : Option ModuleSet} (h : space.setOfIds listed = .ok set) :
    ∀ id ∈ listed, id ∈ space.ids := by
  cases hfind : listed.find? (· ∉ space.ids) with
  | none => simpa using hfind
  | some id =>
    rw [setOfIds_of_unknown hfind] at h
    cases h

/-! ### From sets to ids -/

/-- A number is in a set over the space just if its id is one of those of the set. -/
theorem mem_idsOf_iff : id ∈ space.idsOf s ↔ ∃ i ∈ s, space.idAt? i = some id := List.mem_filterMap

theorem mem_iff_exists_mem_idsOf (hs : s.IsOver space.count) :
    i ∈ s ↔ ∃ id ∈ space.idsOf s, space.idAt? i = some id := by
  constructor
  · intro hi
    obtain ⟨id, hid⟩ := exists_idAt? (hs.lt_count i hi)
    exact ⟨id, mem_idsOf_iff.2 ⟨i, hi, hid⟩, hid⟩
  · rintro ⟨id, hmem, hid⟩
    obtain ⟨j, hj, hjd⟩ := mem_idsOf_iff.1 hmem
    exact idAt?_inj hid hjd ▸ hj

/-- Sets over the space with the same ids are the same. -/
theorem idsOf_inj (hs : s.IsOver space.count) (ht : t.IsOver space.count) (h : space.idsOf s = space.idsOf t) :
    s = t := by
  refine ModuleSet.ext (hs.capacity_eq.trans ht.capacity_eq.symm) fun i => ?_
  rw [mem_iff_exists_mem_idsOf hs, mem_iff_exists_mem_idsOf ht, h]

/-- The ids of a set are those of the space, in order, whose numbers it has. -/
theorem idsOf_eq_filter (hs : s.IsOver space.count) (hmem : ∀ i, i ∈ s ↔ ∃ id ∈ listed, space.idAt? i = some id) :
    space.idsOf s = space.ids.filter (· ∈ listed) := by
  rw [idsOf, hs.indexes_eq, ← filterMap_range_idAt?, List.filterMap_filter, List.filter_filterMap]
  refine List.filterMap_congr fun i _ => ?_
  cases hid : space.idAt? i with
  | none => simp
  | some id => simp [hmem, hid, Option.filter_some]

theorem nodup_idsOf (space : Space) (s : ModuleSet) : (space.idsOf s).Nodup :=
  s.nodup_indexes.filterMap fun _ _ _ hi hj => idAt?_inj hi hj

theorem mem_idsOf_iff_mem (hknown : ∀ id ∈ listed, id ∈ space.ids)
    (hmem : ∀ i, i ∈ s ↔ ∃ id ∈ listed, space.idAt? i = some id) : id ∈ space.idsOf s ↔ id ∈ listed := by
  rw [mem_idsOf_iff]
  constructor
  · rintro ⟨i, hi, hid⟩
    obtain ⟨id', hid', hat⟩ := (hmem i).1 hi
    rw [hid, Option.some.injEq] at hat
    exact hat ▸ hid'
  · intro hid
    obtain ⟨i, hi⟩ := mem_ids_iff.1 (hknown id hid)
    exact ⟨i, (hmem i).2 ⟨id, hid, hi⟩, hi⟩

theorem length_idsOf (hs : s.IsOver space.count) : (space.idsOf s).length = s.size := by
  refine List.filterMap_length_eq_length.2 fun i hi => ?_
  obtain ⟨id, hid⟩ := exists_idAt? (hs.lt_count i hi)
  exact Option.isSome_of_eq_some hid

/-- A set over the space is what its ids mean. -/
theorem setOfIds_idsOf (hs : s.IsOver space.count) (hne : s.isEmpty = false) :
    space.setOfIds (space.idsOf s) = .ok (some s) := by
  have hids : space.idsOf s ≠ [] := by
    obtain ⟨i, hi⟩ := List.exists_mem_of_ne_nil _ (List.isEmpty_eq_false_iff.1 hne)
    obtain ⟨id, hid, -⟩ := (mem_iff_exists_mem_idsOf hs).1 hi
    exact List.ne_nil_of_mem hid
  have hknown : ∀ id ∈ space.idsOf s, id ∈ space.ids := by
    intro id hid
    obtain ⟨i, -, hat⟩ := mem_idsOf_iff.1 hid
    exact mem_ids_iff.2 ⟨i, hat⟩
  obtain ⟨t, hset, ht, hmem⟩ := exists_setOfIds hids hknown
  have heq : t = s := ModuleSet.ext (ht.capacity_eq.trans hs.capacity_eq.symm) fun i => by
    rw [hmem, mem_iff_exists_mem_idsOf hs]
  rw [hset, heq]

/-- The set of a list has so many modules as the list has different ids. -/
theorem size_of_setOfIds {set : Option ModuleSet} (h : space.setOfIds listed = .ok set) :
    (set.map ModuleSet.size).getD 0 = listed.dedup.length := by
  cases listed with
  | nil =>
    cases h
    rfl
  | cons first rest =>
    have hknown := known_of_setOfIds h
    obtain ⟨s, hset, hs, hmem⟩ := exists_setOfIds (List.cons_ne_nil first rest) hknown
    obtain rfl : set = some s := Except.ok.inj (h.symm.trans hset)
    have hperm : (space.idsOf s).Perm (first :: rest).dedup := by
      refine (List.perm_ext_iff_of_nodup (space.nodup_idsOf s) (List.nodup_dedup _)).2 fun id => ?_
      rw [mem_idsOf_iff_mem hknown hmem, List.mem_dedup]
    rw [Option.map_some, Option.getD_some, ← length_idsOf hs, hperm.length_eq]

end Space

/-! ### What a view tells -/

theorem mem_describe_iff {catalog : Catalog} {stock : Inventory} {c : Category} {listed : List String} :
    (c, listed) ∈ catalog.describe stock ↔ ∃ s, stock.get c = some s ∧ (catalog.space c).idsOf s = listed := by
  simp only [describe, Inventory.present, List.mem_map, List.mem_filterMap, Option.map_eq_some_iff, Prod.mk.injEq]
  constructor
  · rintro ⟨_, ⟨d, -, s, hs, rfl⟩, rfl, rfl⟩
    exact ⟨s, hs, rfl⟩
  · rintro ⟨s, hs, rfl⟩
    exact ⟨(c, s), ⟨c, c.mem_all, s, hs, rfl⟩, rfl, rfl⟩

/-- Inventories over the catalog with the same lists of ids are the same. -/
theorem describe_inj {catalog : Catalog} {stock stock' : Inventory} (h : stock.IsOver catalog)
    (h' : stock'.IsOver catalog) (heq : catalog.describe stock = catalog.describe stock') : stock = stock' := by
  have hids (c : Category) :
      (stock.get c).map (catalog.space c).idsOf = (stock'.get c).map (catalog.space c).idsOf := by
    refine Option.ext fun listed => ?_
    rw [Option.map_eq_some_iff, Option.map_eq_some_iff, ← mem_describe_iff, ← mem_describe_iff, heq]
  refine Inventory.ext fun c => ?_
  have hc := hids c
  cases hs : stock.get c with
  | none =>
    rw [hs, Option.map_none, eq_comm, Option.map_eq_none_iff] at hc
    exact hc.symm
  | some s =>
    rw [hs, Option.map_some, eq_comm, Option.map_eq_some_iff] at hc
    obtain ⟨t, ht, hsame⟩ := hc
    rw [ht, Space.idsOf_inj (h' c t ht) (h c s hs) hsame]

/-- **Ids go into sets and come out again.** In each space of a catalog a list of ids that is not empty is refused for
the first one that the space does not have, if there is one. Otherwise it means a set over the space, whose ids are just
the listed ones, each once, in the order of the space. A set over the space that is not empty is what its ids mean. So
the lists of modules in the views of two stations, whose inventories are over the catalog, are the same only if the
inventories are. -/
theorem ids_round_trip (catalog : Catalog) :
    (∀ (c : Category) (listed : List String), listed ≠ [] →
      let space := catalog.space c
      (∀ id, listed.find? (· ∉ space.ids) = some id → space.setOfIds listed = .error (.unknownId id)) ∧
      (listed.find? (· ∉ space.ids) = none → ∃ s, space.setOfIds listed = .ok (some s) ∧ s.IsOver space.count ∧
        (∀ id, id ∈ space.idsOf s ↔ id ∈ listed) ∧ (space.idsOf s).Nodup ∧
        space.idsOf s = space.ids.filter (· ∈ listed))) ∧
    (∀ (c : Category) (s : ModuleSet), s.IsOver (catalog.space c).count → s.isEmpty = false →
      (catalog.space c).setOfIds ((catalog.space c).idsOf s) = .ok (some s)) ∧
    ∀ station station' : Station, station.inventory.IsOver catalog → station'.inventory.IsOver catalog →
      (catalog.viewStation station).modules = (catalog.viewStation station').modules →
      station.inventory = station'.inventory := by
  refine ⟨?_, fun c s hs hne => Space.setOfIds_idsOf hs hne, fun station station' h h' heq => describe_inj h h' heq⟩
  intro c listed hne space
  refine ⟨fun id hid => Space.setOfIds_of_unknown hid, fun hnone => ?_⟩
  have hknown : ∀ id ∈ listed, id ∈ space.ids := by simpa using hnone
  obtain ⟨s, hset, hs, hmem⟩ := Space.exists_setOfIds hne hknown
  exact ⟨s, hset, hs, fun id => Space.mem_idsOf_iff_mem hknown hmem, space.nodup_idsOf s, Space.idsOf_eq_filter hs hmem⟩

/-- A station with an inventory that is known from a report. -/
def stationCarrying (stock : Inventory) : Station :=
  .ofReport 1 ⟨10, "Galileo", none, none, none, none, false, true, none, some stock⟩ 7

theorem twiceListed_round_trip : ∃ catalog s, ofDocument twiceListed = .ok catalog ∧
    (catalog.space .standard).setOfIds ["as0", "pp2e", "as0"] = .ok (some s) ∧
    (catalog.space .standard).idsOf s = ["pp2e", "as0"] ∧
    (catalog.space .standard).setOfIds ["pp2e", "as0"] = .ok (some s) ∧
    (catalog.space .standard).setOfIds ["as0", "bl1f", "laser"] = .error (.unknownId "bl1f") ∧
    (catalog.viewStation (stationCarrying .unknown)).modules ≠
      (catalog.viewStation (stationCarrying (.ofFun fun c => some (catalog.space c).emptySet))).modules := by
  have hloads : (ofDocument twiceListed).isOk = true := by decide +kernel
  cases hload : ofDocument twiceListed with
  | error fault =>
    rw [hload] at hloads
    cases hloads
  | ok catalog =>
    have hids : (catalog.space .standard).ids = ["pp2e", "vi0", "as0"] :=
      (map_id_entries hload .standard).trans (by decide +kernel)
    obtain ⟨hlists, hsets, hviews⟩ := ids_round_trip catalog
    obtain ⟨-, hknown⟩ := hlists .standard ["as0", "pp2e", "as0"] (by decide)
    obtain ⟨hunknown, -⟩ := hlists .standard ["as0", "bl1f", "laser"] (by decide)
    obtain ⟨s, hset, hs, -, -, hidsOf⟩ := hknown (by rw [hids]; decide)
    have hidsOf : (catalog.space .standard).idsOf s = ["pp2e", "as0"] := hidsOf.trans (by rw [hids]; decide)
    have hsome : s.isEmpty = false := by
      refine List.isEmpty_eq_false_iff.2 fun hnone => ?_
      rw [Space.idsOf, hnone] at hidsOf
      cases hidsOf
    refine ⟨catalog, s, rfl, hset, hidsOf, hidsOf ▸ hsets .standard s hs hsome, hunknown "bl1f" (by rw [hids]; decide),
      fun heq => ?_⟩
    have hempty : Inventory.IsOver (.ofFun fun c => some (catalog.space c).emptySet) catalog := by
      intro c t ht
      rw [Inventory.get_ofFun, Option.some.injEq] at ht
      subst ht
      exact ⟨rfl, fun i hi => absurd hi ModuleSet.mem_empty⟩
    have hnone : Inventory.IsOver .unknown catalog := fun c t ht => by cases c <;> cases ht
    exact absurd (congrArg Inventory.standard (hviews _ _ hnone hempty heq)) nofun

end Catalog

end StationFinder
