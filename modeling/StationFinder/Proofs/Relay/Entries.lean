import Mathlib.Data.List.Induction
import StationFinder.Proofs.Catalog.IdSets
import StationFinder.Relay.Announcement

/-!
# The entries of a message

A message about modules is a list of entries, and each of them lands in one place. An entry under no category that
exists is reported by the text that it stands under. Any other makes its category known; its module goes into the set of
the category, or the entry is reported with the reason why its module is unknown. `Reading.note` says so of one entry
after those before it, and a message that is read entry by entry is announced as a whole (`Reading.read_eq`). So nothing
is lost on the way, and what a message stocks depends on which entries it has, not on their order and number
(`Announcement.each_entry_lands`).
-/

namespace StationFinder

theorem toOption_eq_some_iff {α : Type} {x : Except Fault α} {a : α} : x.toOption = some a ↔ x = .ok a := by
  cases x with
  | error fault => simp [Except.toOption]
  | ok b => simp [Except.toOption]

namespace ListedModule

/-- The entry stands under a category, and its module has a number there. -/
def IsNumbered (m : ListedModule) (catalog : Catalog) (c : Category) (index : Nat) : Prop :=
  m.category? = some c ∧ m.resolve catalog c = .ok index

/-- The entry stands under a category, and its module is unknown for a reason. -/
def IsUnknown (m : ListedModule) (catalog : Catalog) (why : String) : Prop :=
  ∃ c fault, m.category? = some c ∧ m.resolve catalog c = .error fault ∧ why = fault.message

/-- Does the entry stand under a category in which its module has a number? -/
def isNumbered (m : ListedModule) (catalog : Catalog) : Bool := m.category?.any fun c => (m.resolve catalog c).isOk

/-- A number is one of its space. -/
theorem IsNumbered.lt_count {m : ListedModule} {catalog : Catalog} {c : Category} {index : Nat}
    (h : m.IsNumbered catalog c index) : index < (catalog.space c).count := by
  obtain ⟨d, -, hd⟩ := Catalog.bind_eq_ok h.2
  exact Catalog.Space.lt_count_of_indexOfDescriptor hd

end ListedModule

namespace Announcement

/-! ### What one more entry stocks -/

theorem modulesUnder_concat_of_eq (listed : List ListedModule) {m : ListedModule} {c : Category}
    (h : m.category? = some c) : modulesUnder (listed ++ [m]) c = modulesUnder listed c ++ [m] := by
  simp [modulesUnder, h]

theorem modulesUnder_concat_of_ne (listed : List ListedModule) {m : ListedModule} {c : Category}
    (h : m.category? ≠ some c) : modulesUnder (listed ++ [m]) c = modulesUnder listed c := by
  simp [modulesUnder, h]

theorem mem_modulesUnder {listed : List ListedModule} {m : ListedModule} {c : Category} :
    m ∈ modulesUnder listed c ↔ m ∈ listed ∧ m.category? = some c := by
  simp [modulesUnder]

theorem get_stockOf (catalog : Catalog) (listed : List ListedModule) (c : Category) :
    (stockOf catalog listed).get c =
      if modulesUnder listed c = [] then none
      else some (.ofList (catalog.space c).count
        ((modulesUnder listed c).filterMap fun m => (m.resolve catalog c).toOption)) := by
  rw [stockOf, Inventory.get_ofFun]
  simp only [List.isEmpty_iff]

/-- A category is known if there are entries under it. -/
theorem isSome_get_stockOf_iff (catalog : Catalog) (listed : List ListedModule) (c : Category) :
    ((stockOf catalog listed).get c).isSome = true ↔ ∃ m ∈ listed, m.category? = some c := by
  rw [get_stockOf]
  split
  · next hempty =>
    rw [List.eq_nil_iff_forall_not_mem] at hempty
    simpa [mem_modulesUnder] using hempty
  · next hsome =>
    obtain ⟨m, hm⟩ := List.exists_mem_of_ne_nil _ hsome
    simpa using ⟨m, mem_modulesUnder.1 hm⟩

/-- The set of a known category holds the numbers of the entries under it. -/
theorem mem_of_get_stockOf {catalog : Catalog} {listed : List ListedModule} {c : Category} {set : ModuleSet}
    (h : (stockOf catalog listed).get c = some set) :
    set.capacity = (catalog.space c).count ∧
      ∀ index, index ∈ set ↔ ∃ m ∈ listed, m.IsNumbered catalog c index := by
  rw [get_stockOf, Option.ite_none_left_eq_some, Option.some.injEq] at h
  obtain ⟨-, rfl⟩ := h
  refine ⟨ModuleSet.capacity_ofList _ _, fun index => ?_⟩
  simp only [ModuleSet.mem_ofList, List.mem_filterMap, mem_modulesUnder, toOption_eq_some_iff, and_assoc,
    ListedModule.IsNumbered]

/-- The set of a category, or the empty one if it is not known, holds its numbers one by one. -/
theorem getD_get_stockOf (catalog : Catalog) (listed : List ListedModule) (c : Category) :
    ((stockOf catalog listed).get c).getD (catalog.space c).emptySet =
      .ofList (catalog.space c).count
        ((modulesUnder listed c).filterMap fun m => (m.resolve catalog c).toOption) := by
  rw [get_stockOf]
  split
  · next hempty =>
    rw [hempty]
    rfl
  · rfl

/-- An entry under no category stocks nothing. -/
theorem stockOf_concat_of_none (catalog : Catalog) (listed : List ListedModule) {m : ListedModule}
    (h : m.category? = none) : stockOf catalog (listed ++ [m]) = stockOf catalog listed := by
  refine Inventory.ext fun c => ?_
  rw [get_stockOf, get_stockOf, modulesUnder_concat_of_ne listed (by simp [h])]

/-- An entry under a category makes it known, puts its module into the set of the category if the module has a number,
and leaves the other categories as they are. -/
theorem stockOf_concat_of_some (catalog : Catalog) (listed : List ListedModule) {m : ListedModule} {c : Category}
    (h : m.category? = some c) :
    stockOf catalog (listed ++ [m]) =
      let set := ((stockOf catalog listed).get c).getD (catalog.space c).emptySet
      (stockOf catalog listed).set c (some ((m.resolve catalog c).toOption.elim set set.insert)) := by
  refine Inventory.ext fun d => ?_
  dsimp only
  rw [get_stockOf, Inventory.set, Inventory.get_ofFun]
  by_cases hd : d = c
  · subst hd
    rw [modulesUnder_concat_of_eq listed h, if_neg (List.append_ne_nil_of_right_ne_nil _ (List.cons_ne_nil m [])),
      if_pos rfl, getD_get_stockOf, List.filterMap_append, ModuleSet.ofList, List.foldl_append]
    cases hresolve : (m.resolve catalog d).toOption with
    | none => simp [hresolve, ModuleSet.ofList]
    | some index => simp [hresolve, ModuleSet.ofList]
  · rw [modulesUnder_concat_of_ne listed (by simpa [h] using Ne.symm hd), if_neg hd, get_stockOf]

/-- Which entries a message has decides what it stocks; their order and number do not. -/
theorem stockOf_congr (catalog : Catalog) {listed others : List ListedModule}
    (h : ∀ m, m ∈ others ↔ m ∈ listed) : stockOf catalog others = stockOf catalog listed := by
  refine Inventory.ext fun c => ?_
  have hsome : ((stockOf catalog others).get c).isSome = ((stockOf catalog listed).get c).isSome := by
    rw [Bool.eq_iff_iff, isSome_get_stockOf_iff, isSome_get_stockOf_iff]
    simp only [h]
  cases hothers : (stockOf catalog others).get c with
  | none =>
    rw [hothers, Option.isSome_none, eq_comm, Option.isSome_eq_false_iff, Option.isNone_iff_eq_none] at hsome
    exact hsome.symm
  | some set =>
    rw [hothers, Option.isSome_some, eq_comm, Option.isSome_iff_exists] at hsome
    obtain ⟨set', hlisted⟩ := hsome
    obtain ⟨hcapacity, hmem⟩ := mem_of_get_stockOf hothers
    obtain ⟨hcapacity', hmem'⟩ := mem_of_get_stockOf hlisted
    rw [hlisted, Option.some.injEq]
    refine ModuleSet.ext (hcapacity.trans hcapacity'.symm) fun index => ?_
    rw [hmem, hmem']
    simp only [h]

end Announcement

/-! ### Reading entry by entry -/

/-- What is known of a message after some of its entries. -/
structure Reading where
  /-- The sets of the categories that occurred. -/
  stock : Inventory
  /-- Why modules are unknown. -/
  unknown : List String
  unknownCategories : List String

namespace Reading

/-- Before the first entry. -/
def blank : Reading := ⟨.unknown, [], []⟩

/-- After one more entry. -/
def note (catalog : Catalog) (r : Reading) (m : ListedModule) : Reading :=
  match m.category? with
  | none => { r with unknownCategories := r.unknownCategories ++ [m.category] }
  | some c =>
    let set := (r.stock.get c).getD (catalog.space c).emptySet
    match m.resolve catalog c with
    | .ok index => { r with stock := r.stock.set c (some (set.insert index)) }
    | .error fault => { r with stock := r.stock.set c (some set), unknown := r.unknown ++ [fault.message] }

/-- After a list of entries. -/
def read (catalog : Catalog) (listed : List ListedModule) : Reading := listed.foldl (note catalog) blank

theorem read_concat (catalog : Catalog) (listed : List ListedModule) (m : ListedModule) :
    read catalog (listed ++ [m]) = (read catalog listed).note catalog m := by
  simp [read]

/-- A message that is read entry by entry is read as a whole. -/
theorem read_eq (catalog : Catalog) (listed : List ListedModule) :
    read catalog listed = ⟨Announcement.stockOf catalog listed,
      listed.filterMap (Announcement.whyUnknown? catalog),
      (listed.filter (·.category?.isNone)).map ListedModule.category⟩ := by
  induction listed using List.reverseRecOn with
  | nil => rfl
  | append_singleton listed m ih =>
    rw [read_concat, ih, List.filterMap_append, List.filter_append, List.map_append]
    unfold note
    cases hcategory : m.category? with
    | none =>
      rw [Announcement.stockOf_concat_of_none catalog listed hcategory]
      simp [Announcement.whyUnknown?, hcategory]
    | some c =>
      rw [Announcement.stockOf_concat_of_some catalog listed hcategory]
      cases hresolve : m.resolve catalog c with
      | ok index => simp [Announcement.whyUnknown?, hcategory, hresolve, Except.toOption]
      | error fault => simp [Announcement.whyUnknown?, hcategory, hresolve, Except.toOption]

end Reading

namespace Announcement

/-! ### Where entries land -/

theorem whyUnknown?_eq_some_iff {catalog : Catalog} {m : ListedModule} {why : String} :
    whyUnknown? catalog m = some why ↔ m.IsUnknown catalog why := by
  unfold whyUnknown? ListedModule.IsUnknown
  cases m.category? with
  | none => simp
  | some c =>
    cases hresolve : m.resolve catalog c with
    | ok index => simp [hresolve]
    | error fault => simp [hresolve, eq_comm]

/-- An entry is reported as unknown if it stands under a category and its module has no number. -/
theorem isSome_whyUnknown? (catalog : Catalog) (m : ListedModule) :
    (whyUnknown? catalog m).isSome = (m.category?.isSome && !m.isNumbered catalog) := by
  unfold whyUnknown? ListedModule.isNumbered
  cases m.category? with
  | none => rfl
  | some c =>
    cases hresolve : m.resolve catalog c with
    | ok index => simp [hresolve, Except.isOk, Except.toBool]
    | error fault => simp [hresolve, Except.isOk, Except.toBool]

/-- Each reason is that of an entry, in order. -/
theorem forall₂_whyUnknown? (catalog : Catalog) (listed : List ListedModule) :
    List.Forall₂ (fun m why => m.IsUnknown catalog why)
      (listed.filter fun m => m.category?.isSome && !m.isNumbered catalog)
      (listed.filterMap (whyUnknown? catalog)) := by
  induction listed with
  | nil => exact .nil
  | cons m listed ih =>
    rw [List.filter_cons, List.filterMap_cons, ← isSome_whyUnknown?]
    cases hwhy : whyUnknown? catalog m with
    | none => simpa using ih
    | some why => simpa using ⟨whyUnknown?_eq_some_iff.1 hwhy, ih⟩

/-- Every entry has a number, is reported as unknown or names no category, and only one of these. -/
theorem countP_isNumbered_add (catalog : Catalog) (listed : List ListedModule) :
    listed.countP (·.isNumbered catalog) + (listed.filterMap (whyUnknown? catalog)).length +
        ((listed.filter (·.category?.isNone)).map ListedModule.category).length = listed.length := by
  rw [List.length_filterMap_eq_countP, List.length_map, ← List.countP_eq_length_filter]
  simp only [isSome_whyUnknown?]
  induction listed with
  | nil => rfl
  | cons m listed ih =>
    rw [List.countP_cons, List.countP_cons, List.countP_cons, List.length_cons]
    cases hcategory : m.category? with
    | none =>
      have hunnumbered : m.isNumbered catalog = false := by simp [ListedModule.isNumbered, hcategory]
      simp only [hunnumbered, Option.isSome_none, Option.isNone_none, Bool.false_and, if_true, Bool.false_eq_true,
        if_false]
      omega
    | some c =>
      cases m.isNumbered catalog with
      | true =>
        simp only [Option.isNone_some, Bool.not_true, Bool.and_false, if_true, Bool.false_eq_true, if_false]
        omega
      | false =>
        simp only [Option.isSome_some, Option.isNone_some, Bool.not_false, Bool.and_true, if_true, Bool.false_eq_true,
          if_false]
        omega

/-- **Every entry of a message lands in one place.** A message is announced as it is read, entry by entry. A category is
known if some entry stands under it, whether its module is known or not, and its set holds the numbers of the entries
under it that have one, all of them numbers of the category. The texts under which no category stands are reported in
order, and so is one reason for each entry under a category whose module has no number there; with the entries that have
a number these are all entries. A message that has the same entries in another order, or more often or less often,
stocks the same. -/
theorem each_entry_lands (catalog : Catalog) (system station : String) (listed : List ListedModule) :
    let reading := Reading.read catalog listed
    ofModules catalog system station listed =
        .modules system station reading.stock reading.unknown reading.unknownCategories ∧
      (∀ c, (reading.stock.get c).isSome = true ↔ ∃ m ∈ listed, m.category? = some c) ∧
      (∀ c set, reading.stock.get c = some set →
        set.capacity = (catalog.space c).count ∧
          (∀ index, index ∈ set ↔ ∃ m ∈ listed, m.IsNumbered catalog c index) ∧
          ∀ index ∈ set, index < set.capacity) ∧
      reading.unknownCategories = (listed.filter fun m => m.category?.isNone).map ListedModule.category ∧
      List.Forall₂ (fun m why => m.IsUnknown catalog why)
        (listed.filter fun m => m.category?.isSome && !m.isNumbered catalog) reading.unknown ∧
      listed.countP (·.isNumbered catalog) + reading.unknown.length + reading.unknownCategories.length =
        listed.length ∧
      ∀ others, (∀ m, m ∈ others ↔ m ∈ listed) → (Reading.read catalog others).stock = reading.stock := by
  intro reading
  have hread : reading = _ := Reading.read_eq catalog listed
  clear_value reading
  subst hread
  refine ⟨rfl, isSome_get_stockOf_iff catalog listed, fun c set hset => ?_, rfl, forall₂_whyUnknown? catalog listed,
    countP_isNumbered_add catalog listed, fun others hothers => ?_⟩
  · obtain ⟨hcapacity, hmem⟩ := mem_of_get_stockOf hset
    refine ⟨hcapacity, hmem, fun index hindex => ?_⟩
    obtain ⟨m, -, hm⟩ := (hmem index).1 hindex
    rw [hcapacity]
    exact hm.lt_count
  · rw [Reading.read_eq]
    exact stockOf_congr catalog hothers

/-- A catalog with a single laser. -/
def laserOnly : Catalog :=
  ⟨.empty .standard, .empty .internal,
    .ofList .hardpoint [⟨"bl1f", none, Catalog.Descriptor.key ⟨none, "Beam Laser", "1", "E", some "F", none⟩⟩]
      (by simp),
    .empty .utility⟩

/-- An entry for the laser, with a mount. -/
def laserEntry (mount : String) : ListedModule := ⟨" Hardpoints", "BEAM LASER", "1", "e", none, some mount, none⟩

/-- An entry under a category that does not exist. -/
def paintEntry : ListedModule := ⟨"cosmetic", "Paint Job", "0", "I", none, none, none⟩

/-- The fixed laser is known, the one on a turret is not, and paint is no module at all. -/
theorem lasers_and_paint_land :
    let listed := [laserEntry "fixed", paintEntry, laserEntry "Turret", laserEntry "fixed"]
    let others := [laserEntry "Turret", laserEntry "fixed", paintEntry]
    let reading := Reading.read laserOnly listed
    (∀ m, m ∈ others ↔ m ∈ listed) ∧ (Reading.read laserOnly others).stock = reading.stock ∧
      reading.unknownCategories = ["cosmetic"] ∧ reading.unknown.length = 1 ∧
      ∃ set, reading.stock.get .hardpoint = some set ∧ 0 ∈ set ∧ set.capacity = 1 := by
  have hreordered (a b c m : ListedModule) : m ∈ [a, b, c] ↔ m ∈ [b, c, a, b] := by
    simp only [List.mem_cons, List.not_mem_nil, or_false]
    tauto
  intro listed others reading
  obtain ⟨-, hknown, hsets, hcategories, -, hcount, horder⟩ := each_entry_lands laserOnly "Sol" "Galileo" listed
  have hsame : ∀ m, m ∈ others ↔ m ∈ listed := hreordered _ _ _
  have hlaser : (laserEntry "fixed").IsNumbered laserOnly .hardpoint 0 := by
    constructor
    · decide +kernel
    · decide +kernel
  have hpaint : reading.unknownCategories = ["cosmetic"] := hcategories.trans (by decide +kernel)
  have hnumbered : listed.countP (·.isNumbered laserOnly) = 2 := by decide +kernel
  obtain ⟨set, hset⟩ := Option.isSome_iff_exists.1 ((hknown .hardpoint).2 ⟨_, List.mem_cons_self, hlaser.1⟩)
  obtain ⟨hcapacity, hmem, -⟩ := hsets .hardpoint set hset
  refine ⟨hsame, horder others hsame, hpaint, ?_, set, hset, ?_, hcapacity⟩
  · rw [show Reading.read laserOnly listed = reading from rfl, hnumbered, hpaint] at hcount
    change 2 + reading.unknown.length + 1 = 4 at hcount
    clear_value reading
    omega
  · exact (hmem 0).2 ⟨_, List.mem_cons_self, hlaser⟩

end Announcement

end StationFinder
