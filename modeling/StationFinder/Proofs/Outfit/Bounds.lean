import StationFinder.Proofs.Relay.Entries
import StationFinder.Proofs.Snapshot.Decoding

/-!
# Sets within bounds

A module set is made for a numbering of some size, and a number that is not below that size stands for no module.
Nothing keeps such a number out of a set (`ModuleSet.insert`), so it is up to those who fill sets. Here they are watched
while they do: a number is accepted only if it is within bounds, and stops everything if it is not (`ModuleSet.accept`).
Sets are filled from ids, from external ids and from the entries of messages. Watched or not, the outcome is the same
(`Catalog.Space.setOfIdsWatched_eq`, `Catalog.Space.setOfExternalsWatched_eq`, `Reading.readWatched_eq`), so there is
never a number to keep out.

A set within the bounds of its space stands for modules that all have ids, so a description of stock by ids leaves none
of them out (`Catalog.describesAll_of_isOver`).
-/

namespace StationFinder

/-! ### Filling a set -/

/-- What can stop a set from being filled. -/
inductive Halt where
  /-- Something on the list is not known. -/
  | refused (fault : Fault)
  /-- A number is none of those that the set is made for. -/
  | outOfBounds (index capacity : Nat)

namespace ModuleSet

variable {α : Type}

/-- The set with one more member, which has to be one of the numbers that the set is made for. -/
def accept (s : ModuleSet) (i : Nat) : Except Halt ModuleSet :=
  if i < s.capacity then .ok (s.insert i) else .error (.outOfBounds i s.capacity)

/-- The things on a list looked up one after the other, and each number that is found accepted into the set. -/
def fill (number? : α → Except Fault (Option Nat)) (s : ModuleSet) (listed : List α) : Except Halt ModuleSet :=
  listed.foldlM (fun s a => do
    match ← (number? a).mapError Halt.refused with
    | some i => s.accept i
    | none => return s) s

theorem accept_of_lt {s : ModuleSet} {i : Nat} (h : i < s.capacity) : s.accept i = .ok (s.insert i) := if_pos h

/-- Where only numbers within bounds are found, all of them are accepted, unless a fault ends the search. -/
theorem fill_eq {number? : α → Except Fault (Option Nat)} {listed : List α} {s : ModuleSet}
    (hbound : ∀ a ∈ listed, ∀ i, number? a = .ok (some i) → i < s.capacity) :
    s.fill number? listed =
      ((listed.mapM number?).map fun found => (found.filterMap id).foldl insert s).mapError .refused := by
  induction listed generalizing s with
  | nil => rfl
  | cons a listed ih =>
    have hrest {t : ModuleSet} (ht : t.capacity = s.capacity) :=
      ih (s := t) fun b hb i hi => ht ▸ hbound b (List.mem_cons_of_mem a hb) i hi
    rw [fill, List.foldlM_cons, List.mapM_cons]
    -- A fault ends both sides alike; what has no number leaves the set as it is; a number is accepted.
    cases hnumber : number? a with
    | error fault => rfl
    | ok i? =>
      cases i? with
      | none =>
        refine (hrest rfl).trans ?_
        cases listed.mapM number? <;> rfl
      | some i =>
        change s.accept i >>= (fill number? · listed) = _
        rw [accept_of_lt (hbound a List.mem_cons_self i hnumber)]
        refine (hrest (s.capacity_insert i)).trans ?_
        cases listed.mapM number? <;> rfl

-- The watch notices the first number out of bounds.
example : (empty 1).fill (fun i => .ok (some i)) [0, 1, 2] = .error (.outOfBounds 1 1) := rfl

end ModuleSet

/-! ### Sets of listed modules -/

namespace Catalog

namespace Space

variable {space : Space}

/-- The set of the modules with the listed ids, filled under watch. -/
def setOfIdsWatched (space : Space) (ids : List String) : Except Halt (Option ModuleSet) :=
  if ids.isEmpty then .ok none else some <$> space.emptySet.fill (fun id => some <$> space.indexOfId id) ids

/-- The set of the modules with the listed external ids, filled under watch. -/
def setOfExternalsWatched (space : Space) (externals : List String) : Except Halt ModuleSet :=
  space.emptySet.fill (fun external => .ok (space.indexOfExternal? external)) externals

theorem mapM_some_indexOfId (space : Space) (ids : List String) :
    (ids.mapM fun id => some <$> space.indexOfId id) = (ids.mapM space.indexOfId).map (List.map some) := by
  induction ids with
  | nil => rfl
  | cons id ids ih =>
    rw [List.mapM_cons, List.mapM_cons, ih]
    cases space.indexOfId id with
    | error fault => rfl
    | ok i => cases ids.mapM space.indexOfId <;> rfl

theorem setOfIdsWatched_eq (space : Space) (ids : List String) :
    space.setOfIdsWatched ids = (space.setOfIds ids).mapError .refused := by
  rw [setOfIdsWatched, setOfIds]
  split
  · rfl
  · rw [ModuleSet.fill_eq, mapM_some_indexOfId]
    · cases ids.mapM space.indexOfId with
      | error fault => rfl
      | ok indexes => simp [Except.map, Except.mapError, List.filterMap_map, ModuleSet.ofList, emptySet]
    · intro id _ i hi
      cases hindex : space.indexOfId id with
      | error fault =>
        rw [hindex] at hi
        cases hi
      | ok j =>
        rw [hindex] at hi
        cases hi
        exact lt_count_of_indexOfId hindex

theorem setOfExternalsWatched_eq (space : Space) (externals : List String) :
    space.setOfExternalsWatched externals = .ok (space.setOfExternals externals) := by
  rw [setOfExternalsWatched, ModuleSet.fill_eq]
  · have hmapM : (externals.mapM fun external => (.ok (space.indexOfExternal? external) : Except Fault _)) =
        .ok (externals.map space.indexOfExternal?) := List.mapM_pure
    rw [hmapM]
    simp [Except.map, Except.mapError, List.filterMap_map, ModuleSet.ofList, emptySet, setOfExternals]
  · intro external _ i hi
    exact lt_count_of_indexOfExternal? (Except.ok.inj hi)

theorem isOver_of_setOfIds {ids : List String} {s : ModuleSet} (h : space.setOfIds ids = .ok (some s)) :
    s.IsOver space.count := by
  cases ids with
  | nil => cases h
  | cons id ids =>
    obtain ⟨t, ht, hover, -⟩ := exists_setOfIds (List.cons_ne_nil id ids) (known_of_setOfIds h)
    obtain rfl : t = s := by simpa using ht.symm.trans h
    exact hover

end Space

theorem isOver_of_matcher {catalog : Catalog} {c : Category} {ids : List String} {m : Matcher}
    (h : catalog.matcher c ids = .ok (some m)) : m.wanted.IsOver (catalog.space c).count := by
  rw [matcher] at h
  cases hset : (catalog.space c).setOfIds ids with
  | error fault =>
    rw [hset] at h
    cases h
  | ok set =>
    rw [hset] at h
    cases set with
    | none => cases h
    | some s =>
      cases h
      exact Space.isOver_of_setOfIds hset

end Catalog

/-- The stock of a record is known in every category, and over its space. -/
theorem StationRecord.isOver_of_decode {r : StationRecord} {catalog : Catalog} {stock : Inventory}
    (h : (r.decode catalog).report.inventory = some stock) : stock.IsOver catalog := by
  obtain ⟨externals, -, rfl⟩ := Option.map_eq_some_iff.1 h
  intro c s hs
  rw [stockOf, Inventory.get_ofFun, Option.some.injEq] at hs
  exact hs ▸ Catalog.Space.isOver_setOfExternals _ externals

/-! ### Messages -/

theorem Announcement.isOver_stockOf (catalog : Catalog) (listed : List ListedModule) :
    (stockOf catalog listed).IsOver catalog := by
  intro c s hs
  obtain ⟨hcapacity, hmem⟩ := mem_of_get_stockOf hs
  refine ⟨hcapacity, fun i hi => ?_⟩
  obtain ⟨m, -, hm⟩ := (hmem i).1 hi
  exact hm.lt_count

namespace Reading

variable {catalog : Catalog}

/-- After one more entry, its number put into the set of its category under watch. -/
def noteWatched (catalog : Catalog) (r : Reading) (m : ListedModule) : Except Halt Reading :=
  match m.category? with
  | none => .ok { r with unknownCategories := r.unknownCategories ++ [m.category] }
  | some c =>
    let set := (r.stock.get c).getD (catalog.space c).emptySet
    match m.resolve catalog c with
    | .ok index => do return { r with stock := r.stock.set c (some (← set.accept index)) }
    | .error fault => .ok { r with stock := r.stock.set c (some set), unknown := r.unknown ++ [fault.message] }

/-- After a list of entries, read under watch. -/
def readWatched (catalog : Catalog) (listed : List ListedModule) : Except Halt Reading :=
  listed.foldlM (noteWatched catalog) blank

theorem isOver_stock_read (catalog : Catalog) (listed : List ListedModule) :
    (read catalog listed).stock.IsOver catalog := by
  rw [read_eq]
  exact Announcement.isOver_stockOf catalog listed

/-- The number of an entry is within the bounds of what was read before it, as far as that is over the catalog. -/
theorem noteWatched_eq {r : Reading} (hr : r.stock.IsOver catalog) (m : ListedModule) :
    r.noteWatched catalog m = .ok (r.note catalog m) := by
  unfold noteWatched note
  cases hcategory : m.category? with
  | none => rfl
  | some c =>
    have hcapacity : ((r.stock.get c).getD (catalog.space c).emptySet).capacity = (catalog.space c).count := by
      cases hset : r.stock.get c with
      | none => rfl
      | some s => exact (hr c s hset).capacity_eq
    cases hresolve : m.resolve catalog c with
    | error fault => simp only [hresolve]
    | ok index =>
      have hnumbered : m.IsNumbered catalog c index := ⟨hcategory, hresolve⟩
      simp only [hresolve, ModuleSet.accept_of_lt (hcapacity ▸ hnumbered.lt_count)]
      rfl

theorem readWatched_eq (catalog : Catalog) (listed : List ListedModule) :
    readWatched catalog listed = .ok (read catalog listed) := by
  -- On the last entry: what was read before it is over the catalog, which keeps its number within bounds.
  induction listed using List.reverseRecOn with
  | nil => rfl
  | append_singleton listed m ih =>
    rw [readWatched] at ih ⊢
    rw [List.foldlM_append, ih, read_concat]
    simp only [List.foldlM_cons, List.foldlM_nil, bind, Except.bind]
    rw [noteWatched_eq (isOver_stock_read catalog listed)]
    rfl

end Reading

/-! ### Descriptions of stock -/

/-- What is picked from every item of a list, in order. -/
theorem forall₂_filterMap {α β : Type} {f : α → Option β} {l : List α} (h : ∀ a ∈ l, ∃ b, f a = some b) :
    List.Forall₂ (fun a b => f a = some b) l (l.filterMap f) := by
  induction l with
  | nil => exact .nil
  | cons a l ih =>
    obtain ⟨b, hb⟩ := h a List.mem_cons_self
    rw [List.filterMap_cons_some hb]
    exact .cons hb (ih fun c hc => h c (List.mem_cons_of_mem a hc))

namespace Catalog

/-- The description of stock leaves nothing out: every known category is in it, with the id of each of its modules in
their order. -/
def DescribesAll (catalog : Catalog) (stock : Inventory) : Prop :=
  ∀ (c : Category) (s : ModuleSet), stock.get c = some s → ∃ ids : List String,
    (c, ids) ∈ catalog.describe stock ∧
      List.Forall₂ (fun i id => (catalog.space c).idAt? i = some id) s.indexes ids

theorem describesAll_of_isOver {catalog : Catalog} {stock : Inventory} (h : stock.IsOver catalog) :
    catalog.DescribesAll stock := by
  intro c s hs
  refine ⟨(catalog.space c).idsOf s, mem_describe_iff.2 ⟨s, hs, rfl⟩, forall₂_filterMap fun i hi => ?_⟩
  exact Space.exists_idAt? ((h c s hs).lt_count i hi)

end Catalog

end StationFinder
