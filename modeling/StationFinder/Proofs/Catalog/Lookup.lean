import StationFinder.Proofs.Catalog.Numbering

/-!
# Looking up modules

The modules of a category are numbered as the document lists them (`Document.records`), so a number stands for a
record. An id leads to the one record that has it and back. An external id and a description may fit several records:
they lead to the first of them (`FirstAt`), and the later ones are out of their reach. `Catalog.lookups_find_first`
says this of every document that loads, whatever it repeats.

Armour is listed under the names of ships, and an object of JSON has no order: a document that is read from a text has
the names in ascending order (`Json.Value.pairwise_asEntriesOf`).
-/

namespace StationFinder

/-! ### The order of entries -/

namespace Json.Value

theorem nodup_keys_foldl {α : Type} (entries : List (String × α)) {kept : List (String × α)}
    (h : (kept.map Prod.fst).Nodup) :
    ((entries.foldl (fun kept entry => if kept.any (·.1 = entry.1) then kept else entry :: kept) kept).map
      Prod.fst).Nodup := by
  induction entries generalizing kept with
  | nil => exact h
  | cons entry entries ih =>
    rw [List.foldl_cons]
    refine ih ?_
    split
    · exact h
    · next hnew =>
      rw [List.map_cons, List.nodup_cons]
      refine ⟨fun hmem => hnew ?_, h⟩
      obtain ⟨other, hother, hkey⟩ := List.mem_map.1 hmem
      exact List.any_eq_true.2 ⟨other, hother, decide_eq_true hkey⟩

theorem pairwise_lt_mergeSort {α : Type} {entries : List (String × α)} (h : (entries.map Prod.fst).Nodup) :
    (entries.mergeSort fun a b => decide (a.1 ≤ b.1)).Pairwise fun a b => a.1 < b.1 := by
  have hsorted : (entries.mergeSort fun a b => decide (a.1 ≤ b.1)).Pairwise fun a b => decide (a.1 ≤ b.1) = true := by
    apply List.pairwise_mergeSort
    · intro a b c hab hbc
      simpa using String.le_trans (by simpa using hab) (by simpa using hbc)
    · intro a b
      simpa using String.le_total a.1 b.1
  have hkeys := (((List.mergeSort_perm entries fun a b => decide (a.1 ≤ b.1)).map Prod.fst).nodup_iff).2 h
  rw [List.Nodup, List.pairwise_map] at hkeys
  refine (hsorted.and hkeys).imp fun {a b} hab => String.not_le.1 fun hba => hab.2 ?_
  exact String.le_antisymm (of_decide_eq_true hab.1) hba

/-- The entries of an object stand in the order of their names, each name once. -/
theorem pairwise_asEntriesOf {α : Type} {read : Reader α} {v : Value} {entries : List (String × α)}
    (h : asEntriesOf read v = some entries) : entries.Pairwise fun a b => a.1 < b.1 := by
  unfold asEntriesOf at h
  split at h
  · simp only [Option.bind_eq_bind, Option.bind_eq_some_iff, Option.some.injEq] at h
    obtain ⟨members, -, listed, -, rfl⟩ := h
    exact pairwise_lt_mergeSort (nodup_keys_foldl listed.reverse List.nodup_nil)
  · cases h

end Json.Value

namespace Catalog

/-- A document that is read from a text lists the armour in the order of the names of ships as written. -/
theorem Document.pairwise_bulkheads {text : String} {doc : Document} (h : parse? text = some doc) :
    doc.bulkheads.Pairwise fun a b => a.1 < b.1 := by
  obtain ⟨v, -, hv⟩ := Option.bind_eq_some_iff.1 h
  unfold ofJson? at hv
  simp only [Option.bind_eq_bind, Option.bind_eq_some_iff] at hv
  obtain ⟨fields, -, hv⟩ := hv
  split at hv
  · simp only [Option.bind_eq_some_iff, Option.some.injEq] at hv
    obtain ⟨-, -, -, -, -, -, entries, hentries, rfl⟩ := hv
    unfold Json.Value.defaulted at hentries
    split at hentries
    · exact Json.Value.pairwise_asEntriesOf hentries
    · cases hentries
      exact List.Pairwise.nil
  · cases hv

/-! ### First places -/

/-- The place of a list at which something holds for the first time. -/
def FirstAt {α : Type} (p : α → Prop) (l : List α) (i : Nat) : Prop :=
  (∃ a, l[i]? = some a ∧ p a) ∧ ∀ j < i, ∀ a, l[j]? = some a → ¬ p a

section

variable {α β : Type} {p : α → Prop}

theorem not_firstAt_nil (i : Nat) : ¬ FirstAt p [] i := by
  rintro ⟨⟨a, ha, -⟩, -⟩
  cases ha

theorem firstAt_cons_zero {a : α} {l : List α} : FirstAt p (a :: l) 0 ↔ p a := by
  constructor
  · rintro ⟨⟨b, hb, hp⟩, -⟩
    rwa [← Option.some.inj hb] at hp
  · intro hp
    exact ⟨⟨a, rfl, hp⟩, nofun⟩

theorem firstAt_cons_succ {a : α} {l : List α} {i : Nat} : FirstAt p (a :: l) (i + 1) ↔ ¬ p a ∧ FirstAt p l i := by
  constructor
  · rintro ⟨hfound, hbefore⟩
    exact ⟨hbefore 0 (Nat.succ_pos i) a rfl, hfound, fun j hj => hbefore (j + 1) (Nat.succ_lt_succ hj)⟩
  · rintro ⟨ha, hfound, hbefore⟩
    refine ⟨hfound, fun j hj b hb => ?_⟩
    cases j with
    | zero => rwa [← Option.some.inj hb]
    | succ j => exact hbefore j (Nat.lt_of_succ_lt_succ hj) b hb

theorem firstAt_congr {p' : α → Prop} {l : List α} (h : ∀ a ∈ l, (p a ↔ p' a)) {i : Nat} :
    FirstAt p l i ↔ FirstAt p' l i := by
  have hat {j : Nat} {a : α} (ha : l[j]? = some a) : p a ↔ p' a := h a (List.mem_of_getElem? ha)
  constructor
  · rintro ⟨⟨a, ha, hp⟩, hbefore⟩
    exact ⟨⟨a, ha, (hat ha).1 hp⟩, fun j hj b hb hp => hbefore j hj b hb ((hat hb).2 hp)⟩
  · rintro ⟨⟨a, ha, hp⟩, hbefore⟩
    exact ⟨⟨a, ha, (hat ha).2 hp⟩, fun j hj b hb hp => hbefore j hj b hb ((hat hb).1 hp)⟩

/-- What is looked for among related things is found at the place of the first one that fits. -/
theorem findIdx?_eq_some_iff_firstAt {R : α → β → Prop} {l : List α} {l' : List β} (h : List.Forall₂ R l l')
    {q : β → Bool} (hq : ∀ a b, R a b → (q b = true ↔ p a)) {i : Nat} : l'.findIdx? q = some i ↔ FirstAt p l i := by
  induction h generalizing i with
  | nil => exact iff_of_false nofun (not_firstAt_nil i)
  | @cons a b l l' hab _ ih =>
    rw [List.findIdx?_cons]
    split
    · next hfound =>
      have hp : p a := (hq a b hab).1 hfound
      cases i with
      | zero => exact iff_of_true rfl (firstAt_cons_zero.2 hp)
      | succ i => exact iff_of_false nofun fun hfirst => (firstAt_cons_succ.1 hfirst).1 hp
    · next hfound =>
      have hp : ¬ p a := fun hp => hfound ((hq a b hab).2 hp)
      cases i with
      | zero => exact iff_of_false (by simp) fun hfirst => hp (firstAt_cons_zero.1 hfirst)
      | succ i => simp [ih, firstAt_cons_succ, hp]

end

/-! ### The lookups of a space -/

namespace Space

variable {space : Space} {i : Nat}

theorem indexOfId_eq_ok_iff {id : String} : space.indexOfId id = .ok i ↔ space.indexOfId? id = some i := by
  unfold indexOfId
  split <;> simp [*]

theorem indexOfDescriptor_eq_ok_iff {d : Descriptor} :
    space.indexOfDescriptor d = .ok i ↔ space.indexOfDescriptor? d = some i := by
  unfold indexOfDescriptor
  split <;> simp [*]

/-! No lookup leads beyond the last module. -/

theorem lt_count_of_indexOfId {id : String} (h : space.indexOfId id = .ok i) : i < space.count := by
  simpa [count] using space.byId_lead.lt_length (indexOfId_eq_ok_iff.1 h)

theorem lt_count_of_indexOfExternal? {external : String} (h : space.indexOfExternal? external = some i) :
    i < space.count := by
  simpa [count] using space.byExternal_lead.lt_length h

theorem lt_count_of_indexOfDescriptor {d : Descriptor} (h : space.indexOfDescriptor d = .ok i) : i < space.count := by
  simpa [count] using space.byKey_lead.lt_length (indexOfDescriptor_eq_ok_iff.1 h)

/-- The number of an id is the one under which it stands: ids are distinct. -/
theorem indexOfId?_eq_some_iff {id : String} : space.indexOfId? id = some i ↔ space.idAt? i = some id := by
  rw [indexOfId?_eq, List.findIdx?_eq_some_iff_getElem, idAt?]
  constructor
  · rintro ⟨hi, hid, -⟩
    rw [List.getElem?_eq_getElem hi, Option.map_some, of_decide_eq_true hid]
  · intro hid
    obtain ⟨entry, hentry, rfl⟩ := Option.map_eq_some_iff.1 hid
    obtain ⟨hi, rfl⟩ := List.getElem?_eq_some_iff.1 hentry
    refine ⟨hi, decide_eq_true rfl, fun j hj hsame => ?_⟩
    have hplace := List.nodup_iff_getElem?_ne_getElem?.1 space.distinct j i hj (by simpa using hi)
    rw [List.getElem?_map, List.getElem?_map, hentry, List.getElem?_eq_getElem (Nat.lt_trans hj hi), Option.map_some,
      Option.map_some, of_decide_eq_true hsame] at hplace
    exact hplace rfl

end Space

/-! ### The records of a category -/

/-- The records that a category numbers, in the order of their numbers. Armour is standard, after all other standard
records; of the hardpoint records those of class zero are utility modules. -/
def Document.records (doc : Document) : Category → List Part
  | .standard => doc.standard.map (.module .standard) ++ doc.bulkheads.flatMap armourParts
  | .internal => doc.internal.map (.module .internal)
  | .hardpoint => (doc.hardpoints.filter (·.slot = .hardpoint)).map (.module .hardpoint)
  | .utility => (doc.hardpoints.filter (·.slot = .utility)).map (.module .utility)

/-- The description under which a record is numbered. -/
def Part.descriptor : Part → Except Fault Descriptor
  | module category record => (nameOf record).map fun name => record.descriptor name (category = .hardpoint)
  | armour ship record => .ok (record.descriptor ship)

theorem Part.exists_name_of_descriptor {category : Category} {record : ModuleRecord} {d : Descriptor}
    (h : (module category record).descriptor = .ok d) :
    ∃ name, nameOf record = .ok name ∧ d = record.descriptor name (category = .hardpoint) := by
  simp only [descriptor] at h
  cases hname : nameOf record with
  | error fault =>
    rw [hname] at h
    cases h
  | ok name =>
    rw [hname] at h
    exact ⟨name, rfl, (Except.ok.inj h).symm⟩

theorem filter_map_slot_eq (c : Category) (records : List ModuleRecord) :
    (records.map fun record => Part.module record.slot record).filter (·.category = c) =
      (records.filter (·.slot = c)).map (.module c) := by
  induction records with
  | nil => rfl
  | cons record records ih =>
    rw [List.map_cons, List.filter_cons, List.filter_cons, ih, Part.category]
    by_cases hslot : record.slot = c <;> simp [hslot]

theorem filter_parts (doc : Document) (c : Category) : doc.parts.filter (·.category = c) = doc.records c := by
  simp only [Document.parts, List.filter_append, filter_map_module, filter_flatMap_armourParts]
  cases c with
  | standard => rw [filter_map_slot (.inl rfl)]; simp [Document.records]
  | internal => rw [filter_map_slot (.inr rfl)]; simp [Document.records]
  | hardpoint => rw [filter_map_slot_eq]; simp [Document.records]
  | utility => rw [filter_map_slot_eq]; simp [Document.records]

theorem Part.key_of_entry {part : Part} {entry : Entry} (h : part.entry = .ok entry) :
    ∃ d, part.descriptor = .ok d ∧ entry.key = d.key := by
  cases part with
  | module category record =>
    obtain ⟨size, -, h⟩ := bind_eq_ok h
    obtain ⟨name, hname, h⟩ := bind_eq_ok h
    cases h
    exact ⟨_, by rw [descriptor, hname]; rfl, rfl⟩
  | armour ship record =>
    cases h
    exact ⟨_, rfl, rfl⟩

/-- In a run that succeeds each step does. -/
theorem exists_step_of_foldlM {σ α : Type} {step : σ → α → Except Fault σ} {l : List α} {s s' : σ}
    (h : l.foldlM step s = .ok s') {a : α} (ha : a ∈ l) : ∃ t t', step t a = .ok t' := by
  induction l generalizing s with
  | nil => cases ha
  | cons b l ih =>
    rw [List.foldlM_cons] at h
    obtain ⟨t, hb, hl⟩ := bind_eq_ok h
    rcases List.mem_cons.1 ha with rfl | ha
    · exact ⟨s, t, hb⟩
    · exact ih hl ha

section

variable {doc : Document} {catalog : Catalog} (hload : ofDocument doc = .ok catalog)

include hload

theorem numbered_records (c : Category) : Numbered (doc.records c) (catalog.space c).entries :=
  filter_parts doc c ▸ numbered_of_ofDocument hload c

theorem exists_ship_of_mem_bulkheads {listed : String × List ArmourRecord} (h : listed ∈ doc.bulkheads) :
    ∃ ship, Ship.parse listed.1 = .ok ship ∧ armourParts listed = listed.2.map (.armour ship) := by
  obtain ⟨_, _, hload⟩ := bind_eq_ok hload
  obtain ⟨_, harmour, _⟩ := bind_eq_ok hload
  obtain ⟨_, _, hadd⟩ := exists_step_of_foldlM harmour h
  obtain ⟨ship, hship, -⟩ := bind_eq_ok hadd
  exact ⟨ship, hship, by rw [armourParts, hship]⟩

theorem exists_class_of_mem_hardpoints {record : ModuleRecord} (h : record ∈ doc.hardpoints) :
    ∃ size, classOf record = .ok size ∧ record.slot = if size = 0 then .utility else .hardpoint := by
  obtain ⟨_, _, hload⟩ := bind_eq_ok hload
  obtain ⟨_, _, hload⟩ := bind_eq_ok hload
  obtain ⟨_, _, hload⟩ := bind_eq_ok hload
  obtain ⟨_, hmounted, _⟩ := bind_eq_ok hload
  obtain ⟨_, _, hadd⟩ := exists_step_of_foldlM hmounted h
  obtain ⟨size, hsize, -⟩ := bind_eq_ok hadd
  refine ⟨size, hsize, ?_⟩
  rw [ModuleRecord.slot, hsize]
  cases size <;> rfl

/-- A space lists the ids of its records in their order. -/
theorem map_id_entries (c : Category) : (catalog.space c).entries.map Entry.id = (doc.records c).map Part.id := by
  have h := numbered_records hload c
  generalize (catalog.space c).entries = entries, doc.records c = records at h
  induction h with
  | nil => rfl
  | cons hentry _ ih => rw [List.map_cons, List.map_cons, Part.id_of_entry hentry, ih]

theorem indexOfExternal?_eq_some_iff (c : Category) {external : String} {i : Nat} :
    (catalog.space c).indexOfExternal? external = some i ↔
      external ≠ "" ∧ FirstAt (fun part => part.externalId? = some external) (doc.records c) i := by
  rw [Space.indexOfExternal?_eq]
  by_cases hempty : external = ""
  · subst hempty
    refine iff_of_false (fun hfound => ?_) fun h => h.1 rfl
    -- An empty external id is not kept as one.
    rw [List.findIdx?_eq_some_iff_getElem] at hfound
    obtain ⟨hi, hfound, -⟩ := hfound
    obtain ⟨part, -, -, hentry⟩ := exists_part hload (List.getElem_mem hi)
    rw [decide_eq_true_eq, Part.external_of_entry hentry, Option.filter_eq_some_iff] at hfound
    simp at hfound
  · rw [and_iff_right hempty]
    refine findIdx?_eq_some_iff_firstAt (numbered_records hload c) fun part entry hentry => ?_
    rw [decide_eq_true_eq, Part.external_of_entry hentry, Option.filter_eq_some_iff]
    simp [hempty]

theorem indexOfDescriptor_eq_ok_iff_firstAt (c : Category) {d : Descriptor} {i : Nat} :
    (catalog.space c).indexOfDescriptor d = .ok i ↔
      FirstAt (fun part => ∃ e, part.descriptor = .ok e ∧ e.key = d.key) (doc.records c) i := by
  rw [Space.indexOfDescriptor_eq_ok_iff, Space.indexOfDescriptor?_eq]
  refine findIdx?_eq_some_iff_firstAt (numbered_records hload c) fun part entry hentry => ?_
  obtain ⟨e, he, hkey⟩ := Part.key_of_entry hentry
  rw [decide_eq_true_eq, hkey]
  simp [he]

/-- The own description of a record is found. -/
theorem exists_indexOfDescriptor (c : Category) {part : Part} (hpart : part ∈ doc.records c) :
    ∃ d i, part.descriptor = .ok d ∧ (catalog.space c).indexOfDescriptor d = .ok i := by
  obtain ⟨entry, hmem, hentry⟩ := exists_of_forall₂ (numbered_records hload c) hpart
  obtain ⟨d, hd, hkey⟩ := Part.key_of_entry hentry
  have hsome : ((catalog.space c).indexOfDescriptor? d).isSome = true := by
    rw [Space.indexOfDescriptor?_eq, List.findIdx?_isSome, List.any_eq_true]
    exact ⟨entry, hmem, decide_eq_true hkey⟩
  obtain ⟨i, hi⟩ := Option.isSome_iff_exists.1 hsome
  exact ⟨d, i, hd, Space.indexOfDescriptor_eq_ok_iff.2 hi⟩

end

/-! ### Lookups and records -/

/-- **Lookups lead to the first record that fits.** In a document that loads, armour is listed under ships and hardpoint
records have a class, and if the document was read from a text then the names of the ships ascend. Each category numbers
its records in their order, with distinct ids. An id is looked up to the number under which it stands; an external id,
unless it is empty, to the first record that has it; the own description of a record to the first record whose
description has the same key. No lookup leads beyond the last record. -/
theorem lookups_find_first {doc : Document} {catalog : Catalog} (hload : ofDocument doc = .ok catalog) :
    (∀ listed ∈ doc.bulkheads, ∃ ship, Ship.parse listed.1 = .ok ship ∧
      armourParts listed = listed.2.map (.armour ship)) ∧
    (∀ record ∈ doc.hardpoints, ∃ size, classOf record = .ok size ∧
      record.slot = if size = 0 then .utility else .hardpoint) ∧
    (∀ text, Document.parse? text = some doc → doc.bulkheads.Pairwise fun a b => a.1 < b.1) ∧
    ∀ c : Category,
      (catalog.space c).count = (doc.records c).length ∧
      (∀ i, (catalog.space c).idAt? i = (doc.records c)[i]?.map Part.id) ∧
      ((doc.records c).map Part.id).Nodup ∧
      (∀ id i, (catalog.space c).indexOfId id = .ok i ↔ (catalog.space c).idAt? i = some id) ∧
      (∀ external i, (catalog.space c).indexOfExternal? external = some i ↔
        external ≠ "" ∧ FirstAt (fun part => part.externalId? = some external) (doc.records c) i) ∧
      (∀ part ∈ doc.records c, ∃ d i, part.descriptor = .ok d ∧ (catalog.space c).indexOfDescriptor d = .ok i ∧
        FirstAt (fun other => ∃ e, other.descriptor = .ok e ∧ e.key = d.key) (doc.records c) i) ∧
      (∀ id i, (catalog.space c).indexOfId id = .ok i → i < (catalog.space c).count) ∧
      (∀ external i, (catalog.space c).indexOfExternal? external = some i → i < (catalog.space c).count) ∧
      ∀ d i, (catalog.space c).indexOfDescriptor d = .ok i → i < (catalog.space c).count := by
  refine ⟨fun listed hlisted => exists_ship_of_mem_bulkheads hload hlisted,
    fun record hrecord => exists_class_of_mem_hardpoints hload hrecord,
    fun text htext => Document.pairwise_bulkheads htext, fun c => ?_⟩
  have hids := map_id_entries hload c
  refine ⟨?_, fun i => ?_, hids ▸ (catalog.space c).distinct, fun id i => ?_,
    fun external i => indexOfExternal?_eq_some_iff hload c, fun part hpart => ?_,
    fun id i hi => Space.lt_count_of_indexOfId hi, fun external i hi => Space.lt_count_of_indexOfExternal? hi,
    fun d i hi => Space.lt_count_of_indexOfDescriptor hi⟩
  · exact (numbered_records hload c).length_eq.symm
  · rw [Space.idAt?, ← List.getElem?_map, hids, List.getElem?_map]
  · rw [Space.indexOfId_eq_ok_iff, Space.indexOfId?_eq_some_iff]
  · obtain ⟨d, i, hd, hi⟩ := exists_indexOfDescriptor hload c hpart
    exact ⟨d, i, hd, hi, (indexOfDescriptor_eq_ok_iff_firstAt hload c).1 hi⟩

/-- A laser. -/
def laser : ModuleRecord := ⟨"bl1f", some "200", none, some "bl", "1", "E", some "F", none⟩

/-- The laser again, under another id and in another spelling. -/
def laserAgain : ModuleRecord := ⟨"laser", some "200", some "Beam Laser", none, " 1", "e", some "fixed", none⟩

/-- The laser is listed twice, with a launcher in between that has the same external id; there is armour of two ships,
one of them under another name. -/
def twiceListed : Document where
  standard := [⟨"pp2e", some "", none, some "pp", "2", "E", none, none⟩]
  internal := []
  hardpoints := [laser, ⟨"cm0ch", some "200", some "Chaff Launcher", some "cm", "0", "I", none, none⟩, laserAgain]
  bulkheads := [("Viper", [⟨"vi0", "Lightweight Alloy", "1", "I"⟩]), ("asp", [⟨"as0", "Lightweight Alloy", "1", "I"⟩])]

theorem twiceListed_lookups : ∃ catalog, ofDocument twiceListed = .ok catalog ∧
    (catalog.space .standard).indexOfId "as0" = .ok 2 ∧ (catalog.space .standard).indexOfExternal? "" = none ∧
    (catalog.space .utility).indexOfExternal? "200" = some 0 ∧
    (catalog.space .hardpoint).indexOfId "laser" = .ok 1 ∧
    (catalog.space .hardpoint).indexOfExternal? "200" = some 0 ∧
    ∃ d, Part.descriptor (.module .hardpoint laserAgain) = .ok d ∧
      (catalog.space .hardpoint).indexOfDescriptor d = .ok 0 := by
  have hloads : (ofDocument twiceListed).isOk = true := by decide +kernel
  cases hload : ofDocument twiceListed with
  | error fault =>
    rw [hload] at hloads
    cases hloads
  | ok catalog =>
    obtain ⟨-, -, -, hspaces⟩ := lookups_find_first hload
    obtain ⟨-, hat, -, hid, hexternal, -⟩ := hspaces .standard
    obtain ⟨-, -, -, -, hlauncher, -⟩ := hspaces .utility
    obtain ⟨-, hatMount, -, hidMount, hexternalMount, hdescriptor, -⟩ := hspaces .hardpoint
    have hlasers : twiceListed.records .hardpoint = [.module .hardpoint laser, .module .hardpoint laserAgain] := by
      decide +kernel
    rw [hlasers] at hexternalMount hdescriptor
    refine ⟨catalog, rfl, (hid "as0" 2).2 ((hat 2).trans (by decide +kernel)),
      Option.eq_none_iff_forall_ne_some.2 fun i hi => ((hexternal "" i).1 hi).1 rfl,
      (hlauncher "200" 0).2 ⟨by decide, ⟨⟨_, rfl, rfl⟩, nofun⟩⟩,
      (hidMount "laser" 1).2 ((hatMount 1).trans (by decide +kernel)),
      (hexternalMount "200" 0).2 ⟨by decide, firstAt_cons_zero.2 rfl⟩, ?_⟩
    obtain ⟨d, i, hd, hi, hfirst⟩ := hdescriptor _ (List.mem_cons_of_mem _ List.mem_cons_self)
    refine ⟨d, hd, ?_⟩
    cases i with
    | zero => exact hi
    | succ i =>
      -- The first laser has the key of the second already.
      cases hd
      exact absurd ⟨_, rfl, by decide +kernel⟩ (firstAt_cons_succ.1 hfirst).1

end Catalog

end StationFinder
