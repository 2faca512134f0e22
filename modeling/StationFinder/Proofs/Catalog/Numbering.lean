import Mathlib.Data.List.Forall2
import Mathlib.Data.List.Nodup
import Mathlib.Data.List.Pairwise
import StationFinder.Catalog.Build

/-!
# The numbering of a document

The records of a document that loads are numbered category by category, in the order of the document and without
gaps: standard records, armour, internal records, hardpoint records (`Catalog.numbered_of_ofDocument`). What a lookup
finds is then a matter of the records alone.
-/

namespace StationFinder.Catalog

/-- The category of a hardpoint record, by its class. -/
def ModuleRecord.slot (record : ModuleRecord) : Category :=
  match classOf record with
  | .ok 0 => .utility
  | _ => .hardpoint

/-- A record of a document, with the category or the ship that it stands under. -/
inductive Part where
  | module (category : Category) (record : ModuleRecord)
  | armour (ship : Ship) (record : ArmourRecord)
deriving DecidableEq

namespace Part

def category : Part → Category
  | module category _ => category
  | armour _ _ => .standard

def id : Part → String
  | module _ record => record.id
  | armour _ record => record.id

def externalId? : Part → Option String
  | module _ record => record.externalId
  | armour _ _ => none

/-- What a record is numbered as. -/
def entry : Part → Except Fault Entry
  | module category record => moduleEntry (category = .hardpoint) record
  | armour ship record => .ok ⟨record.id, none, (record.descriptor ship).key⟩

end Part

/-- The armour that is listed under a ship's name. -/
def armourParts (listed : String × List ArmourRecord) : List Part :=
  match Ship.parse listed.1 with
  | .ok ship => listed.2.map (.armour ship)
  | .error _ => []

/-- The records of a document in the order in which they are numbered. -/
def Document.parts (doc : Document) : List Part :=
  doc.standard.map (.module .standard) ++ doc.bulkheads.flatMap armourParts ++
    doc.internal.map (.module .internal) ++ doc.hardpoints.map fun record => .module record.slot record

/-- The entries are those of the parts, in this order. -/
def Numbered (parts : List Part) (entries : List Entry) : Prop :=
  List.Forall₂ (fun part entry => part.entry = .ok entry) parts entries

/-- A space has grown by some parts. -/
def Extends (parts : List Part) (before after : Space) : Prop :=
  ∃ added, Numbered parts added ∧ after.entries = before.entries ++ added

/-! ### How spaces grow -/

theorem Extends.refl (space : Space) : Extends [] space space := ⟨[], .nil, by simp⟩

theorem Extends.trans {parts parts' : List Part} {space space' space'' : Space} (h : Extends parts space space')
    (h' : Extends parts' space' space'') : Extends (parts ++ parts') space space'' := by
  obtain ⟨added, hadded, hentries⟩ := h
  obtain ⟨added', hadded', hentries'⟩ := h'
  exact ⟨added ++ added', List.rel_append hadded hadded', by rw [hentries', hentries, List.append_assoc]⟩

theorem extends_push (part : Part) {entry : Entry} (hentry : part.entry = .ok entry) {space space' : Space}
    (h : space.push entry = .ok space') : Extends [part] space space' := by
  unfold Space.push at h
  split at h
  · cases h
  · cases h
    exact ⟨[entry], .cons hentry .nil, rfl⟩

theorem bind_eq_ok {α β : Type} {x : Except Fault α} {f : α → Except Fault β} {b : β} (h : x >>= f = .ok b) :
    ∃ a, x = .ok a ∧ f a = .ok b := by
  cases x with
  | error fault => cases h
  | ok a => exact ⟨a, rfl, h⟩

/-- Where each step of a run grows a space by some parts, the run grows it by all of them in turn. -/
theorem extends_foldlM {σ α : Type} {step : σ → α → Except Fault σ} {l : List α} {s s' : σ}
    (h : l.foldlM step s = .ok s') (space : σ → Space) (parts : α → List Part)
    (hstep : ∀ s a s', step s a = .ok s' → Extends (parts a) (space s) (space s')) :
    Extends (l.flatMap parts) (space s) (space s') := by
  induction l generalizing s with
  | nil =>
    cases h
    exact .refl _
  | cons a l ih =>
    rw [List.foldlM_cons] at h
    obtain ⟨t, ha, hl⟩ := bind_eq_ok h
    rw [List.flatMap_cons]
    exact (hstep s a t ha).trans (ih hl)

theorem extends_addModule (category : Category) {space space' : Space} {record : ModuleRecord}
    (h : addModule (category = .hardpoint) space record = .ok space') :
    Extends [.module category record] space space' := by
  obtain ⟨entry, hentry, hpush⟩ := bind_eq_ok h
  exact extends_push (.module category record) hentry hpush

theorem extends_modules (category : Category) {space space' : Space} {records : List ModuleRecord}
    (h : records.foldlM (addModule (category = .hardpoint)) space = .ok space') :
    Extends (records.map (.module category)) space space' := by
  rw [List.map_eq_flatMap]
  exact extends_foldlM h id _ fun _ _ _ hadd => extends_addModule category hadd

theorem extends_addArmour {space space' : Space} {listed : String × List ArmourRecord}
    (h : addArmour space listed = .ok space') : Extends (armourParts listed) space space' := by
  obtain ⟨ship, hship, hfold⟩ := bind_eq_ok h
  rw [armourParts, hship]
  change Extends (listed.2.map (.armour ship)) space space'
  rw [List.map_eq_flatMap]
  exact extends_foldlM hfold id _ fun _ record _ hpush => extends_push (.armour ship record) rfl hpush

theorem extends_bulkheads {space space' : Space} {bulkheads : List (String × List ArmourRecord)}
    (h : bulkheads.foldlM addArmour space = .ok space') : Extends (bulkheads.flatMap armourParts) space space' :=
  extends_foldlM h id armourParts fun _ _ _ hadd => extends_addArmour hadd

/-- A hardpoint record goes to the space of its class and leaves the other one alone. -/
theorem extends_addMounted {spaces spaces' : Space × Space} {record : ModuleRecord}
    (h : addMounted spaces record = .ok spaces') :
    Extends ([Part.module record.slot record].filter (·.category = .hardpoint)) spaces.1 spaces'.1 ∧
      Extends ([Part.module record.slot record].filter (·.category = .utility)) spaces.2 spaces'.2 := by
  obtain ⟨size, hsize, hadd⟩ := bind_eq_ok h
  split at hadd
  · next hzero =>
    subst hzero
    obtain ⟨space, hspace, heq⟩ := bind_eq_ok hadd
    cases heq
    have hslot : record.slot = .utility := by simp [ModuleRecord.slot, hsize]
    rw [hslot]
    exact ⟨.refl _, extends_addModule .utility hspace⟩
  · next hpos =>
    obtain ⟨space, hspace, heq⟩ := bind_eq_ok hadd
    cases heq
    have hslot : record.slot = .hardpoint := by
      rw [ModuleRecord.slot, hsize]
      cases size with
      | zero => exact absurd rfl hpos
      | succ n => rfl
    rw [hslot]
    exact ⟨extends_addModule .hardpoint hspace, .refl _⟩

theorem extends_mounted {spaces spaces' : Space × Space} {records : List ModuleRecord}
    (h : records.foldlM addMounted spaces = .ok spaces') :
    Extends ((records.map fun record => Part.module record.slot record).filter (·.category = .hardpoint))
        spaces.1 spaces'.1 ∧
      Extends ((records.map fun record => Part.module record.slot record).filter (·.category = .utility))
        spaces.2 spaces'.2 := by
  rw [List.map_eq_flatMap, List.filter_flatMap, List.filter_flatMap]
  exact ⟨extends_foldlM h Prod.fst _ fun _ _ _ hadd => (extends_addMounted hadd).1,
    extends_foldlM h Prod.snd _ fun _ _ _ hadd => (extends_addMounted hadd).2⟩

/-! ### What a document loads as -/

theorem filter_map_module {category c : Category} (records : List ModuleRecord) :
    (records.map (Part.module category)).filter (·.category = c) =
      if category = c then records.map (Part.module category) else [] := by
  rw [List.filter_map]
  split
  · next heq => simp [Function.comp_def, Part.category, heq]
  · next hne => simp [Function.comp_def, Part.category, hne]

theorem mem_armourParts {listed : String × List ArmourRecord} {part : Part} (h : part ∈ armourParts listed) :
    ∃ ship record, record ∈ listed.2 ∧ part = .armour ship record := by
  unfold armourParts at h
  split at h
  · next ship _ =>
    obtain ⟨record, hrecord, rfl⟩ := List.mem_map.1 h
    exact ⟨ship, record, hrecord, rfl⟩
  · cases h

theorem category_of_mem_armourParts {listed : String × List ArmourRecord} {part : Part}
    (h : part ∈ armourParts listed) : part.category = .standard := by
  obtain ⟨ship, record, -, rfl⟩ := mem_armourParts h
  rfl

theorem filter_flatMap_armourParts {c : Category} (bulkheads : List (String × List ArmourRecord)) :
    (bulkheads.flatMap armourParts).filter (·.category = c) =
      if c = .standard then bulkheads.flatMap armourParts else [] := by
  have hstandard : ∀ part ∈ bulkheads.flatMap armourParts, part.category = .standard := by
    intro part hpart
    obtain ⟨listed, -, hlisted⟩ := List.mem_flatMap.1 hpart
    exact category_of_mem_armourParts hlisted
  split
  · next heq => exact List.filter_eq_self.2 fun part hpart => by simp [hstandard part hpart, heq]
  · next hne => exact List.filter_eq_nil_iff.2 fun part hpart => by simp [hstandard part hpart, Ne.symm hne]

theorem slot_eq (record : ModuleRecord) : record.slot = .utility ∨ record.slot = .hardpoint := by
  unfold ModuleRecord.slot
  split
  · exact .inl rfl
  · exact .inr rfl

/-- No hardpoint record goes to another category. -/
theorem filter_map_slot {c : Category} (hc : c = .standard ∨ c = .internal) (records : List ModuleRecord) :
    (records.map fun record => Part.module record.slot record).filter (·.category = c) = [] := by
  refine List.filter_eq_nil_iff.2 fun part hpart => ?_
  obtain ⟨record, -, rfl⟩ := List.mem_map.1 hpart
  rcases hc with rfl | rfl <;> rcases slot_eq record with hslot | hslot <;> simp [Part.category, hslot]

theorem Extends.numbered {parts : List Part} {category : Category} {space : Space}
    (h : Extends parts (.empty category) space) : Numbered parts space.entries := by
  obtain ⟨added, hadded, hentries⟩ := h
  rw [hentries]
  exact hadded

/-- A document that loads is numbered in its own order, each category by itself. -/
theorem numbered_of_ofDocument {doc : Document} {catalog : Catalog} (h : ofDocument doc = .ok catalog) (c : Category) :
    Numbered (doc.parts.filter (·.category = c)) (catalog.space c).entries := by
  obtain ⟨modules, hmodules, h⟩ := bind_eq_ok h
  obtain ⟨standard, hstandard, h⟩ := bind_eq_ok h
  obtain ⟨internal, hinternal, h⟩ := bind_eq_ok h
  obtain ⟨⟨hardpoint, utility⟩, hmounted, h⟩ := bind_eq_ok h
  cases h
  simp only [Document.parts, List.filter_append, filter_map_module, filter_flatMap_armourParts]
  cases c with
  | standard =>
    have hgrown := ((extends_modules .standard hmodules).trans (extends_bulkheads hstandard)).numbered
    rw [filter_map_slot (.inl rfl)]
    simpa [space] using hgrown
  | internal =>
    have hgrown := (extends_modules .internal hinternal).numbered
    rw [filter_map_slot (.inr rfl)]
    simpa [space] using hgrown
  | hardpoint => simpa [space] using (extends_mounted hmounted).1.numbered
  | utility => simpa [space] using (extends_mounted hmounted).2.numbered

/-! ### What lookups find -/

theorem Part.entry_eq {part : Part} {entry : Entry} (h : part.entry = .ok entry) :
    ∃ key, entry = ⟨part.id, part.externalId?.filter (· ≠ ""), key⟩ := by
  cases part with
  | module category record =>
    obtain ⟨size, -, h⟩ := bind_eq_ok h
    obtain ⟨name, -, h⟩ := bind_eq_ok h
    cases h
    exact ⟨_, rfl⟩
  | armour ship record =>
    cases h
    exact ⟨_, rfl⟩

theorem Part.id_of_entry {part : Part} {entry : Entry} (h : part.entry = .ok entry) : entry.id = part.id := by
  obtain ⟨key, rfl⟩ := Part.entry_eq h
  rfl

theorem Part.external_of_entry {part : Part} {entry : Entry} (h : part.entry = .ok entry) :
    entry.external = part.externalId?.filter (· ≠ "") := by
  obtain ⟨key, rfl⟩ := Part.entry_eq h
  rfl

theorem exists_of_forall₂ {α β : Type} {R : α → β → Prop} {l : List α} {l' : List β} (h : List.Forall₂ R l l') {a : α}
    (ha : a ∈ l) : ∃ b ∈ l', R a b := by
  induction h with
  | nil => cases ha
  | cons hab _ ih =>
    rcases List.mem_cons.1 ha with rfl | ha
    · exact ⟨_, List.mem_cons_self, hab⟩
    · obtain ⟨b, hb, hab⟩ := ih ha
      exact ⟨b, List.mem_cons_of_mem _ hb, hab⟩

theorem findIdx?_congr {α : Type} {p q : α → Bool} {l : List α} (h : ∀ a ∈ l, p a = q a) :
    l.findIdx? p = l.findIdx? q := by
  induction l with
  | nil => rfl
  | cons a l ih =>
    rw [List.findIdx?_cons, List.findIdx?_cons, h a List.mem_cons_self,
      ih fun b hb => h b (List.mem_cons_of_mem a hb)]

theorem eq_of_nodup_filterMap {α β : Type} {f : α → Option β} {l : List α} (h : (l.filterMap f).Nodup) {a b : α}
    (ha : a ∈ l) (hb : b ∈ l) {x : β} (hax : f a = some x) (hbx : f b = some x) : a = b := by
  let R : α → α → Prop := fun a b => f a = some x → f b = some x → a = b
  have : Std.Symm R := ⟨fun a b hab hb ha => (hab ha hb).symm⟩
  have hpairwise : l.Pairwise R := by
    refine (List.pairwise_filterMap.1 h).imp ?_
    intro a b hne ha hb
    exact absurd rfl (hne x ha x hb)
  exact hpairwise.forall_of_forall (fun _ _ _ _ => rfl) ha hb hax hbx

/-- The number of a part among those of its category. -/
def number (catalog : Catalog) (part : Part) : Nat :=
  ((catalog.space part.category).indexOfId? part.id).getD 0

section Lookup

variable {doc : Document} {catalog : Catalog} (hload : ofDocument doc = .ok catalog) {part : Part}
  (hpart : part ∈ doc.parts)

include hload

theorem exists_entry (hpart : part ∈ doc.parts) :
    ∃ entry ∈ (catalog.space part.category).entries, part.entry = .ok entry :=
  exists_of_forall₂ (numbered_of_ofDocument hload part.category) (List.mem_filter.2 ⟨hpart, decide_eq_true rfl⟩)

theorem exists_part {c : Category} {entry : Entry} (h : entry ∈ (catalog.space c).entries) :
    ∃ part ∈ doc.parts, part.category = c ∧ part.entry = .ok entry := by
  obtain ⟨part, hpart, hentry⟩ := exists_of_forall₂ (numbered_of_ofDocument hload c).flip h
  obtain ⟨hmem, hcategory⟩ := List.mem_filter.1 hpart
  exact ⟨part, hmem, of_decide_eq_true hcategory, hentry⟩

include hpart

/-- A test that tells the entry of a part from the others of its category finds its number. -/
theorem findIdx?_eq_number {p : Entry → Bool}
    (hp : ∀ entry ∈ (catalog.space part.category).entries, p entry = true ↔ entry.id = part.id) :
    (catalog.space part.category).entries.findIdx? p = some (number catalog part) := by
  have hcongr : (catalog.space part.category).entries.findIdx? p =
      (catalog.space part.category).indexOfId? part.id := by
    rw [Space.indexOfId?_eq]
    exact findIdx?_congr fun entry hentry => Bool.eq_iff_iff.2 ((hp entry hentry).trans decide_eq_true_iff.symm)
  have hsome : ((catalog.space part.category).indexOfId? part.id).isSome = true := by
    obtain ⟨entry, hmem, hentry⟩ := exists_entry hload hpart
    rw [Space.indexOfId?_eq, List.findIdx?_isSome, List.any_eq_true]
    exact ⟨entry, hmem, decide_eq_true (Part.id_of_entry hentry)⟩
  obtain ⟨i, hi⟩ := Option.isSome_iff_exists.1 hsome
  rw [hcongr, number, hi]
  rfl

theorem indexOfId_eq_number : (catalog.space part.category).indexOfId part.id = .ok (number catalog part) := by
  have hfind := findIdx?_eq_number hload hpart (p := (·.id = part.id)) fun entry _ => decide_eq_true_iff
  rw [Space.indexOfId, Space.indexOfId?_eq, hfind]

/-- Where no two descriptions of a category have the same key, a description with the key of a part finds it. -/
theorem indexOfDescriptor_eq_number (hkeys : ((catalog.space part.category).entries.map Entry.key).Nodup)
    {entry : Entry} (hentry : part.entry = .ok entry) {d : Descriptor} (hd : d.key = entry.key) :
    (catalog.space part.category).indexOfDescriptor d = .ok (number catalog part) := by
  have hfind := findIdx?_eq_number hload hpart (p := (·.key = d.key)) fun entry' hmem' => by
    obtain ⟨found, hmem, hfound⟩ := exists_entry hload hpart
    rw [hentry, Except.ok.injEq] at hfound
    subst hfound
    rw [decide_eq_true_iff, hd, ← Part.id_of_entry hentry]
    constructor
    · intro hkey
      rw [List.inj_on_of_nodup_map hkeys hmem' hmem hkey]
    · intro hid
      rw [List.inj_on_of_nodup_map (catalog.space part.category).distinct hmem' hmem hid]
  rw [Space.indexOfDescriptor, Space.indexOfDescriptor?_eq, hfind]

/-- Where no two records of a document have the same external id, that of a part is found in its category. -/
theorem indexOfExternal?_eq_number (hexternal : (doc.parts.filterMap Part.externalId?).Nodup) {external : String}
    (hnamed : part.externalId? = some external) (hne : external ≠ "") (c : Category) :
    (catalog.space c).indexOfExternal? external = if part.category = c then some (number catalog part) else none := by
  have hmine {entry : Entry} (hmem : entry ∈ (catalog.space c).entries) (hfound : entry.external = some external) :
      part.category = c ∧ part.entry = .ok entry := by
    obtain ⟨part', hpart', hcategory, hentry⟩ := exists_part hload hmem
    rw [Part.external_of_entry hentry, Option.filter_eq_some_iff] at hfound
    have heq := eq_of_nodup_filterMap hexternal hpart' hpart hfound.1 hnamed
    exact ⟨heq ▸ hcategory, heq ▸ hentry⟩
  rw [Space.indexOfExternal?_eq]
  split
  · next hcategory =>
    subst hcategory
    refine findIdx?_eq_number hload hpart fun entry hmem => ?_
    rw [decide_eq_true_iff]
    constructor
    · intro hfound
      exact Part.id_of_entry (hmine hmem hfound).2
    · intro hid
      obtain ⟨entry', hmem', hentry'⟩ := exists_entry hload hpart
      have heq : entry = entry' := List.inj_on_of_nodup_map (catalog.space part.category).distinct hmem hmem'
        (hid.trans (Part.id_of_entry hentry').symm)
      rw [heq, Part.external_of_entry hentry', hnamed]
      simp [hne]
  · next hcategory =>
    rw [List.findIdx?_eq_none_iff]
    intro entry hmem
    rw [decide_eq_false_iff_not]
    exact fun hfound => hcategory (hmine hmem hfound).1

end Lookup

end StationFinder.Catalog
