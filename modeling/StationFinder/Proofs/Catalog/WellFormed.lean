import Mathlib.Data.List.Duplicate
import Mathlib.Data.Nat.Digits.Defs
import StationFinder.Proofs.Catalog.IdSets
import StationFinder.Proofs.Catalog.ShipNames

/-!
# Documents that load

A document is well-formed if each module record has a class and a name, armour is listed under ships only, and no id
occurs twice in one category (`Catalog.Document.IsWellFormed`). Whether it loads is decided on the way, by the first
step that fails, and a step fails over a record, over a ship or over an id that an earlier step has taken. Each of these
is a cause that the document gives for the fault (`Catalog.Document.Warrants`), and a well-formed document gives none.
So it loads, and no other document does: `Catalog.loads_iff_isWellFormed`.
-/

namespace StationFinder

/-! ### Numbers as texts -/

/-- The value of a decimal digit. -/
def digitValue (c : Char) : Nat := c.toNat - '0'.toNat

/-- The text writes a number in decimal digits, with a plus sign before them or without. -/
def DenotesWhole (text : String) (n : Nat) : Prop :=
  ∃ digits : List Char, digits ≠ [] ∧ (∀ c ∈ digits, c.isDigit = true) ∧
    (text.toList = digits ∨ text.toList = '+' :: digits) ∧ n = Nat.ofDigits 10 (digits.reverse.map digitValue)

theorem ofDigits_eq_ofDigits_reverse (digits : List Nat) : ofDigits digits = Nat.ofDigits 10 digits.reverse := by
  rw [Nat.ofDigits_eq_foldr, List.foldr_reverse, ofDigits]
  congr 1
  funext n d
  simp only [Nat.cast_id]
  omega

theorem mapM_digit?_eq_some_iff {cs : List Char} {digits : List Nat} :
    cs.mapM digit? = some digits ↔ (∀ c ∈ cs, c.isDigit = true) ∧ cs.map digitValue = digits := by
  induction cs generalizing digits with
  | nil => simp
  | cons c cs ih =>
    simp only [List.mapM_cons, Option.bind_eq_bind, Option.bind_eq_some_iff, ih, digit?]
    by_cases hc : c.isDigit = true <;> simp [hc, digitValue]

theorem wholeOfChars?_eq_some_iff {limit n : Nat} {cs : List Char} : wholeOfChars? limit cs = some n ↔
    cs ≠ [] ∧ (∀ c ∈ cs, c.isDigit = true) ∧ n = Nat.ofDigits 10 (cs.reverse.map digitValue) ∧ n ≤ limit := by
  have hvalue : Nat.ofDigits 10 (cs.reverse.map digitValue) = ofDigits (cs.map digitValue) := by
    rw [ofDigits_eq_ofDigits_reverse, List.map_reverse]
  simp only [wholeOfChars?, Option.bind_eq_bind, Option.bind_eq_some_iff, mapM_digit?_eq_some_iff, hvalue]
  constructor
  · rintro ⟨digits, ⟨hdigits, rfl⟩, hchecked⟩
    split at hchecked
    · next hchecks =>
      rw [Bool.and_eq_true, decide_eq_true_eq] at hchecks
      obtain rfl := Option.some.inj hchecked
      exact ⟨by simpa using hchecks.1, hdigits, rfl, hchecks.2⟩
    · cases hchecked
  · rintro ⟨hne, hdigits, rfl, hle⟩
    exact ⟨_, ⟨hdigits, rfl⟩, if_pos (by simpa [hne] using hle)⟩

theorem wholeOfText?_eq_some_iff {limit n : Nat} {text : String} :
    wholeOfText? limit text = some n ↔ DenotesWhole text n ∧ n ≤ limit := by
  have hplus : '+'.isDigit = false := rfl
  unfold wholeOfText?
  split
  · next rest htext =>
    rw [wholeOfChars?_eq_some_iff]
    constructor
    · rintro ⟨hne, hdigits, hvalue, hle⟩
      exact ⟨⟨rest, hne, hdigits, .inr htext, hvalue⟩, hle⟩
    · rintro ⟨⟨digits, hne, hdigits, hwhich, hvalue⟩, hle⟩
      rcases hwhich with hbare | hsigned
      · rw [htext] at hbare
        simp [← hbare, hplus] at hdigits
      · rw [htext, List.cons.injEq] at hsigned
        rw [hsigned.2]
        exact ⟨hne, hdigits, hvalue, hle⟩
  · next hunsigned =>
    rw [wholeOfChars?_eq_some_iff]
    constructor
    · rintro ⟨hne, hdigits, hvalue, hle⟩
      exact ⟨⟨text.toList, hne, hdigits, .inl rfl, hvalue⟩, hle⟩
    · rintro ⟨⟨digits, hne, hdigits, hwhich, hvalue⟩, hle⟩
      rcases hwhich with hbare | hsigned
      · rw [hbare]
        exact ⟨hne, hdigits, hvalue, hle⟩
      · exact absurd hsigned (hunsigned digits)

namespace Catalog

/-! ### Well-formed documents -/

/-- The class of a record reads as a number of thirty-two bits, blanks around it aside. -/
def ModuleRecord.HasClass (record : ModuleRecord) (size : Nat) : Prop :=
  DenotesWhole (Text.trim record.classText) size ∧ size ≤ max32

/-- The record has a name of its own, or the code of a group that there is. -/
def ModuleRecord.IsNamed (record : ModuleRecord) : Prop :=
  record.name ≠ none ∨ ∃ code, record.group = some code ∧ code ∈ groupNames.map Prod.fst

namespace Document

/-- The module records of all three lists. -/
def modules (doc : Document) : List ModuleRecord := doc.standard ++ doc.internal ++ doc.hardpoints

/-- The ids that the document lists under a category, whatever the ships are called that have armour. -/
def idsUnder (doc : Document) : Category → List String
  | .standard => doc.standard.map ModuleRecord.id ++ doc.bulkheads.flatMap fun listed => listed.2.map ArmourRecord.id
  | .internal => doc.internal.map ModuleRecord.id
  | .hardpoint => (doc.hardpoints.filter (·.slot = .hardpoint)).map ModuleRecord.id
  | .utility => (doc.hardpoints.filter (·.slot = .utility)).map ModuleRecord.id

/-- All that is asked of a document. -/
structure IsWellFormed (doc : Document) : Prop where
  classes : ∀ record ∈ doc.modules, ∃ size, record.HasClass size
  names : ∀ record ∈ doc.modules, record.IsNamed
  ships : ∀ listed ∈ doc.bulkheads, ∃ ship, Ship.parse listed.1 = .ok ship
  distinct : ∀ c, (doc.idsUnder c).Nodup

end Document

/-- What may be wrong with a record in itself. -/
inductive ModuleRecord.Warrants (record : ModuleRecord) : CatalogFault → Prop where
  | classNotNumeric (h : ¬ ∃ size, record.HasClass size) : Warrants record (.classNotNumeric record.id record.classText)
  | unknownGroup {code : String} (hname : record.name = none) (hgroup : record.group = some code)
      (h : code ∉ groupNames.map Prod.fst) : Warrants record (.unknownGroup record.id code)
  | nameless (hname : record.name = none) (hgroup : record.group = none) : Warrants record (.nameless record.id)

/-- What may be wrong with a document. -/
inductive Document.Warrants (doc : Document) : Fault → Prop where
  | record {record : ModuleRecord} {cause : CatalogFault} (hrecord : record ∈ doc.modules) (h : record.Warrants cause) :
      Warrants doc (.catalog cause)
  | ship {listed : String × List ArmourRecord} (hlisted : listed ∈ doc.bulkheads)
      (h : ∀ ship, Ship.parse listed.1 ≠ .ok ship) : Warrants doc (.unknownShip (Ship.normalize listed.1))
  | duplicate {c : Category} {id : String} (h : List.Duplicate id (doc.idsUnder c)) :
      Warrants doc (.catalog (.duplicateId c id))

/-- A well-formed document has nothing wrong with it. -/
theorem Document.IsWellFormed.not_warrants {doc : Document} (h : doc.IsWellFormed) (fault : Fault) :
    ¬ doc.Warrants fault := by
  intro hwrong
  cases hwrong with
  | record hrecord hcause =>
    cases hcause with
    | classNotNumeric hclass => exact hclass (h.classes _ hrecord)
    | unknownGroup hname hgroup hcode =>
      rcases h.names _ hrecord with hown | ⟨code, hknown, hmem⟩
      · exact hown hname
      · rw [hgroup, Option.some.injEq] at hknown
        exact hcode (hknown ▸ hmem)
    | nameless hname hgroup =>
      rcases h.names _ hrecord with hown | ⟨code, hknown, -⟩
      · exact hown hname
      · rw [hgroup] at hknown
        cases hknown
  | ship hlisted hship =>
    obtain ⟨ship, hparse⟩ := h.ships _ hlisted
    exact hship ship hparse
  | duplicate hduplicate => exact hduplicate.not_nodup (h.distinct _)

/-! ### Single records -/

theorem classOf_eq_ok_iff {record : ModuleRecord} {size : Nat} : classOf record = .ok size ↔ record.HasClass size := by
  rw [ModuleRecord.HasClass, ← wholeOfText?_eq_some_iff, classOf]
  split <;> simp [*]

theorem warrants_of_classOf {record : ModuleRecord} {fault : Fault} (h : classOf record = .error fault) :
    ∃ cause, fault = .catalog cause ∧ record.Warrants cause := by
  have hnone : ¬ ∃ size, record.HasClass size := by
    rintro ⟨size, hsize⟩
    rw [classOf_eq_ok_iff.2 hsize] at h
    cases h
  unfold classOf at h
  split at h
  · cases h
  · exact ⟨_, (Except.error.inj h).symm, .classNotNumeric hnone⟩

theorem groupName?_eq_none_iff {code : String} : groupName? code = none ↔ code ∉ groupNames.map Prod.fst := by
  rw [groupName?, List.lookup_eq_none_iff]
  simp only [List.mem_map, not_exists, not_and, bne_iff_ne, ne_eq]
  exact forall₂_congr fun _ _ => not_congr eq_comm

theorem isNamed_of_nameOf {record : ModuleRecord} {name : String} (h : nameOf record = .ok name) : record.IsNamed := by
  unfold nameOf at h
  split at h
  · next own hname => exact .inl (by simp [hname])
  · next code _ hgroup =>
    refine .inr ⟨code, hgroup, ?_⟩
    by_contra hcode
    simp [groupName?_eq_none_iff.2 hcode] at h
  · cases h

theorem warrants_of_nameOf {record : ModuleRecord} {fault : Fault} (h : nameOf record = .error fault) :
    ∃ cause, fault = .catalog cause ∧ record.Warrants cause := by
  unfold nameOf at h
  split at h
  · cases h
  · next code hname hgroup =>
    split at h
    · cases h
    · next hcode =>
      exact ⟨_, (Except.error.inj h).symm, .unknownGroup hname hgroup (groupName?_eq_none_iff.1 hcode)⟩
  · next hname hgroup => exact ⟨_, (Except.error.inj h).symm, .nameless hname hgroup⟩

theorem bind_eq_error {α β : Type} {x : Except Fault α} {f : α → Except Fault β} {fault : Fault}
    (h : x >>= f = .error fault) : x = .error fault ∨ ∃ a, x = .ok a ∧ f a = .error fault := by
  cases x with
  | error other => exact .inl (by cases h; rfl)
  | ok a => exact .inr ⟨a, rfl, h⟩

theorem warrants_of_moduleEntry {qualified : Bool} {record : ModuleRecord} {fault : Fault}
    (h : moduleEntry qualified record = .error fault) : ∃ cause, fault = .catalog cause ∧ record.Warrants cause := by
  rcases bind_eq_error h with hclass | ⟨size, -, h⟩
  · exact warrants_of_classOf hclass
  · rcases bind_eq_error h with hname | ⟨name, -, h⟩
    · exact warrants_of_nameOf hname
    · cases h

theorem id_of_moduleEntry {qualified : Bool} {record : ModuleRecord} {entry : Entry}
    (h : moduleEntry qualified record = .ok entry) : entry.id = record.id := by
  obtain ⟨size, -, h⟩ := bind_eq_ok h
  obtain ⟨name, -, h⟩ := bind_eq_ok h
  cases h
  rfl

/-! ### Steps that add to a space -/

/-- A step adds modules with known ids to a space. If it fails then for something that is wrong with what is added, or
because an id is there already. -/
structure Adds {α : Type} (step : Space → α → Except Fault Space) (ids : α → List String) (Wrong : α → Fault → Prop) :
    Prop where
  ok {space after : Space} {a : α} : step space a = .ok after →
    after.category = space.category ∧ after.ids = space.ids ++ ids a
  error {space : Space} {a : α} {fault : Fault} : step space a = .error fault →
    Wrong a fault ∨ ∃ id, fault = .catalog (.duplicateId space.category id) ∧ List.Duplicate id (space.ids ++ ids a)

/-- What holds of each step holds of a run, with the ids of all steps, and with anything that is wrong with one of
them. -/
theorem Adds.foldlM {α : Type} {step : Space → α → Except Fault Space} {ids : α → List String}
    {Wrong : α → Fault → Prop} (h : Adds step ids Wrong) :
    Adds (fun space (l : List α) => l.foldlM step space) (·.flatMap ids) fun l fault => ∃ a ∈ l, Wrong a fault where
  ok {space after l} hrun := by
    induction l generalizing space with
    | nil =>
      cases hrun
      simp
    | cons a l ih =>
      rw [List.foldlM_cons] at hrun
      obtain ⟨next, hstep, hrest⟩ := bind_eq_ok hrun
      obtain ⟨hcategory, hids⟩ := h.ok hstep
      obtain ⟨hcategory', hids'⟩ := ih hrest
      exact ⟨hcategory'.trans hcategory, by rw [hids', hids, List.flatMap_cons, List.append_assoc]⟩
  error {space l fault} hrun := by
    induction l generalizing space with
    | nil => cases hrun
    | cons a l ih =>
      rw [List.foldlM_cons] at hrun
      rw [List.flatMap_cons, ← List.append_assoc]
      rcases bind_eq_error hrun with hstep | ⟨next, hstep, hrest⟩
      · rcases h.error hstep with hwrong | ⟨id, hfault, hduplicate⟩
        · exact .inl ⟨a, List.mem_cons_self, hwrong⟩
        · exact .inr ⟨id, hfault, hduplicate.mono_sublist (List.sublist_append_left ..)⟩
      · obtain ⟨hcategory, hids⟩ := h.ok hstep
        rcases ih hrest with ⟨b, hb, hwrong⟩ | ⟨id, hfault, hduplicate⟩
        · exact .inl ⟨b, List.mem_cons_of_mem a hb, hwrong⟩
        · exact .inr ⟨id, hcategory ▸ hfault, hids ▸ hduplicate⟩

theorem adds_push : Adds Space.push (fun entry => [entry.id]) fun _ _ => False where
  ok {space after entry} h := by
    unfold Space.push at h
    split at h
    · cases h
    · cases h
      simp [Space.ids]
  error {space entry fault} h := by
    unfold Space.push at h
    split at h
    · next hmem =>
      refine .inr ⟨entry.id, (Except.error.inj h).symm, List.duplicate_iff_sublist.2 ?_⟩
      exact (List.singleton_sublist.2 (space.contains_byId_iff.1 hmem)).append (List.Sublist.refl [entry.id])
    · cases h

theorem adds_addModule (qualified : Bool) : Adds (addModule qualified) (fun record => [record.id])
    fun record fault => ∃ cause, fault = .catalog cause ∧ record.Warrants cause where
  ok {space after record} h := by
    obtain ⟨entry, hentry, hpush⟩ := bind_eq_ok h
    rw [← id_of_moduleEntry hentry]
    exact adds_push.ok hpush
  error {space record fault} h := by
    rcases bind_eq_error h with hentry | ⟨entry, hentry, hpush⟩
    · exact .inl (warrants_of_moduleEntry hentry)
    · rw [← id_of_moduleEntry hentry]
      exact .inr ((adds_push.error hpush).resolve_left id)

theorem adds_addArmour : Adds addArmour (fun listed => listed.2.map ArmourRecord.id)
    fun listed fault => Ship.parse listed.1 = .error fault := by
  have hpush (ship : Ship) : Adds (fun space (record : ArmourRecord) =>
      space.push ⟨record.id, none, (record.descriptor ship).key⟩) (fun record => [record.id]) fun _ _ => False :=
    ⟨fun h => adds_push.ok h, fun h => adds_push.error h⟩
  constructor
  · intro space after listed h
    obtain ⟨ship, -, hrun⟩ := bind_eq_ok h
    rw [List.map_eq_flatMap]
    exact (hpush ship).foldlM.ok hrun
  · intro space listed fault h
    rcases bind_eq_error h with hship | ⟨ship, -, hrun⟩
    · exact .inl hship
    · rw [List.map_eq_flatMap]
      exact .inr (((hpush ship).foldlM.error hrun).resolve_left fun ⟨_, _, hfalse⟩ => hfalse)

/-! ### Hardpoint records -/

theorem slot_eq_utility_iff {record : ModuleRecord} : record.slot = .utility ↔ record.HasClass 0 := by
  rw [← classOf_eq_ok_iff, ModuleRecord.slot]
  split
  · next hzero => simp [hzero]
  · next hother => exact iff_of_false (by simp) hother

theorem addMounted_of_utility {record : ModuleRecord} (h : record.slot = .utility) (spaces : Space × Space) :
    addMounted spaces record = (addModule false spaces.2 record).map fun space => (spaces.1, space) := by
  rw [addMounted, classOf_eq_ok_iff.2 (slot_eq_utility_iff.1 h)]
  cases addModule false spaces.2 record <;> rfl

/-- A record whose class does not read as a number counts as a hardpoint record, and is refused as one. -/
theorem addMounted_of_hardpoint {record : ModuleRecord} (h : record.slot = .hardpoint) (spaces : Space × Space) :
    addMounted spaces record = (addModule true spaces.1 record).map fun space => (space, spaces.2) := by
  rw [addMounted]
  cases hclass : classOf record with
  | error fault =>
    have hadd : addModule true spaces.1 record = .error fault := by
      rw [addModule, moduleEntry, hclass]
      rfl
    rw [hadd]
    rfl
  | ok size =>
    have hpos : size ≠ 0 := by
      rintro rfl
      rw [slot_eq_utility_iff.2 (classOf_eq_ok_iff.1 hclass)] at h
      cases h
    change (if size = 0 then _ else _) = _
    rw [if_neg hpos]
    cases addModule true spaces.1 record <;> rfl

/-- The hardpoint records make up two runs side by side, one for each of the two spaces. If the records are refused,
then by one of these runs. -/
theorem refused_of_mounted {spaces : Space × Space} {records : List ModuleRecord} {fault : Fault}
    (h : records.foldlM addMounted spaces = .error fault) :
    (records.filter (·.slot = .hardpoint)).foldlM (addModule true) spaces.1 = .error fault ∨
      (records.filter (·.slot = .utility)).foldlM (addModule false) spaces.2 = .error fault := by
  induction records generalizing spaces with
  | nil => cases h
  | cons record records ih =>
    rw [List.foldlM_cons] at h
    rcases slot_eq record with hslot | hslot
    · rw [List.filter_cons_of_neg (by simp [hslot]), List.filter_cons_of_pos (by simp [hslot]), List.foldlM_cons]
      rw [addMounted_of_utility hslot] at h
      cases hadd : addModule false spaces.2 record with
      | error other =>
        rw [hadd] at h
        cases h
        exact .inr rfl
      | ok space =>
        rw [hadd] at h
        exact @ih (spaces.1, space) h
    · rw [List.filter_cons_of_pos (by simp [hslot]), List.filter_cons_of_neg (by simp [hslot]), List.foldlM_cons]
      rw [addMounted_of_hardpoint hslot] at h
      cases hadd : addModule true spaces.1 record with
      | error other =>
        rw [hadd] at h
        cases h
        exact .inl rfl
      | ok space =>
        rw [hadd] at h
        exact @ih (space, spaces.2) h

/-! ### Whole documents -/

section

variable {doc : Document}

/-- Where a run of module records is refused, one of them is, or an id is there twice. -/
theorem warrants_of_modules {qualified : Bool} {space : Space} {records : List ModuleRecord} {fault : Fault}
    (h : records.foldlM (addModule qualified) space = .error fault)
    (hrecords : ∀ record ∈ records, record ∈ doc.modules)
    (hids : (space.ids ++ records.map ModuleRecord.id).Sublist (doc.idsUnder space.category)) : doc.Warrants fault := by
  rcases (adds_addModule qualified).foldlM.error h with ⟨record, hrecord, cause, rfl, hcause⟩ | ⟨id, rfl, hduplicate⟩
  · exact .record (hrecords record hrecord) hcause
  · rw [← List.map_eq_flatMap] at hduplicate
    exact .duplicate (hduplicate.mono_sublist hids)

/-- A document is refused for something that is wrong with it. -/
theorem warrants_of_ofDocument {fault : Fault} (h : ofDocument doc = .error fault) : doc.Warrants fault := by
  rcases bind_eq_error h with hmodules | ⟨modules, hmodules, h⟩
  · exact warrants_of_modules hmodules (fun record hrecord => by simp [Document.modules, hrecord])
      (List.sublist_append_left ..)
  rcases bind_eq_error h with harmour | ⟨standard, -, h⟩
  · obtain ⟨hcategory, hids⟩ := (adds_addModule false).foldlM.ok hmodules
    rcases adds_addArmour.foldlM.error harmour with ⟨listed, hlisted, hship⟩ | ⟨id, rfl, hduplicate⟩
    · obtain ⟨rfl, hnone⟩ := Ship.parse_eq_error_iff.1 hship
      exact .ship hlisted hnone
    · rw [hids, ← List.map_eq_flatMap] at hduplicate
      rw [hcategory]
      exact .duplicate (c := .standard) hduplicate
  rcases bind_eq_error h with hinternal | ⟨internal, -, h⟩
  · exact warrants_of_modules hinternal (fun record hrecord => by simp [Document.modules, hrecord]) (.refl _)
  rcases bind_eq_error h with hmounted | ⟨mounted, -, h⟩
  · have hmem : ∀ record ∈ doc.hardpoints, record ∈ doc.modules := fun record hrecord => by
      simp [Document.modules, hrecord]
    rcases refused_of_mounted hmounted with hrun | hrun
    · exact warrants_of_modules hrun (fun record hrecord => hmem record (List.mem_of_mem_filter hrecord)) (.refl _)
    · exact warrants_of_modules hrun (fun record hrecord => hmem record (List.mem_of_mem_filter hrecord)) (.refl _)
  · cases h

variable {catalog : Catalog} (hload : ofDocument doc = .ok catalog)

include hload

/-- Where the document loads, each module record has been numbered. -/
theorem hasClass_and_isNamed_of_mem_modules {record : ModuleRecord} (h : record ∈ doc.modules) :
    (∃ size, record.HasClass size) ∧ record.IsNamed := by
  have hpart : ∃ c, Part.module c record ∈ doc.parts := by
    simp only [Document.modules, List.mem_append] at h
    rcases h with (hmem | hmem) | hmem
    · exact ⟨.standard, by simp [Document.parts, hmem]⟩
    · exact ⟨.internal, by simp [Document.parts, hmem]⟩
    · exact ⟨record.slot, by simp [Document.parts, hmem]⟩
  obtain ⟨c, hpart⟩ := hpart
  obtain ⟨entry, -, hentry⟩ := exists_entry hload hpart
  obtain ⟨size, hclass, hentry⟩ := bind_eq_ok hentry
  obtain ⟨name, hname, -⟩ := bind_eq_ok hentry
  exact ⟨⟨size, classOf_eq_ok_iff.1 hclass⟩, isNamed_of_nameOf hname⟩

/-- Where the document loads, the ids listed under a category are those of its records. -/
theorem idsUnder_eq (c : Category) : doc.idsUnder c = (doc.records c).map Part.id := by
  cases c with
  | standard =>
    have harmour : ∀ listed ∈ doc.bulkheads, listed.2.map ArmourRecord.id = (armourParts listed).map Part.id := by
      intro listed hlisted
      obtain ⟨ship, -, hparts⟩ := exists_ship_of_mem_bulkheads hload hlisted
      rw [hparts, List.map_map]
      rfl
    rw [Document.idsUnder, Document.records, List.map_append, List.map_map, List.map_flatMap,
      List.flatMap_congr harmour]
    rfl
  | internal => simp [Document.idsUnder, Document.records, Part.id, Function.comp_def]
  | hardpoint => simp [Document.idsUnder, Document.records, Part.id, Function.comp_def]
  | utility => simp [Document.idsUnder, Document.records, Part.id, Function.comp_def]

theorem isWellFormed_of_ofDocument : doc.IsWellFormed where
  classes record hrecord := (hasClass_and_isNamed_of_mem_modules hload hrecord).1
  names record hrecord := (hasClass_and_isNamed_of_mem_modules hload hrecord).2
  ships listed hlisted := by
    obtain ⟨ship, hship, -⟩ := exists_ship_of_mem_bulkheads hload hlisted
    exact ⟨ship, hship⟩
  distinct c := by
    rw [idsUnder_eq hload, ← map_id_entries hload]
    exact (catalog.space c).distinct

end

/-- **A document loads exactly if it is well-formed.** Every module record has a class that reads as a number of
thirty-two bits, and a name or a known group; armour is listed under ships, even where the list is empty; and no id is
listed twice under one category, where of the hardpoint records those of class zero count as utility modules. Any other
document is refused for something that is wrong with it: for a ship only if armour is listed under what is no ship. -/
theorem loads_iff_isWellFormed (doc : Document) :
    ((∃ catalog, ofDocument doc = .ok catalog) ↔ doc.IsWellFormed) ∧
    (∀ record : ModuleRecord, (record.slot = .utility ↔ record.HasClass 0) ∧
      (record.slot = .hardpoint ↔ ¬ record.HasClass 0)) ∧
    ∀ fault, ofDocument doc = .error fault → doc.Warrants fault ∧
      ((∃ cause, fault = .catalog cause) ∨
        ∃ listed ∈ doc.bulkheads, (∀ ship, Ship.parse listed.1 ≠ .ok ship) ∧
          fault = .unknownShip (Ship.normalize listed.1)) := by
  refine ⟨⟨fun ⟨catalog, hload⟩ => isWellFormed_of_ofDocument hload, fun hdoc => ?_⟩, fun record => ?_,
    fun fault h => ?_⟩
  · cases hload : ofDocument doc with
    | ok catalog => exact ⟨catalog, rfl⟩
    | error fault => exact absurd (warrants_of_ofDocument hload) (hdoc.not_warrants fault)
  · refine ⟨slot_eq_utility_iff, ?_⟩
    rw [← slot_eq_utility_iff]
    rcases slot_eq record with hslot | hslot <;> simp [hslot]
  · have hwrong := warrants_of_ofDocument h
    refine ⟨hwrong, ?_⟩
    cases hwrong with
    | record hrecord hcause => exact .inl ⟨_, rfl⟩
    | ship hlisted hship => exact .inr ⟨_, hlisted, hship, rfl⟩
    | duplicate hduplicate => exact .inl ⟨_, rfl⟩

/-- One id is used three times, in three categories, which is fine; but the armour of one ship is listed under two names
of it, and has the same id there. -/
def reusedIds : Document where
  standard := [⟨"x", none, none, some "pp", "2", "E", none, none⟩]
  internal := []
  hardpoints := [⟨"x", none, some "Laser", some "none", " 1", "E", none, none⟩,
    ⟨"x", none, none, some "cm", "+00", "I", none, none⟩]
  bulkheads := [("Asp Explorer", [⟨"as0", "Alloy", "none", "I"⟩]), ("asp", [⟨"as0", "Alloy", "1", "I"⟩])]

/-- There is no armour, but it is listed under what is no ship. -/
def shiplessArmour : Document := ⟨[], [], [], [("Falcon", [])]⟩

theorem reusedIds_are_refused : (∃ catalog, ofDocument twiceListed = .ok catalog) ∧ twiceListed.IsWellFormed ∧
    ofDocument reusedIds = .error (.catalog (.duplicateId .standard "as0")) ∧ ¬ reusedIds.IsWellFormed ∧
    reusedIds.Warrants (.catalog (.duplicateId .standard "as0")) ∧
    ofDocument shiplessArmour = .error (.unknownShip "Falcon") ∧ ¬ shiplessArmour.IsWellFormed := by
  have hfault (doc : Document) (fault : Fault)
      (h : (match ofDocument doc with | .ok _ => none | .error fault => some fault) = some fault) :
      ofDocument doc = .error fault ∧ ¬ ∃ catalog, ofDocument doc = .ok catalog := by
    cases hload : ofDocument doc with
    | ok catalog => simp [hload] at h
    | error other => simpa [hload] using h
  obtain ⟨hreused, hreusedFails⟩ := hfault reusedIds (.catalog (.duplicateId .standard "as0")) (by decide +kernel)
  obtain ⟨hshipless, hshiplessFails⟩ := hfault shiplessArmour (.unknownShip "Falcon") (by decide +kernel)
  have htwice : ∃ catalog, ofDocument twiceListed = .ok catalog := by
    have hloads : (ofDocument twiceListed).isOk = true := by decide +kernel
    cases hload : ofDocument twiceListed with
    | ok catalog => exact ⟨catalog, rfl⟩
    | error fault =>
      rw [hload] at hloads
      cases hloads
  obtain ⟨hiff, -, hwarrants⟩ := loads_iff_isWellFormed reusedIds
  exact ⟨htwice, (loads_iff_isWellFormed twiceListed).1.1 htwice, hreused, mt hiff.2 hreusedFails,
    (hwarrants _ hreused).1, hshipless, mt (loads_iff_isWellFormed shiplessArmour).1.2 hshiplessFails⟩

end Catalog

end StationFinder
