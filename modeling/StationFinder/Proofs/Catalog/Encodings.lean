import StationFinder.Proofs.Catalog.Numbering
import StationFinder.Proofs.Text.Spelling
import StationFinder.Relay.Announcement
import StationFinder.Snapshot.Record

/-!
# The encodings of an inventory

The same modules are listed in three ways: by id in queries, by description in messages of the relay, by external id
in snapshots. All three mean the same sets (`Catalog.encodings_agree`), where neither descriptions nor external ids
are ambiguous.
-/

namespace StationFinder

/-- A ship is called by its display name or by one of its other spellings. -/
def Ship.IsCalled (s : Ship) (text : String) : Prop := text ∈ s.name :: s.aliases

theorem Ship.find?_goesBy (s : Ship) :
    ∀ text ∈ s.name :: s.aliases, all.find? (·.goesBy (normalize text)) = some s := by
  cases s <;> decide +kernel

theorem Ship.parse_of_isCalled {s : Ship} {text : String} (h : s.IsCalled text) : parse text = .ok s := by
  rw [parse, s.find?_goesBy text h]

namespace Catalog

namespace Part

def name : Part → Except Fault String
  | module _ record => nameOf record
  | armour _ record => .ok record.name

def classText : Part → String
  | module _ record => record.classText
  | armour _ record => record.classText

def rating : Part → String
  | module _ record => record.rating
  | armour _ record => record.rating

end Part

/-- A text tells a qualifier if it starts with its first letter, in either case. A qualifier without one is told by
no text at all. -/
def Tells (text qualifier : Option String) : Prop :=
  match qualifier.bind fun q => q.toList.find? fun c => !Text.isBlank c with
  | some letter => ∃ t before d after, text = some t ∧ t.toList = before ++ d :: after ∧
      (∀ c ∈ before, Text.isBlank c = true) ∧ d.toLower = letter.toLower
  | none => text = none

/-- A message describes a record: under its category, by its name and rating in any ASCII case and its class text, with
blanks around them; armour by the ship, weapons by the first letters of mount and guidance. -/
structure Describes (m : ListedModule) (part : Part) : Prop where
  category : m.category? = some part.category
  name : ∃ name, part.name = .ok name ∧ Text.Spells name m.name
  classText : Text.Pads part.classText m.classText
  rating : Text.Spells part.rating m.rating
  shipless : ∀ record, part = .module .standard record → m.ship = none
  ship : ∀ ship record, part = .armour ship record → ∃ text, m.ship = some text ∧ ship.IsCalled text
  mount : ∀ record, part = .module .hardpoint record → Tells m.mount record.mode
  guidance : ∀ record, part = .module .hardpoint record → Tells m.guidance record.missile

/-! ### Descriptions and keys -/

theorem initial_eq (qualifier : Option String) : Descriptor.initial qualifier =
    ((qualifier.bind fun q => q.toList.find? fun c => !Text.isBlank c).map
      fun c => String.ofList [c.toUpper]).getD "" := by
  cases qualifier with
  | none => rfl
  | some q =>
    rw [Option.bind_some, ← Text.head?_trimChars, Descriptor.initial, Option.map_some]
    cases Text.trimChars q.toList <;> rfl

theorem Tells.initial_eq {text qualifier : Option String} (h : Tells text qualifier) :
    Descriptor.initial text = Descriptor.initial qualifier := by
  unfold Tells at h
  split at h
  · next letter hletter =>
    obtain ⟨t, before, d, after, rfl, ht, hbefore, hd⟩ := h
    have hblank : Text.isBlank d = false := by
      have hfound := List.find?_some (Option.bind_eq_some_iff.1 hletter).choose_spec.2
      rw [← Text.isBlank_toLower, hd, Text.isBlank_toLower]
      simpa using hfound
    have hfirst : t.toList.find? (fun c => !Text.isBlank c) = some d := by
      rw [ht, List.find?_append, List.find?_eq_none.2 fun c hc => by simp [hbefore c hc]]
      simp [hblank]
    rw [Catalog.initial_eq, Catalog.initial_eq, hletter, Option.bind_some, hfirst]
    simp only [Option.map_some]
    rw [← Text.toUpper_toLower, hd, Text.toUpper_toLower]
  · next hnone =>
    rw [h, Catalog.initial_eq, Catalog.initial_eq, hnone]
    rfl

theorem key_eq_key {d e : Descriptor} (hship : d.ship = e.ship) (hname : Text.Spells e.name d.name)
    (hclass : Text.Pads e.classText d.classText) (hrating : Text.Spells e.rating d.rating)
    (hmount : Descriptor.initial d.mount = Descriptor.initial e.mount)
    (hguidance : Descriptor.initial d.guidance = Descriptor.initial e.guidance) : d.key = e.key := by
  have hparts : d.parts = e.parts := by
    rw [Descriptor.parts, Descriptor.parts, hship, hname.lower_trim_eq, hclass.trim_eq, hrating.asciiUpper_trim_eq,
      hmount, hguidance]
  rw [Descriptor.key, Descriptor.key, hparts]

/-- A message that describes a record gives the description that the record was numbered with, up to its key. -/
theorem Describes.exists_descriptor {m : ListedModule} {part : Part} (h : Describes m part) {entry : Entry}
    (hentry : part.entry = .ok entry) : ∃ d, m.descriptor part.category = .ok d ∧ d.key = entry.key := by
  obtain ⟨name, hname, hspells⟩ := h.name
  cases part with
  | module category record =>
    obtain ⟨size, -, hentry⟩ := bind_eq_ok hentry
    obtain ⟨name', hname', hentry⟩ := bind_eq_ok hentry
    rw [show nameOf record = .ok name from hname, Except.ok.injEq] at hname'
    subst hname'
    cases hentry
    have hdescriptor : m.descriptor category = .ok
        { ship := none, name := m.name, classText := m.classText, rating := m.rating
          mount := if category = .hardpoint then m.mount else none
          guidance := if category = .hardpoint then m.guidance else none } := by
      cases category with
      | standard =>
        unfold ListedModule.descriptor
        rw [h.shipless record rfl]
        rfl
      | internal => rfl
      | hardpoint => rfl
      | utility => rfl
    refine ⟨_, hdescriptor, key_eq_key rfl hspells h.classText h.rating ?_ ?_⟩
    · by_cases hhardpoint : category = .hardpoint
      · subst hhardpoint
        exact (h.mount record rfl).initial_eq
      · simp [ModuleRecord.descriptor, hhardpoint]
    · by_cases hhardpoint : category = .hardpoint
      · subst hhardpoint
        exact (h.guidance record rfl).initial_eq
      · simp [ModuleRecord.descriptor, hhardpoint]
  | armour ship record =>
    cases hname
    cases hentry
    obtain ⟨text, htext, hcalled⟩ := h.ship ship record rfl
    refine ⟨_, ?_, key_eq_key (d := ⟨some ship, m.name, m.classText, m.rating, none, none⟩) rfl hspells h.classText
      h.rating rfl rfl⟩
    unfold ListedModule.descriptor
    rw [htext]
    change (some <$> Ship.parse text) >>= _ = _
    rw [Ship.parse_of_isCalled hcalled]
    rfl

/-- The parts of a list that belong to a category. -/
def partsUnder (listed : List Part) (c : Category) : List Part := listed.filter (·.category = c)

theorem partsUnder_cons (part : Part) (listed : List Part) (c : Category) : partsUnder (part :: listed) c =
    if part.category = c then part :: partsUnder listed c else partsUnder listed c := by
  simp [partsUnder, List.filter_cons]

/-- A document loads as a catalog in which neither keys of descriptions nor external ids fit several records. -/
structure IsUnambiguous (doc : Document) (catalog : Catalog) : Prop where
  loads : ofDocument doc = .ok catalog
  /-- Within each category the keys are distinct. -/
  keys : ∀ c, ((catalog.space c).entries.map Entry.key).Nodup
  /-- In the whole document the external ids are distinct. -/
  externals : (doc.parts.filterMap Part.externalId?).Nodup
  named : ∀ part ∈ doc.parts, part.externalId? ≠ some ""

namespace IsUnambiguous

variable {doc : Document} {catalog : Catalog} (h : IsUnambiguous doc catalog)

include h

/-- A message that describes a record resolves to its number. -/
theorem resolve_eq {m : ListedModule} {part : Part} (hpart : part ∈ doc.parts) (hm : Describes m part) :
    m.resolve catalog part.category = .ok (catalog.number part) := by
  obtain ⟨entry, -, hentry⟩ := exists_entry h.loads hpart
  obtain ⟨d, hd, hkey⟩ := hm.exists_descriptor hentry
  rw [ListedModule.resolve, hd]
  exact indexOfDescriptor_eq_number h.loads hpart (h.keys part.category) hentry hkey

/-- The external id of a record is looked up to its number, in its category only. -/
theorem indexOfExternal?_eq {part : Part} (hpart : part ∈ doc.parts) {external : String}
    (hexternal : part.externalId? = some external) (c : Category) :
    (catalog.space c).indexOfExternal? external = if part.category = c then some (catalog.number part) else none :=
  indexOfExternal?_eq_number h.loads hpart h.externals hexternal (fun hempty => h.named part hpart (hempty ▸ hexternal))
    c

variable {listed : List Part} (hlisted : ∀ part ∈ listed, part ∈ doc.parts)

include hlisted

/-- Canonical ids mean the set of the numbers of their records. -/
theorem setOfIds_eq (c : Category) : (catalog.space c).setOfIds ((partsUnder listed c).map Part.id) =
    .ok (if partsUnder listed c = [] then none
      else some (.ofList (catalog.space c).count ((partsUnder listed c).map catalog.number))) := by
  have hmapM : ((partsUnder listed c).map Part.id).mapM (catalog.space c).indexOfId =
      .ok ((partsUnder listed c).map catalog.number) := by
    have hindex : ∀ part ∈ partsUnder listed c, (catalog.space c).indexOfId part.id = .ok (catalog.number part) := by
      intro part hpart
      obtain ⟨hmem, hcategory⟩ := List.mem_filter.1 hpart
      rw [← of_decide_eq_true hcategory]
      exact indexOfId_eq_number h.loads (hlisted part hmem)
    generalize partsUnder listed c = parts at hindex
    induction parts with
    | nil => rfl
    | cons part parts ih =>
      rw [List.map_cons, List.mapM_cons, hindex part List.mem_cons_self,
        ih fun p hp => hindex p (List.mem_cons_of_mem part hp)]
      rfl
  rw [Space.setOfIds, hmapM]
  cases partsUnder listed c <;> rfl

/-- Messages that describe records resolve, category by category, to their numbers. -/
theorem map_resolve_modulesUnder {messages : List ListedModule} (hmessages : List.Forall₂ Describes messages listed)
    (c : Category) : (Announcement.modulesUnder messages c).map (fun m => m.resolve catalog c) =
      (partsUnder listed c).map fun part => .ok (catalog.number part) := by
  induction hmessages with
  | nil => rfl
  | @cons m part messages listed hm _ ih =>
    have ih := ih fun p hp => hlisted p (List.mem_cons_of_mem part hp)
    rw [Announcement.modulesUnder, List.filter_cons, hm.category, partsUnder_cons]
    by_cases hcategory : part.category = c
    · subst hcategory
      rw [if_pos (decide_eq_true rfl), if_pos rfl, List.map_cons, List.map_cons,
        h.resolve_eq (hlisted part List.mem_cons_self) hm]
      exact congrArg _ ih
    · rw [if_neg (by simp [hcategory]), if_neg hcategory]
      exact ih

/-- A message that lists records means the sets that their canonical ids mean. -/
theorem setOfIds_eq_stockOf {messages : List ListedModule} (hmessages : List.Forall₂ Describes messages listed)
    (c : Category) : (catalog.space c).setOfIds ((partsUnder listed c).map Part.id) =
      .ok ((Announcement.stockOf catalog messages).get c) := by
  have hresolve := h.map_resolve_modulesUnder hlisted hmessages c
  have hfound : (Announcement.modulesUnder messages c).filterMap (fun m => (m.resolve catalog c).toOption) =
      (partsUnder listed c).map catalog.number := by
    have htoOption := congrArg (List.filterMap Except.toOption) hresolve
    rw [List.filterMap_map, List.filterMap_map] at htoOption
    rw [← List.filterMap_eq_map]
    exact htoOption
  have hempty : (Announcement.modulesUnder messages c).isEmpty = true ↔ partsUnder listed c = [] := by
    have hlength := congrArg List.length hresolve
    rw [List.length_map, List.length_map] at hlength
    rw [List.isEmpty_iff, ← List.length_eq_zero_iff, ← List.length_eq_zero_iff, hlength]
  rw [h.setOfIds_eq hlisted, Announcement.stockOf, Inventory.get_ofFun]
  simp only [hempty, hfound]

/-- Every module and every category of a message that lists records is known. -/
theorem ofModules_eq {messages : List ListedModule} (hmessages : List.Forall₂ Describes messages listed)
    (system station : String) : Announcement.ofModules catalog system station messages =
      .modules system station (Announcement.stockOf catalog messages) [] [] := by
  have hknown : ∀ m ∈ messages, m.category?.isNone = false ∧ Announcement.whyUnknown? catalog m = none := by
    induction hmessages with
    | nil => simp
    | @cons m part messages listed hm _ ih =>
      intro m' hm'
      rcases List.mem_cons.1 hm' with rfl | hm'
      · refine ⟨by rw [hm.category]; rfl, ?_⟩
        unfold Announcement.whyUnknown?
        rw [hm.category, Option.bind_eq_bind, Option.bind_some,
          h.resolve_eq (hlisted part List.mem_cons_self) hm]
      · exact ih (fun p hp => hlisted p (List.mem_cons_of_mem part hp)) m' hm'
  have hmodules : messages.filterMap (Announcement.whyUnknown? catalog) = [] :=
    List.filterMap_eq_nil_iff.2 fun m hm => (hknown m hm).2
  have hcategories : messages.filter (·.category?.isNone) = [] :=
    List.filter_eq_nil_iff.2 fun m hm => Bool.eq_false_iff.1 (hknown m hm).1
  rw [Announcement.ofModules, hmodules, hcategories]
  rfl

/-- External ids are looked up to the numbers of their records, in their categories. -/
theorem filterMap_indexOfExternal? {externals : List String}
    (hexternals : listed.map Part.externalId? = externals.map some) (c : Category) :
    externals.filterMap (catalog.space c).indexOfExternal? = (partsUnder listed c).map catalog.number := by
  induction listed generalizing externals with
  | nil =>
    rw [List.map_nil, eq_comm, List.map_eq_nil_iff] at hexternals
    subst hexternals
    rfl
  | cons part listed ih =>
    obtain ⟨external, externals, rfl, hpart, hrest⟩ := List.map_eq_cons_iff.1 hexternals.symm
    have ih := ih (fun p hp => hlisted p (List.mem_cons_of_mem part hp)) hrest.symm
    rw [List.filterMap_cons, h.indexOfExternal?_eq (hlisted part List.mem_cons_self) hpart.symm c, ih,
      partsUnder_cons]
    by_cases hcategory : part.category = c
    · rw [if_pos hcategory, if_pos hcategory, List.map_cons]
    · rw [if_neg hcategory, if_neg hcategory]

/-- A snapshot that lists records by external id means the sets that their canonical ids mean, or the empty set. -/
theorem get_stockOf {externals : List String} (hexternals : listed.map Part.externalId? = externals.map some)
    (c : Category) : ∃ set, (StationRecord.stockOf catalog externals).get c = some set ∧
      (partsUnder listed c = [] → set = (catalog.space c).emptySet) ∧
      (partsUnder listed c ≠ [] →
        (catalog.space c).setOfIds ((partsUnder listed c).map Part.id) = .ok (some set)) := by
  refine ⟨_, Inventory.get_ofFun _ c, fun hnone => ?_, fun hsome => ?_⟩
  · rw [Space.setOfExternals, h.filterMap_indexOfExternal? hlisted hexternals, hnone]
    rfl
  · rw [h.setOfIds_eq hlisted, if_neg hsome, Space.setOfExternals,
      h.filterMap_indexOfExternal? hlisted hexternals]

/-- Every external id of records is known. -/
theorem unknown_eq_nil {externals : List String} (hexternals : listed.map Part.externalId? = externals.map some) :
    externals.filter (fun e => !StationRecord.isKnown catalog e) = [] := by
  refine List.filter_eq_nil_iff.2 fun external hexternal => ?_
  have hmem : some external ∈ listed.map Part.externalId? :=
    hexternals ▸ List.mem_map.2 ⟨external, hexternal, rfl⟩
  obtain ⟨part, hpart, hnamed⟩ := List.mem_map.1 hmem
  have hknown : StationRecord.isKnown catalog external = true := by
    rw [StationRecord.isKnown, List.any_eq_true]
    refine ⟨part.category, Category.mem_all _, ?_⟩
    rw [h.indexOfExternal?_eq (hlisted part hpart) hnamed, if_pos rfl]
    rfl
  rw [hknown]
  exact Bool.false_ne_true

end IsUnambiguous

/-- **The encodings of an inventory agree.** Records of a document that is not ambiguous, listed in any order and with
repeats, mean the same sets whether a message describes them, a snapshot gives their external ids or a query their
canonical ids; and nothing is unknown. Where there are none of a category, the message leaves it unknown and the
snapshot empty. -/
theorem encodings_agree {doc : Document} {catalog : Catalog} (h : IsUnambiguous doc catalog) {listed : List Part}
    (hlisted : ∀ part ∈ listed, part ∈ doc.parts) :
    (∀ messages : List ListedModule, List.Forall₂ Describes messages listed → ∀ system station : String,
      ∃ update : Inventory,
        Announcement.ofModules catalog system station messages = .modules system station update [] [] ∧
        ∀ c, (catalog.space c).setOfIds ((partsUnder listed c).map Part.id) = .ok (update.get c)) ∧
    ∀ (record : StationRecord) (externals : List String), record.sellingModules = some externals →
      listed.map Part.externalId? = externals.map some →
      (record.decode catalog).unknownModules = [] ∧
      ∃ inventory, (record.decode catalog).report.inventory = some inventory ∧
        ∀ c, ∃ set, inventory.get c = some set ∧
          (partsUnder listed c = [] → set = (catalog.space c).emptySet) ∧
          (partsUnder listed c ≠ [] →
            (catalog.space c).setOfIds ((partsUnder listed c).map Part.id) = .ok (some set)) := by
  refine ⟨fun messages hmessages system station => ?_, fun record externals hselling hexternals => ⟨?_, ?_⟩⟩
  · exact ⟨_, h.ofModules_eq hlisted hmessages system station, h.setOfIds_eq_stockOf hlisted hmessages⟩
  · rw [StationRecord.decode, hselling]
    exact h.unknown_eq_nil hlisted hexternals
  · refine ⟨StationRecord.stockOf catalog externals, ?_, h.get_stockOf hlisted hexternals⟩
    rw [StationRecord.decode, hselling]
    rfl

/-- A laser, one grade of armour and a launcher, which is a utility module. -/
def threeRecords : Document where
  standard := []
  internal := []
  hardpoints :=
    [⟨"bl1f", some "100", none, some "bl", "1", "E", some "F", none⟩,
      ⟨"cm0ch", some "101", some "Chaff Launcher", some "cm", "0", "I", none, none⟩]
  bulkheads := [("Cobra Mk III", [⟨"co0", "Lightweight Alloy", "1", "I"⟩])]

theorem exists_isUnambiguous_threeRecords : ∃ catalog, IsUnambiguous threeRecords catalog := by
  have hcheck : (match ofDocument threeRecords with
      | .ok catalog => decide (∀ c ∈ Category.all, ((catalog.space c).entries.map Entry.key).Nodup)
      | .error _ => false) = true := by decide +kernel
  split at hcheck
  · next catalog hload =>
    exact ⟨catalog, hload, fun c => of_decide_eq_true hcheck c (Category.mem_all c), by decide +kernel,
      by decide +kernel⟩
  · cases hcheck

/-- The laser of the three records, and their armour. -/
def laserAndArmour : List Part :=
  [.module .hardpoint ⟨"bl1f", some "100", none, some "bl", "1", "E", some "F", none⟩,
    .armour .cobraMkIII ⟨"co0", "Lightweight Alloy", "1", "I"⟩]

/-- A message about the laser and the armour. -/
def laserAndArmourMessage : List ListedModule :=
  [⟨"Hardpoints", "  BEAM laser", "1", "e", none, some "fixed", none⟩,
    ⟨"bulkheads", "Lightweight Alloy", "1", "I", some "cobra_mk_iii", none, none⟩]

theorem describes_laserAndArmour : List.Forall₂ Describes laserAndArmourMessage laserAndArmour := by
  refine .cons ?_ (.cons ?_ .nil)
  · exact {
      category := rfl
      name := by
        exact ⟨"beam laser", rfl, "BEAM laser", by decide, [' ', ' '], [], by decide +kernel,
          List.all_eq_true.1 (by decide), nofun⟩
      classText := .refl "1"
      rating := ⟨"e", by decide, .refl "e"⟩
      shipless := nofun
      ship := nofun
      mount := by
        rintro record ⟨⟩
        exact ⟨"fixed", [], 'f', "ixed".toList, rfl, by decide +kernel, nofun, rfl⟩
      guidance := by
        rintro record ⟨⟩
        rfl }
  · exact {
      category := rfl
      name := ⟨"Lightweight Alloy", rfl, .refl _⟩
      classText := .refl "1"
      rating := .refl "I"
      shipless := nofun
      ship := by
        rintro ship record ⟨⟩
        exact ⟨"cobra_mk_iii", rfl, List.mem_cons_of_mem _ List.mem_cons_self⟩
      mount := nofun
      guidance := nofun }

/-- A station that sells the launcher, and the laser twice. -/
def launcherAndLasers : StationRecord where
  id := 7
  systemId := 1
  name := "Galileo"
  distanceToStar := none
  allegiance := none
  maxLandingPadSize := none
  kind := none
  hasShipyard := false
  hasOutfitting := true
  sellingShips := none
  sellingModules := some ["100", "101", "100"]

theorem threeRecords_encodings_agree : ∃ catalog, IsUnambiguous threeRecords catalog ∧
    (∃ update : Inventory,
      Announcement.ofModules catalog "Sol" "Galileo" laserAndArmourMessage =
        .modules "Sol" "Galileo" update [] [] ∧
      ∀ c, (catalog.space c).setOfIds ((partsUnder laserAndArmour c).map Part.id) = .ok (update.get c)) ∧
    (launcherAndLasers.decode catalog).unknownModules = [] := by
  obtain ⟨catalog, h⟩ := exists_isUnambiguous_threeRecords
  have hlisted : ∀ part ∈ laserAndArmour, part ∈ threeRecords.parts := by decide +kernel
  let laser : Part := .module .hardpoint ⟨"bl1f", some "100", none, some "bl", "1", "E", some "F", none⟩
  let launcher : Part := .module .utility ⟨"cm0ch", some "101", some "Chaff Launcher", some "cm", "0", "I", none, none⟩
  have hsold : ∀ part ∈ [laser, launcher, laser], part ∈ threeRecords.parts := by decide +kernel
  exact ⟨catalog, h, (encodings_agree h hlisted).1 _ describes_laserAndArmour "Sol" "Galileo",
    ((encodings_agree h hsold).2 launcherAndLasers _ rfl rfl).1⟩

end Catalog

end StationFinder
