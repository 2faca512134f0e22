import Std.Data.ExtTreeMap.Lemmas
import StationFinder.Catalog.Descriptor
import StationFinder.Outfit.ModuleSet

/-!
# Numbering spaces

The modules of one category, numbered densely from zero in the order in which they were added. A canonical id
belongs to one module only. An external id and a description may fit several modules; the first one added is
then meant.

Numbers are looked up in maps, one for each of the texts that lead to a module. That each map agrees with the list of
modules is part of the space (`Numbers.Lead`), so what there is to say of a lookup can be said of the list.
-/

namespace StationFinder.Catalog

/-- One numbered module. -/
structure Entry where
  id : String
  /-- The external id, if there is one that is not empty. -/
  external : Option String
  /-- The key of the module's own description. -/
  key : String
deriving DecidableEq, Repr

/-! ### Numbers by a text -/

/-- The numbers of things by a text. -/
abbrev Numbers := Std.ExtTreeMap String Nat

namespace Numbers

/-- Each text leads to the number of the first thing that has it. Some things may have no text. -/
def Lead (numbers : Numbers) (texts : List (Option String)) : Prop :=
  ∀ text, numbers[text]? = texts.findIdx? (· = some text)

/-- The numbers with that of one more thing. A text that is there already still leads where it did. -/
def add (numbers : Numbers) (text : Option String) (number : Nat) : Numbers :=
  match text with
  | some text => numbers.insertIfNew text number
  | none => numbers

/-- The numbers of things in order. -/
def ofList (texts : List (Option String)) : Numbers :=
  texts.zipIdx.foldl (fun numbers (text, number) => numbers.add text number) ∅

variable {numbers : Numbers} {texts : List (Option String)}

theorem lead_empty : Lead ∅ [] := fun _ => Std.ExtTreeMap.getElem?_empty

theorem Lead.contains_iff (h : numbers.Lead texts) {text : String} :
    numbers.contains text = true ↔ some text ∈ texts := by
  rw [Std.ExtTreeMap.contains_eq_isSome_getElem?, h text, List.findIdx?_isSome, List.any_eq_true]
  simp

/-- No text leads beyond the last thing. -/
theorem Lead.lt_length (h : numbers.Lead texts) {text : String} {number : Nat} (hi : numbers[text]? = some number) :
    number < texts.length :=
  (List.findIdx?_eq_some_iff_getElem.1 ((h text).symm.trans hi)).1

theorem Lead.add (h : numbers.Lead texts) (text : Option String) :
    (numbers.add text texts.length).Lead (texts ++ [text]) := by
  intro other
  rw [List.findIdx?_append, List.findIdx?_singleton, ← h other, Numbers.add.eq_def]
  cases text with
  | none => simp
  | some text =>
    dsimp only
    rw [Std.ExtTreeMap.getElem?_insertIfNew]
    by_cases hsame : text = other
    · subst hsame
      cases hthere : numbers[text]? with
      | none => simp [Std.ExtTreeMap.mem_iff_isSome_getElem?, hthere]
      | some number => simp [Std.ExtTreeMap.mem_iff_isSome_getElem?, hthere]
    · simp [hsame]

theorem lead_ofList (texts : List (Option String)) : (ofList texts).Lead texts := by
  rw [← texts.reverse_reverse]
  induction texts.reverse with
  | nil => exact lead_empty
  | cons text front ih =>
    rw [List.reverse_cons, ofList, List.zipIdx_append, List.foldl_append]
    simpa [ofList] using ih.add text

end Numbers

/-! ### The space -/

/-- A numbering space. -/
structure Space where
  category : Category
  /-- The modules; the place in the list is the number. -/
  entries : List Entry
  byId : Numbers
  byExternal : Numbers
  byKey : Numbers
  /-- No id occurs twice. -/
  distinct : (entries.map Entry.id).Nodup
  byId_lead : byId.Lead (entries.map fun entry => some entry.id)
  byExternal_lead : byExternal.Lead (entries.map Entry.external)
  byKey_lead : byKey.Lead (entries.map fun entry => some entry.key)

namespace Space

/-- The space of some modules in order. -/
def ofList (category : Category) (entries : List Entry) (distinct : (entries.map Entry.id).Nodup) : Space where
  category
  entries
  byId := .ofList (entries.map fun entry => some entry.id)
  byExternal := .ofList (entries.map Entry.external)
  byKey := .ofList (entries.map fun entry => some entry.key)
  distinct
  byId_lead := Numbers.lead_ofList _
  byExternal_lead := Numbers.lead_ofList _
  byKey_lead := Numbers.lead_ofList _

/-- The space without modules. -/
def empty (category : Category) : Space := ofList category [] List.nodup_nil

/-- How many modules the space has. -/
def count (space : Space) : Nat := space.entries.length

theorem contains_byId_iff (space : Space) {id : String} :
    space.byId.contains id = true ↔ id ∈ space.entries.map Entry.id := by
  simp [space.byId_lead.contains_iff]

/-- The space with one more module at the end. -/
def push (space : Space) (entry : Entry) : Except Fault Space :=
  if h : space.byId.contains entry.id then
    .error (.catalog (.duplicateId space.category entry.id))
  else
    .ok {
      category := space.category
      entries := space.entries ++ [entry]
      byId := space.byId.add entry.id space.count
      byExternal := space.byExternal.add entry.external space.count
      byKey := space.byKey.add entry.key space.count
      distinct := by
        rw [List.map_append, List.map_singleton, List.nodup_append]
        refine ⟨space.distinct, by simp, ?_⟩
        rintro id hid _ hnew rfl
        exact h (space.contains_byId_iff.2 (List.mem_singleton.1 hnew ▸ hid))
      byId_lead := by simpa [count] using space.byId_lead.add (some entry.id)
      byExternal_lead := by simpa [count] using space.byExternal_lead.add entry.external
      byKey_lead := by simpa [count] using space.byKey_lead.add (some entry.key) }

/-! ### Lookups -/

/-- The number of the module with an id. -/
def indexOfId? (space : Space) (id : String) : Option Nat := space.byId[id]?

/-- The number of the module with an id, which must exist. -/
def indexOfId (space : Space) (id : String) : Except Fault Nat :=
  match space.indexOfId? id with
  | some i => .ok i
  | none => .error (.unknownId id)

/-- The number of the first module with an external id. -/
def indexOfExternal? (space : Space) (external : String) : Option Nat := space.byExternal[external]?

/-- The number of the first module that a description fits. -/
def indexOfDescriptor? (space : Space) (d : Descriptor) : Option Nat := space.byKey[d.key]?

/-- The number of the first module that a description fits, which must exist. -/
def indexOfDescriptor (space : Space) (d : Descriptor) : Except Fault Nat :=
  match space.indexOfDescriptor? d with
  | some i => .ok i
  | none => .error (.unknownModule d.text)

theorem indexOfId?_eq (space : Space) (id : String) :
    space.indexOfId? id = space.entries.findIdx? (·.id = id) := by
  rw [indexOfId?, space.byId_lead id, List.findIdx?_map]
  simp [Function.comp_def]

theorem indexOfExternal?_eq (space : Space) (external : String) :
    space.indexOfExternal? external = space.entries.findIdx? (·.external = some external) := by
  rw [indexOfExternal?, space.byExternal_lead external, List.findIdx?_map]
  rfl

theorem indexOfDescriptor?_eq (space : Space) (d : Descriptor) :
    space.indexOfDescriptor? d = space.entries.findIdx? (·.key = d.key) := by
  rw [indexOfDescriptor?, space.byKey_lead d.key, List.findIdx?_map]
  simp [Function.comp_def]

/-- The id of the module with a number. -/
def idAt? (space : Space) (index : Nat) : Option String := space.entries[index]?.map Entry.id

/-! ### Sets -/

/-- The set of no modules. -/
def emptySet (space : Space) : ModuleSet := .empty space.count

/-- The set of the modules with the listed ids, all of which must exist. No ids mean no set at all. -/
def setOfIds (space : Space) (ids : List String) : Except Fault (Option ModuleSet) :=
  if ids.isEmpty then .ok none
  else (ids.mapM space.indexOfId).map fun indexes => some (.ofList space.count indexes)

/-- The set of the modules with the listed external ids, as far as they are known. -/
def setOfExternals (space : Space) (externals : List String) : ModuleSet :=
  .ofList space.count (externals.filterMap space.indexOfExternal?)

/-- The ids of the modules in a set, in the order of their numbers. -/
def idsOf (space : Space) (set : ModuleSet) : List String := set.indexes.filterMap space.idAt?

end Space

end StationFinder.Catalog
