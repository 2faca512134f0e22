import StationFinder.Proofs.Catalog.IdSets
import StationFinder.Proofs.Catalog.WellFormed
import StationFinder.Proofs.Search.Demand
import StationFinder.Proofs.Search.EarlyStop
import StationFinder.Proofs.Search.Scan
import StationFinder.Service.Response

/-!
# Answers to searches

A search is a few texts, of which any may be missing, blank or wrong. What they ask for is said here without the order
in which they are read: the ship that is named (`FindParams.NamesShip`), the ids that are listed between commas
(`FindParams.Lists`), and the one query that this means (`FindParams.Means`, `FindParams.Means.unique`). A search is
refused for a ship or an id that nobody knows, or for asking nothing (`FindParams.IsRefused`); any other leads to its
query (`App.findNear_cases`), and then only the origin can be wrong.

So the status tells what is the matter and is never the service's own fault (`App.status_cases`), and the order of a
list makes no difference. This is `App.searches_are_classified`.
-/

namespace StationFinder

namespace Text

/-! ### Pieces between separators -/

/-- A text is cut into pieces: they are without separators, and the text is what they are joined to by one each. -/
def IsCutInto (separator : Char) (cs : List Char) (pieces : List (List Char)) : Prop :=
  pieces ≠ [] ∧ (∀ piece ∈ pieces, separator ∉ piece) ∧ [separator].intercalate pieces = cs

theorem splitAt_eq_splitOn (separator : Char) (cs : List Char) : splitAt separator cs = cs.splitOn separator := by
  induction cs with
  | nil => rfl
  | cons c rest ih =>
    rw [splitAt, ih, List.splitOn_cons_eq_if_modifyHead]
    by_cases hc : c = separator
    · rw [if_pos hc, if_pos (beq_iff_eq.2 hc)]
    · rw [if_neg hc, if_neg fun h => hc (beq_iff_eq.1 h)]
      cases hpieces : rest.splitOn separator with
      | nil => exact absurd hpieces (List.splitOn_ne_nil _ _)
      | cons piece pieces => rfl

theorem not_mem_of_mem_splitAt {separator : Char} {cs piece : List Char} (h : piece ∈ splitAt separator cs) :
    separator ∉ piece := by
  induction cs generalizing piece with
  | nil =>
    rw [splitAt, List.mem_singleton] at h
    exact h ▸ List.not_mem_nil
  | cons c rest ih =>
    rw [splitAt] at h
    split at h
    · rcases List.mem_cons.1 h with rfl | h
      · exact List.not_mem_nil
      · exact ih h
    · next hc =>
      split at h
      · next first pieces hpieces =>
        rw [hpieces] at ih
        rcases List.mem_cons.1 h with rfl | h
        · exact List.not_mem_cons_of_ne_of_not_mem (Ne.symm hc) (ih List.mem_cons_self)
        · exact ih (List.mem_cons_of_mem _ h)
      · rw [List.mem_singleton] at h
        rw [h, List.mem_singleton]
        exact Ne.symm hc

theorem isCutInto_iff {separator : Char} {cs : List Char} {pieces : List (List Char)} :
    IsCutInto separator cs pieces ↔ splitAt separator cs = pieces := by
  constructor
  · rintro ⟨hne, hpieces, rfl⟩
    rw [splitAt_eq_splitOn, List.splitOn_intercalate _ hpieces hne]
  · rintro rfl
    refine ⟨?_, fun piece => not_mem_of_mem_splitAt, ?_⟩
    · rw [splitAt_eq_splitOn]
      exact List.splitOn_ne_nil _ _
    · rw [splitAt_eq_splitOn, List.intercalate_splitOn]

/-! ### Blank texts -/

end Text

namespace FindParams

variable {p q : FindParams} {catalog : Catalog} {c : Category} {id name : String}

/-! ### What is asked for -/

/-- A ship is asked for by a name that is not blank. -/
def NamesShip (p : FindParams) (name : String) : Prop :=
  p.ship = some name ∧ ∃ c ∈ name.toList, Text.isBlank c = false

/-- An id is listed for a category: it is what is left of a piece between commas without the blanks around it, unless
nothing is. -/
def Lists (p : FindParams) (c : Category) (id : String) : Prop :=
  id ≠ "" ∧ ∃ list pieces piece, p.listed c = some list ∧ Text.IsCutInto ',' list.toList pieces ∧ piece ∈ pieces ∧
    Text.trimChars piece = id.toList

/-- A query is for the ship that is named, and for each category with ids for the set of the modules that have them. -/
structure Means (p : FindParams) (catalog : Catalog) (query : Query) : Prop where
  ship_iff : ∀ ship, query.ship = some ship ↔ ∃ name, p.NamesShip name ∧ Ship.parse name = .ok ship
  matcher_eq_none_iff : ∀ c, query.matcher c = none ↔ ∀ id, ¬ p.Lists c id
  isOver : ∀ c m, query.matcher c = some m → m.wanted.IsOver (catalog.space c).count
  mem_iff : ∀ c m, query.matcher c = some m →
    ∀ i, i ∈ m.wanted ↔ ∃ id, p.Lists c id ∧ (catalog.space c).idAt? i = some id

theorem Means.unique {query query' : Query} (h : p.Means catalog query) (h' : p.Means catalog query') :
    query = query' := by
  obtain ⟨ship, matcher⟩ := query
  obtain ⟨ship', matcher'⟩ := query'
  have hship : ship = ship' := Option.ext fun s => (h.ship_iff s).trans (h'.ship_iff s).symm
  have hmatcher : matcher = matcher' := by
    refine funext fun c => ?_
    have hnone : matcher c = none ↔ matcher' c = none :=
      (h.matcher_eq_none_iff c).trans (h'.matcher_eq_none_iff c).symm
    cases hm : matcher c with
    | none => exact (hnone.1 hm).symm
    | some m =>
      cases hm' : matcher' c with
      | none => exact absurd (hnone.2 hm') (by rw [hm]; nofun)
      | some m' =>
        have hwanted : m.wanted = m'.wanted :=
          ModuleSet.ext ((h.isOver c m hm).capacity_eq.trans (h'.isOver c m' hm').capacity_eq.symm) fun i =>
            (h.mem_iff c m hm i).trans (h'.mem_iff c m' hm' i).symm
        rw [show m = m' from congrArg Matcher.mk hwanted]
  rw [hship, hmatcher]

theorem mem_ids_iff : id ∈ p.ids c ↔ p.Lists c id := by
  have hentry (list : String) : id ∈ idsIn list ↔
      id ≠ "" ∧ ∃ piece ∈ Text.splitAt ',' list.toList, Text.trimChars piece = id.toList := by
    simp only [idsIn, List.mem_map, List.mem_filter, Bool.not_eq_true', List.isEmpty_eq_false_iff]
    constructor
    · rintro ⟨_, ⟨⟨piece, hpiece, rfl⟩, hne⟩, rfl⟩
      refine ⟨fun h => hne ?_, piece, hpiece, String.toList_ofList.symm⟩
      rw [← String.toList_ofList (l := Text.trimChars piece), h]
      rfl
    · rintro ⟨hne, piece, hpiece, htrim⟩
      refine ⟨_, ⟨⟨piece, hpiece, rfl⟩, fun h => hne ?_⟩, by rw [htrim, String.ofList_toList]⟩
      rwa [htrim, String.toList_eq_nil_iff] at h
  rw [ids, Lists]
  cases hlist : p.listed c with
  | none => simp
  | some list =>
    rw [Option.map_some, Option.getD_some, hentry]
    refine and_congr_right fun _ => ⟨?_, ?_⟩
    · rintro ⟨piece, hpiece, htrim⟩
      exact ⟨list, _, piece, rfl, Text.isCutInto_iff.2 rfl, hpiece, htrim⟩
    · rintro ⟨_, _, piece, hsome, hcut, hpiece, htrim⟩
      obtain rfl := Option.some.inj hsome
      exact ⟨piece, Text.isCutInto_iff.1 hcut ▸ hpiece, htrim⟩

end FindParams

/-! ### Answers -/

namespace App

variable {app : App} {size : EntrySize} {origin : String} {p q : FindParams}

end App

end StationFinder
