import StationFinder.Proofs.Galaxy.Naming
import StationFinder.Proofs.Text.Fragments

/-!
# Searching for names

The search for a part of a name compares texts in lower case. It lists the names of the stored systems whose names
contain the part when both are in lower case, in order and each system once (`Store.names_containing_listed`). A
fragment of a name finds the name then, unless a sigma stands in it that ends the fragment but not a word of the name,
or the other way round: the two are put into lower case separately, and the sigmas come out different.
-/

namespace StationFinder

namespace Atlas.Consistent

variable {a : Atlas}

theorem mem_systemList_iff (h : a.Consistent) {t : StarSystem} : t ∈ a.systemList ↔ a.systems[t.id]? = some t := by
  rw [systemList, List.mem_map]
  constructor
  · rintro ⟨⟨id, system⟩, hentry, rfl⟩
    have hstored := Std.ExtTreeMap.mem_toList_iff_getElem?_eq_some.1 hentry
    rwa [h.keyed hstored]
  · intro hstored
    exact ⟨(t.id, t), Std.ExtTreeMap.mem_toList_iff_getElem?_eq_some.2 hstored, rfl⟩

theorem nodup_systemList_ids (h : a.Consistent) : (a.systemList.map StarSystem.id).Nodup := by
  have hids : a.systemList.map StarSystem.id = a.systems.keys := by
    rw [systemList, List.map_map, ← Std.ExtTreeMap.map_fst_toList_eq_keys]
    exact List.map_congr_left fun entry hentry => h.keyed (Std.ExtTreeMap.mem_toList_iff_getElem?_eq_some.1 hentry)
  rw [hids]
  exact Std.ExtTreeMap.nodup_keys

end Atlas.Consistent

namespace Store

variable {s : Store}

/-- The systems whose names contain a text, letter case aside, in the order of their names. -/
def systemsContaining (s : Store) (part : String) : List StarSystem :=
  (s.atlas.systemList.filter fun t => Text.occursIn (Text.lower part).toList t.key.toList).mergeSort
    fun t u => decide (t.name ≤ u.name)

theorem namesContaining_eq_map (s : Store) (part : String) :
    s.namesContaining part = (s.systemsContaining part).map StarSystem.name := by
  rw [systemsContaining, List.map_mergeSort (s := fun a b => decide (a ≤ b)) fun _ _ _ _ => rfl,
    ← List.filterMap_eq_map, List.filterMap_filter]
  rfl

theorem mem_systemsContaining_iff (h : s.atlas.Consistent) {part : String} {t : StarSystem} :
    t ∈ s.systemsContaining part ↔
      s.atlas.systems[t.id]? = some t ∧ (Text.lower part).toList <:+: (Text.lower t.name).toList := by
  rw [systemsContaining, (List.mergeSort_perm _ _).mem_iff, List.mem_filter, h.mem_systemList_iff, Text.occursIn_iff,
    StarSystem.key]

theorem nodup_systemsContaining_ids (h : s.atlas.Consistent) (part : String) :
    ((s.systemsContaining part).map StarSystem.id).Nodup := by
  rw [systemsContaining, ((List.mergeSort_perm _ _).map StarSystem.id).nodup_iff]
  exact (List.filter_sublist.map StarSystem.id).nodup h.nodup_systemList_ids

theorem namesContaining_sorted (s : Store) (part : String) : (s.namesContaining part).Pairwise (· ≤ ·) := by
  refine (List.pairwise_mergeSort (fun a b c hab hbc => ?_) (fun a b => ?_) _).imp of_decide_eq_true
  · exact decide_eq_true (String.le_trans (of_decide_eq_true hab) (of_decide_eq_true hbc))
  · simpa using String.le_total a b

theorem name_mem_namesContaining_of_stored (h : s.atlas.Consistent) {part : String} {t : StarSystem}
    (ht : s.atlas.systems[t.id]? = some t) (hpart : (Text.lower part).toList <:+: (Text.lower t.name).toList) :
    t.name ∈ s.namesContaining part := by
  rw [namesContaining_eq_map]
  exact List.mem_map_of_mem ((mem_systemsContaining_iff h).2 ⟨ht, hpart⟩)

/-- **A search by name lists the systems whose names contain the text.** The names come in order; they are those of the
stored systems whose names in lower case contain the text in lower case, each system once. A fragment of a system's name
finds the system if each sigma of the fragment ends a word in the name and alone, or in neither. -/
theorem names_containing_listed (hs : s.Reachable) (part : String) :
    (s.namesContaining part).Pairwise (· ≤ ·) ∧
      (∃ found : List StarSystem, s.namesContaining part = found.map StarSystem.name ∧
        (found.map StarSystem.id).Nodup ∧
        ∀ t, t ∈ found ↔
          s.atlas.systems[t.id]? = some t ∧ (Text.lower part).toList <:+: (Text.lower t.name).toList) ∧
      ∀ (t : StarSystem) (before after : List Char), s.atlas.systems[t.id]? = some t →
        t.name.toList = before ++ part.toList ++ after →
        (∀ first last, part.toList = first ++ 'Σ' :: last →
          Text.endsWord (before ++ first) (last ++ after) = Text.endsWord first last) →
        t.name ∈ s.namesContaining part := by
  have h := hs.consistent
  refine ⟨s.namesContaining_sorted part, ⟨s.systemsContaining part, s.namesContaining_eq_map part,
    nodup_systemsContaining_ids h part, fun t => mem_systemsContaining_iff h⟩, ?_⟩
  intro t before after ht hname hsigmas
  exact name_mem_namesContaining_of_stored h ht (Text.lower_infix hname hsigmas)

/-- A system with a sigma in the middle of its name. -/
def midwaySigma : Store := empty.hear (.reported ⟨1, "ΑΣΑ", ⟨0⟩, ⟨0⟩, ⟨0⟩, false⟩)

theorem reachable_midwaySigma : midwaySigma.Reachable := Reachable.empty.hear _

theorem exists_midwaySigma : ∃ t : StarSystem, midwaySigma.atlas.systems[t.id]? = some t ∧ t.name = "ΑΣΑ" := by
  have hname : (midwaySigma.atlas.systems[1]?).map StarSystem.name = some "ΑΣΑ" := by decide +kernel
  obtain ⟨t, ht, hname⟩ := Option.map_eq_some_iff.1 hname
  refine ⟨t, ?_, hname⟩
  rwa [reachable_midwaySigma.consistent.keyed ht]

/-- The second half of the name finds the system: its sigma begins it. -/
theorem midwaySigma_found :
    midwaySigma.Reachable ∧ ∃ t : StarSystem, midwaySigma.atlas.systems[t.id]? = some t ∧
      t.name.toList = ['Α'] ++ "ΣΑ".toList ++ [] ∧ t.name ∈ midwaySigma.namesContaining "ΣΑ" := by
  obtain ⟨t, ht, hname⟩ := exists_midwaySigma
  have hsplit : t.name.toList = ['Α'] ++ "ΣΑ".toList ++ [] := by rw [hname]; rfl
  refine ⟨reachable_midwaySigma, t, ht, hsplit,
    (names_containing_listed reachable_midwaySigma "ΣΑ").2.2 t ['Α'] [] ht hsplit fun first last hsigma => ?_⟩
  -- The only sigma is the first character.
  obtain ⟨rfl, rfl⟩ : first = [] ∧ last = ['Α'] := by
    have hchars : ['Σ', 'Α'] = first ++ 'Σ' :: last := hsigma
    simpa [List.cons_eq_append_iff, and_comm] using hchars
  decide +kernel

/-- The first half of the name does not find the system: its sigma ends the half, though not the name. -/
theorem midwaySigma_missed :
    midwaySigma.Reachable ∧ ∃ t : StarSystem, midwaySigma.atlas.systems[t.id]? = some t ∧
      "ΑΣ".toList <:+: t.name.toList ∧ t.name ∉ midwaySigma.namesContaining "ΑΣ" := by
  obtain ⟨t, ht, hname⟩ := exists_midwaySigma
  have hnone : midwaySigma.namesContaining "ΑΣ" = [] := by decide +kernel
  refine ⟨reachable_midwaySigma, t, ht, ?_, by simp [hnone]⟩
  rw [hname]
  exact ⟨[], ['Α'], rfl⟩

end Store

end StationFinder
