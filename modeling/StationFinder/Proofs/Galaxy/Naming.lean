import Mathlib.Data.List.Induction
import StationFinder.Proofs.Galaxy.History

/-!
# The names of systems

Names are not unique, but a name leads to one system: the one that took it last. This module says what news of one
system, loaded or reported, does to the names of the others. A name that leads to another system keeps doing so
(`Store.leads_after_news_iff`), unless the news gives that very name to its own system, or replaces a system that had
the name whether it led there or not. A system is found by its name (`Store.found_by_name`) unless a namesake has
given the name up: then it leads nowhere until it is given again, for it is not handed back to those that still have
it.
-/

namespace StationFinder

/-- News of a system: it comes in whole, or a report about it does. -/
inductive SystemNews where
  | loaded (system : StarSystem)
  | reported (report : SystemReport)

namespace SystemNews

/-- The id of the system that the news is about. -/
def id : SystemNews → Nat
  | loaded system => system.id
  | reported report => report.id

/-- The name that the news gives to the system. -/
def name : SystemNews → String
  | loaded system => system.name
  | reported report => report.name

/-- The name under which the system would be looked up. -/
def key (n : SystemNews) : String := Text.lower n.name

end SystemNews

namespace Store

/-- The store after news of a system. -/
def hear (s : Store) : SystemNews → Store
  | .loaded system => (s.loadSystem system).2
  | .reported report => (s.upsertSystem report).2

/-- The store after a series of news. -/
def hearAll (s : Store) (news : List SystemNews) : Store := news.foldl hear s

theorem Reachable.hear {s : Store} (h : s.Reachable) (n : SystemNews) : (s.hear n).Reachable := by
  cases n with
  | loaded system => exact .loadSystem system h
  | reported report => exact .upsertSystem report h

theorem hearAll_concat (s : Store) (news : List SystemNews) (n : SystemNews) :
    s.hearAll (news ++ [n]) = (s.hearAll news).hear n := by
  simp [hearAll]

theorem Reachable.hearAll {s : Store} (h : s.Reachable) (news : List SystemNews) : (s.hearAll news).Reachable := by
  induction news using List.reverseRecOn with
  | nil => exact h
  | append_singleton news n ih =>
    rw [hearAll_concat]
    exact ih.hear n

/-! ### What news does to the systems -/

variable {s : Store}

/-- A report puts the system in line with it, changed or not. -/
theorem systems_reviseSystem {system : StarSystem} {r : SystemReport} (hs : s.atlas.systems[r.id]? = some system) :
    (s.reviseSystem system r).2.atlas.systems = s.atlas.systems.insert r.id (afterReport system r) := by
  rcases atlas_reviseSystem s system r with ⟨hatlas, hsame⟩ | hatlas
  · rw [hatlas, hsame, insert_eq_self hs]
  · rw [hatlas]
    simp only [reviseAtlas, Atlas.replace, Atlas.systems_relocate]
    split <;> rfl

/-- What is stored under an id after a report about it. -/
def settle (stored : Option StarSystem) (r : SystemReport) : Option StarSystem :=
  match stored with
  | some system => some (afterReport system r)
  | none => r.sector?.map r.toSystem

/-- A report changes what is stored under its own id, and nothing else. -/
theorem getElem?_systems_upsertSystem (s : Store) (r : SystemReport) (id : Nat) :
    (s.upsertSystem r).2.atlas.systems[id]? =
      if r.id = id then settle s.atlas.systems[id]? r else s.atlas.systems[id]? := by
  unfold upsertSystem
  cases hstored : s.atlas.systems[r.id]? with
  | some system =>
    dsimp only
    rw [systems_reviseSystem hstored, Std.ExtTreeMap.getElem?_insert]
    simp only [Nat.compare_eq_eq]
    split
    · next hid => rw [← hid, hstored, settle]
    · rfl
  | none =>
    cases hsector : r.sector? with
    | none =>
      change s.atlas.systems[id]? = _
      split
      · next hid =>
        rw [← hid, hstored, settle, hsector]
        rfl
      · rfl
    | some sector =>
      change (s.atlas.systems.insert r.id (r.toSystem sector))[id]? = _
      rw [Std.ExtTreeMap.getElem?_insert]
      simp only [Nat.compare_eq_eq]
      split
      · next hid =>
        rw [← hid, hstored, settle, hsector]
        rfl
      · rfl

/-- News of one system leaves the other systems as they are. -/
theorem systems_hear_of_ne (h : s.atlas.Consistent) {n : SystemNews} {j : Nat} (hj : n.id ≠ j) :
    (s.hear n).atlas.systems[j]? = s.atlas.systems[j]? := by
  cases n with
  | loaded system =>
    change system.id ≠ j at hj
    simp only [hear, loadSystem]
    split
    · rfl
    · simp only [Atlas.enter, Std.ExtTreeMap.getElem?_insert, Nat.compare_eq_eq, if_neg hj]
      split
      · next previous hstored =>
        simp only [Atlas.withdraw, Std.ExtTreeMap.getElem?_erase, Nat.compare_eq_eq, h.keyed hstored, if_neg hj]
      · rfl
  | reported report => exact (getElem?_systems_upsertSystem s report j).trans (if_neg hj)

/-! ### What news does to the names -/

/-- The system that is stored under an id has a certain name. -/
def IsNamed (s : Store) (id : Nat) (key : String) : Prop := (s.atlas.systems[id]?).map StarSystem.key = some key

/-- The news gives the system its name: the system comes in with it, or a report changes the one that it had. -/
def Names (s : Store) : SystemNews → Prop
  | .loaded system => (Sector.of? system.x system.y system.z).isSome
  | .reported report =>
    match s.atlas.systems[report.id]? with
    | some system => system.name ≠ report.name
    | none => report.sector?.isSome

/-- A system is loaded over one that has a certain name. The name goes, wherever it led. -/
def Displaces (s : Store) (key : String) : SystemNews → Prop
  | .loaded system => (Sector.of? system.x system.y system.z).isSome ∧ s.IsNamed system.id key
  | .reported _ => False

/-- A report reaches a system that has a certain name and to which the name leads. If the report brings another name,
the old one goes. -/
def Renames (s : Store) (key : String) : SystemNews → Prop
  | .loaded _ => False
  | .reported report => s.IsNamed report.id key ∧ s.atlas.names[key]? = some report.id

/-- A system with a certain name gets another one, and the name goes. -/
def GivesUp (s : Store) (key : String) (n : SystemNews) : Prop :=
  n.key ≠ key ∧ (s.Displaces key n ∨ s.Renames key n)

theorem names_reviseSystem (s : Store) (system : StarSystem) (r : SystemReport) :
    (s.reviseSystem system r).2.atlas.names =
      if system.name ≠ r.name then (s.atlas.rename system.name r.name r.id).names else s.atlas.names := by
  rcases atlas_reviseSystem s system r with ⟨hatlas, hsame⟩ | hatlas
  · have hname : system.name = r.name := by rw [← name_afterReport system r, hsame]
    rw [hatlas, if_neg (not_not.2 hname)]
  · rw [hatlas]
    simp only [reviseAtlas, Atlas.replace, Atlas.names_relocate]
    split <;> rfl

/-- Of the names that are not the new one a renaming can only drop the old one, if that leads to the system. -/
theorem names_rename_of_ne (a : Atlas) {old new key : String} {id : Nat} (hkey : Text.lower new ≠ key) :
    (a.rename old new id).names[key]? =
      if Text.lower old = key ∧ a.names[key]? = some id then none else a.names[key]? := by
  simp only [Atlas.rename, Std.ExtTreeMap.getElem?_insert, Std.LawfulEqCmp.compare_eq_iff_eq, if_neg hkey]
  by_cases hold : Text.lower old = key
  · subst hold
    split <;> simp [*]
  · split <;> simp [hold, Std.ExtTreeMap.getElem?_erase]

open scoped Classical in
/-- What becomes of a name that the news does not give: it goes if a system gives it up, or stays. -/
theorem names_hear {n : SystemNews} {key : String} (hkey : n.key ≠ key) :
    (s.hear n).atlas.names[key]? = if s.GivesUp key n then none else s.atlas.names[key]? := by
  rw [GivesUp, and_iff_right hkey]
  cases n with
  | loaded system =>
    change Text.lower system.name ≠ key at hkey
    simp only [hear, loadSystem, Displaces, Renames, IsNamed, or_false]
    cases Sector.of? system.x system.y system.z with
    | none => simp [countDropped]
    | some sector =>
      change (Atlas.enter _ _).names[key]? = _
      simp only [Atlas.enter, StarSystem.key, Std.ExtTreeMap.getElem?_insert, Std.LawfulEqCmp.compare_eq_iff_eq,
        if_neg hkey]
      cases s.atlas.systems[system.id]? with
      | none => simp
      | some previous => simp [Atlas.withdraw, Std.ExtTreeMap.getElem?_erase, StarSystem.key]
  | reported report =>
    change Text.lower report.name ≠ key at hkey
    simp only [hear, upsertSystem, Displaces, Renames, false_or]
    cases hstored : s.atlas.systems[report.id]? with
    | none =>
      rw [if_neg (by simp [IsNamed, hstored])]
      dsimp only
      split
      · change (s.atlas.names.insert (Text.lower report.name) report.id)[key]? = _
        rw [Std.ExtTreeMap.getElem?_insert, if_neg (by simpa using hkey)]
      · rfl
    | some system =>
      simp only [names_reviseSystem, IsNamed, hstored, Option.map_some, Option.some.injEq]
      split
      · exact names_rename_of_ne s.atlas hkey
      · next hsame =>
        rw [← not_not.1 hsame] at hkey
        rw [if_neg fun hold => hkey hold.1]

/-- News gives the system its name, and the name leads to it, or all names stay as they are. -/
theorem hear_names_or_keeps (s : Store) (n : SystemNews) :
    ((s.hear n).atlas.names[n.key]? = some n.id ∧ (s.hear n).IsNamed n.id n.key) ∨
      (¬ s.Names n ∧ (s.hear n).atlas.names = s.atlas.names ∧
        ∀ key, (s.hear n).IsNamed n.id key ↔ s.IsNamed n.id key) := by
  unfold IsNamed
  cases n with
  | loaded system =>
    simp only [hear, loadSystem, Names]
    cases Sector.of? system.x system.y system.z with
    | none => exact .inr ⟨Bool.false_ne_true, rfl, fun _ => Iff.rfl⟩
    | some sector => exact .inl (by simp [Atlas.enter, SystemNews.key, SystemNews.name, SystemNews.id, StarSystem.key])
  | reported report =>
    simp only [hear, upsertSystem, SystemNews.id, Names]
    cases hstored : s.atlas.systems[report.id]? with
    | none =>
      dsimp only
      split
      · exact .inl (by simp [Atlas.enter, SystemNews.key, SystemNews.name, StarSystem.key, SystemReport.toSystem])
      · next hplace =>
        refine .inr ⟨by simp [hplace], rfl, fun key => ?_⟩
        rw [show s.countDropped.atlas = s.atlas from rfl, hstored]
    | some system =>
      dsimp only
      rw [names_reviseSystem, systems_reviseSystem hstored]
      simp only [Std.ExtTreeMap.getElem?_insert_self, Option.map_some, StarSystem.key, name_afterReport]
      split
      · exact .inl (by simp [Atlas.rename, SystemNews.key, SystemNews.name])
      · next hsame => exact .inr ⟨hsame, rfl, fun key => by rw [not_not.1 hsame]⟩

/-! ### Names that lead to other systems -/

theorem systemNamed?_eq_some_iff (h : s.atlas.Consistent) {name : String} {t : StarSystem} :
    s.atlas.systemNamed? name = some t ↔
      s.atlas.names[Text.lower name]? = some t.id ∧ s.atlas.systems[t.id]? = some t := by
  simp only [Atlas.systemNamed?, Atlas.idNamed?, Option.bind_eq_some_iff]
  constructor
  · rintro ⟨id, hid, ht⟩
    rw [h.keyed ht]
    exact ⟨hid, ht⟩
  · rintro ⟨hid, ht⟩
    exact ⟨t.id, hid, ht⟩

/-- **News of one system leaves the names of the others alone, unless a namesake is replaced.** A name that leads to
one system goes on leading to it when there is news of another one that does not bring this name, exactly if the news
does not load a system over one that has the name. -/
theorem leads_after_news_iff (hs : s.Reachable) {n : SystemNews} {name : String} {t : StarSystem}
    (ht : s.atlas.systemNamed? name = some t) (hid : t.id ≠ n.id) (hname : n.key ≠ Text.lower name) :
    (s.hear n).atlas.systemNamed? name = some t ↔ ¬ s.Displaces (Text.lower name) n := by
  have h := hs.consistent
  obtain ⟨hleads, hstored⟩ := (systemNamed?_eq_some_iff h).1 ht
  -- The name leads elsewhere, so a report cannot take it away from its own system.
  have hrenames : ¬ s.Renames (Text.lower name) n := by
    intro hn
    cases n with
    | loaded system => exact hn
    | reported report => exact hid (Option.some.inj (hleads.symm.trans hn.2))
  have hgives : s.GivesUp (Text.lower name) n ↔ s.Displaces (Text.lower name) n := by
    rw [GivesUp, and_iff_right hname, or_iff_left hrenames]
  rw [systemNamed?_eq_some_iff (hs.hear n).consistent, systems_hear_of_ne h hid.symm, names_hear hname, hgives]
  by_cases hdisplaces : s.Displaces (Text.lower name) n
  · simp [hdisplaces]
  · simp [hdisplaces, hleads, hstored]

/-- Two systems of one name, which leads to the second. -/
def namesakes : Store :=
  empty.hearAll [.reported ⟨1, "Sol", ⟨0⟩, ⟨0⟩, ⟨0⟩, false⟩, .reported ⟨2, "SOL", ⟨0⟩, ⟨0⟩, ⟨0⟩, false⟩]

theorem reachable_namesakes : namesakes.Reachable := Reachable.empty.hearAll _

theorem namesakes_lead_after_rename :
    namesakes.Reachable ∧ ∃ t : StarSystem, namesakes.atlas.systemNamed? "sol" = some t ∧ t.id = 2 ∧
      (namesakes.hear (.reported ⟨1, "Vega", ⟨0⟩, ⟨0⟩, ⟨0⟩, true⟩)).atlas.systemNamed? "sol" = some t := by
  have hsol : (namesakes.atlas.systemNamed? "sol").map StarSystem.id = some 2 := by decide +kernel
  obtain ⟨t, ht, hid⟩ := Option.map_eq_some_iff.1 hsol
  refine ⟨reachable_namesakes, t, ht, hid, (leads_after_news_iff reachable_namesakes ht ?_ ?_).2 id⟩
  · rw [hid]
    decide
  · decide +kernel

/-- When the first of the two systems is loaded anew under another name, the name is lost to the second. -/
theorem namesake_lost_by_load :
    namesakes.Reachable ∧ (namesakes.atlas.systemNamed? "sol").map StarSystem.id = some 2 ∧
      Text.lower "Vega" ≠ Text.lower "sol" ∧
      (namesakes.hear (.loaded ⟨1, "Vega", ⟨0⟩, ⟨0⟩, ⟨0⟩, ⟨0, 0, 0⟩, false, ∅⟩)).atlas.systemNamed? "sol" = none := by
  exact ⟨reachable_namesakes, by decide +kernel, by decide +kernel, Option.isNone_iff_eq_none.1 (by decide +kernel)⟩

/-! ### Finding a system by its name -/

/-- A system other than the one with this id gave a name up, and since then no system has been given the name. -/
def IsGivenUp (news : List SystemNews) (id : Nat) (key : String) : Prop :=
  ∃ before n after, news = before ++ n :: after ∧ n.id ≠ id ∧ (empty.hearAll before).GivesUp key n ∧
    ∀ stage m, before ++ [n] <+: stage → stage ++ [m] <+: news → m.key = key → ¬ (empty.hearAll stage).Names m

theorem IsGivenUp.concat {news : List SystemNews} {id : Nat} {key : String} (h : IsGivenUp news id key)
    {n : SystemNews} (hn : n.key = key → ¬ (empty.hearAll news).Names n) : IsGivenUp (news ++ [n]) id key := by
  obtain ⟨before, m, after, rfl, hid, hgives, hsince⟩ := h
  refine ⟨before, m, after ++ [n], by simp, hid, hgives, fun stage m' hbefore hstage => ?_⟩
  rcases List.prefix_concat_iff.1 hstage with hlast | hstage
  · obtain ⟨rfl, hm⟩ := List.append_inj' hlast rfl
    obtain rfl := List.singleton_inj.1 hm
    exact hn
  · exact hsince stage m' hbefore hstage

/-- The name of a system leads somewhere, unless another system gave it up. -/
theorem leads_or_isGivenUp {news : List SystemNews} {id : Nat} {key : String}
    (hnamed : (empty.hearAll news).IsNamed id key) :
    ((empty.hearAll news).atlas.names[key]?).isSome ∨ IsGivenUp news id key := by
  induction news using List.reverseRecOn with
  | nil => simp [hearAll, IsNamed, empty, Atlas.empty] at hnamed
  | append_singleton news n ih =>
    rw [hearAll_concat] at hnamed ⊢
    have h := (Reachable.empty.hearAll news).consistent
    rcases hear_names_or_keeps (empty.hearAll news) n with ⟨hleads, hnew⟩ | ⟨hunnamed, hnames, hkeeps⟩
    · by_cases hkey : n.key = key
      · exact .inl (by rw [← hkey, hleads, Option.isSome_some])
      · have hid : n.id ≠ id := by
          rintro rfl
          exact hkey (Option.some.inj (hnew.symm.trans hnamed))
        rw [IsNamed, systems_hear_of_ne h hid] at hnamed
        rcases ih hnamed with hleads | hgiven
        · by_cases hgives : (empty.hearAll news).GivesUp key n
          · refine .inr ⟨news, n, [], rfl, hid, hgives, fun stage m hbefore hstage => ?_⟩
            -- Nothing comes after the last piece of news.
            have hlonger := hbefore.length_le
            have hshorter := hstage.length_le
            rw [List.length_append, List.length_singleton] at hshorter
            omega
          · exact .inl (by rw [names_hear hkey, if_neg hgives, hleads])
        · exact .inr (hgiven.concat fun hn => absurd hn hkey)
    · rw [hnames]
      have hnamed : (empty.hearAll news).IsNamed id key := by
        by_cases hid : n.id = id
        · exact hid ▸ (hkeeps key).1 (hid ▸ hnamed)
        · rwa [IsNamed, systems_hear_of_ne h hid] at hnamed
      exact (ih hnamed).imp_right fun hgiven => hgiven.concat fun _ => hunnamed

/-- **A stored system is found by its name, unless another one gave the name up.** The name of a system that came in
with some series of news leads to a system of that name, if it is not so that another system gave the name up, loaded
anew under another name or renamed while the name led to it, and that no system has been given the name since. -/
theorem found_by_name (news : List SystemNews) {id : Nat} {t : StarSystem}
    (ht : (empty.hearAll news).atlas.systems[id]? = some t) (hkept : ¬ IsGivenUp news id t.key) :
    ∃ u, (empty.hearAll news).atlas.systemNamed? t.name = some u ∧ u.key = t.key := by
  have h := (Reachable.empty.hearAll news).consistent
  have hnamed : (empty.hearAll news).IsNamed id t.key := by rw [IsNamed, ht, Option.map_some]
  obtain ⟨j, hj⟩ := Option.isSome_iff_exists.1 ((leads_or_isGivenUp hnamed).resolve_right hkept)
  obtain ⟨u, hu, hkey⟩ := h.named hj
  refine ⟨u, (systemNamed?_eq_some_iff h).2 ?_, hkey⟩
  rw [h.keyed hu]
  exact ⟨hj, hu⟩

/-- News of two systems that share a name, each in spellings of its own. -/
def sharedName : List SystemNews :=
  [.reported ⟨1, "Sol", ⟨0⟩, ⟨0⟩, ⟨0⟩, false⟩, .loaded ⟨2, "SOL", ⟨0⟩, ⟨0⟩, ⟨0⟩, ⟨0, 0, 0⟩, false, ∅⟩,
    .reported ⟨2, "sol", ⟨0⟩, ⟨0⟩, ⟨0⟩, true⟩]

theorem sharedName_found :
    ∃ t : StarSystem, (empty.hearAll sharedName).atlas.systems[1]? = some t ∧ ¬ IsGivenUp sharedName 1 t.key ∧
      ∃ u, (empty.hearAll sharedName).atlas.systemNamed? t.name = some u ∧ u.key = t.key := by
  have hstored : (empty.hearAll sharedName).IsNamed 1 "sol" := by
    unfold IsNamed
    decide +kernel
  obtain ⟨t, ht, hkey⟩ := Option.map_eq_some_iff.1 hstored
  have hkept : ¬ IsGivenUp sharedName 1 t.key := by
    rintro ⟨before, n, after, hnews, -, ⟨hgives, -⟩, -⟩
    have hall : ∀ m ∈ sharedName, m.key = "sol" := by decide +kernel
    exact hgives ((hall n (by simp [hnews])).trans hkey.symm)
  exact ⟨t, ht, hkept, found_by_name sharedName ht hkept⟩

/-- News of two systems that share a name, until the second, to which the name leads, is renamed. -/
def renamedNamesake : List SystemNews :=
  [.reported ⟨1, "Sol", ⟨0⟩, ⟨0⟩, ⟨0⟩, false⟩, .reported ⟨2, "SOL", ⟨0⟩, ⟨0⟩, ⟨0⟩, false⟩,
    .reported ⟨2, "Vega", ⟨0⟩, ⟨0⟩, ⟨0⟩, false⟩]

/-- The first of the two systems is stored, but not found by its name. -/
theorem not_found_by_name :
    ∃ t : StarSystem, (empty.hearAll renamedNamesake).atlas.systems[1]? = some t ∧
      (empty.hearAll renamedNamesake).atlas.systemNamed? t.name = none := by
  have hstored : ((empty.hearAll renamedNamesake).atlas.systems[1]?).map StarSystem.name = some "Sol" := by
    decide +kernel
  obtain ⟨t, ht, hname⟩ := Option.map_eq_some_iff.1 hstored
  exact ⟨t, ht, hname ▸ Option.isNone_iff_eq_none.1 (by decide +kernel)⟩

end Store

end StationFinder
