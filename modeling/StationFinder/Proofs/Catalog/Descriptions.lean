import Mathlib.Algebra.GroupWithZero.Nat
import StationFinder.Catalog.Reference
import StationFinder.Proofs.Catalog.Lookup
import StationFinder.Proofs.Text.Spelling

/-!
# Descriptions and their keys

A description is looked up by its key: six parts with bars between them, and nothing tells a bar inside a part from one
between two parts. But every bar counts. A key whose parts hold none has five of them, a key whose parts hold some has
more, so the two differ, and keys without bars in their parts are equal only if their parts are
(`Descriptor.parts_eq_of_key_eq`). It is enough that one side has no bars. The records of a document such as the
reference document have none (`Document.IsBarFree`), and then whatever text the relay sends finds the first record that
agrees with it in all parts, or none (`Catalog.described_record_is_found`).
-/

namespace StationFinder

/-! ### Pieces between separators -/

section

variable {α : Type} [BEq α] [LawfulBEq α] (separator : α)

/-- Between pieces there is one separator less than there are pieces; all others are inside. -/
theorem count_intercalate {pieces : List (List α)} (h : pieces ≠ []) :
    ([separator].intercalate pieces).count separator + 1 =
      (pieces.map (·.count separator)).sum + pieces.length := by
  induction pieces with
  | nil => exact absurd rfl h
  | cons piece pieces ih =>
    cases pieces with
    | nil => simp
    | cons next pieces =>
      have ih := ih (List.cons_ne_nil next pieces)
      rw [List.intercalate_cons_cons, List.count_append, List.count_append, List.count_singleton_self, List.map_cons,
        List.sum_cons, List.length_cons]
      omega

/-- Joined pieces are told apart, as many as they are, if on one side the separator is not in them. -/
theorem eq_of_intercalate_eq {pieces pieces' : List (List α)} (hlength : pieces.length = pieces'.length)
    (hfree : ∀ piece ∈ pieces', separator ∉ piece)
    (h : [separator].intercalate pieces = [separator].intercalate pieces') : pieces = pieces' := by
  by_cases hne : pieces = []
  · subst hne
    exact (List.length_eq_zero_iff.1 hlength.symm).symm
  · have hne' : pieces' ≠ [] := fun hnil => hne (List.length_eq_zero_iff.1 (by rw [hlength, hnil]; rfl))
    have hcount := count_intercalate separator hne
    have hcount' := count_intercalate separator hne'
    have hzero' : (pieces'.map (·.count separator)).sum = 0 := by
      rw [List.sum_eq_zero_iff_forall_eq_nat, List.forall_mem_map]
      exact fun piece hpiece => List.count_eq_zero.2 (hfree piece hpiece)
    have hzero : (pieces.map (·.count separator)).sum = 0 := by
      rw [h] at hcount
      omega
    rw [List.sum_eq_zero_iff_forall_eq_nat, List.forall_mem_map] at hzero
    rw [← List.splitOn_intercalate separator hfree hne', ← h,
      List.splitOn_intercalate separator (fun piece hpiece => List.count_eq_zero.1 (hzero piece hpiece)) hne]

end

/-! ### Bars in texts -/

namespace Text

theorem mem_of_mem_trimChars {c : Char} {cs : List Char} (h : c ∈ trimChars cs) : c ∈ cs := by
  rw [trimChars, List.mem_reverse] at h
  have hrest := (List.dropWhile_sublist _).subset h
  exact (List.dropWhile_sublist _).subset (List.mem_reverse.1 hrest)

theorem toLower_eq_bar_iff (c : Char) : c.toLower = '|' ↔ c = '|' :=
  Eq.to_iff (apply_toLower (· = '|') (by decide +kernel) c)

theorem eq_bar_of_toUpper {c : Char} (h : c.toUpper = '|') : c = '|' := by
  unfold Char.toUpper at h
  split at h
  · next hsmall =>
    have hle : c.val ≤ 'z'.val := hsmall.2
    have hval := congrArg Char.val h
    dsimp only at hval
    rw [← UInt32.eq_sub_iff_add_eq] at hval
    rw [hval] at hle
    exact absurd hle (by decide)
  · exact h

theorem eq_bar_of_ofNat {n : Nat} (h : Char.ofNat n = '|') : n = '|'.toNat := by
  rw [← h]
  by_cases hvalid : n.isValidChar
  · rw [Char.ofNat, dif_pos hvalid]
    rfl
  · rw [Char.ofNat, dif_neg hvalid] at h
    exact absurd h (by decide)

/-- No capital is moved onto the bar. -/
theorem not_holds_bar : ∀ run ∈ capitalRuns, run.holds ('|'.toNat - run.shift).toNat = false := by decide +kernel

theorem eq_bar_of_mem_lowerChar {c : Char} (h : '|' ∈ lowerChar c) : c = '|' := by
  unfold lowerChar at h
  split at h
  · exact (toLower_eq_bar_iff c).1 (List.mem_singleton.1 h).symm
  · split at h
    · simp at h
    · split at h
      · next run hrun =>
        have hmoved := eq_bar_of_ofNat (List.mem_singleton.1 h).symm
        have hcode : c.toNat = ('|'.toNat - run.shift).toNat := by
          have hbar : '|'.toNat = 124 := rfl
          omega
        have hholds := List.find?_some hrun
        rw [hcode, not_holds_bar run (List.mem_of_find?_eq_some hrun)] at hholds
        cases hholds
      · exact (List.mem_singleton.1 h).symm

theorem bar_mem_of_mem_lowerAfter {afterCased : Bool} {cs : List Char} (h : '|' ∈ lowerAfter afterCased cs) :
    '|' ∈ cs := by
  induction cs generalizing afterCased with
  | nil => exact h
  | cons c cs ih =>
    rw [lowerAfter, List.mem_append] at h
    rcases h with hfirst | hrest
    · split at hfirst
      · split at hfirst <;> simp at hfirst
      · exact List.mem_cons.2 (.inl (eq_bar_of_mem_lowerChar hfirst).symm)
    · exact List.mem_cons_of_mem c (ih hrest)

theorem bar_mem_of_mem_lower {text : String} (h : '|' ∈ (lower (trim text)).toList) : '|' ∈ text.toList := by
  rw [lower, trim, String.toList_ofList, String.toList_ofList] at h
  exact mem_of_mem_trimChars (bar_mem_of_mem_lowerAfter h)

theorem bar_mem_of_mem_asciiUpper {text : String} (h : '|' ∈ (asciiUpper (trim text)).toList) : '|' ∈ text.toList := by
  rw [asciiUpper, trim, String.toList_ofList, String.toList_ofList] at h
  obtain ⟨c, hc, hupper⟩ := List.mem_map.1 h
  exact mem_of_mem_trimChars (eq_bar_of_toUpper hupper ▸ hc)

end Text

theorem Ship.name_injective : Function.Injective name := by
  have h : ∀ s ∈ all, ∀ t ∈ all, s.name = t.name → s = t := by decide +kernel
  exact fun s t => h s (mem_all s) t (mem_all t)

/-- Every ship has a name, and no name has a bar. -/
theorem Ship.name_ne_empty (s : Ship) : s.name ≠ "" ∧ '|' ∉ s.name.toList := by
  have h : ∀ s ∈ all, s.name ≠ "" ∧ '|' ∉ s.name.toList := by decide +kernel
  exact h s (mem_all s)

namespace Catalog

/-! ### Keys and parts -/

namespace Descriptor

/-- Two descriptions agree in all that counts: the ship, the name and the rating but for letter case, the class, and the
first letters of mount and guidance; blanks at the ends aside. -/
structure Agrees (d e : Descriptor) : Prop where
  ship : d.ship = e.ship
  name : Text.lower (Text.trim d.name) = Text.lower (Text.trim e.name)
  classText : Text.trim d.classText = Text.trim e.classText
  rating : Text.asciiUpper (Text.trim d.rating) = Text.asciiUpper (Text.trim e.rating)
  mount : initial d.mount = initial e.mount
  guidance : initial d.guidance = initial e.guidance

theorem shipName_inj {s t : Option Ship} (h : (s.map Ship.name).getD "" = (t.map Ship.name).getD "") : s = t := by
  cases s with
  | none =>
    cases t with
    | none => rfl
    | some t => exact absurd h.symm t.name_ne_empty.1
  | some s =>
    cases t with
    | none => exact absurd h s.name_ne_empty.1
    | some t => exact congrArg some (Ship.name_injective h)

theorem length_parts (d : Descriptor) : d.parts.length = 6 := rfl

theorem parts_eq_parts_iff {d e : Descriptor} : d.parts = e.parts ↔ d.Agrees e := by
  constructor
  · intro h
    simp only [parts, List.cons.injEq, and_true] at h
    obtain ⟨hship, hname, hclass, hrating, hmount, hguidance⟩ := h
    exact ⟨shipName_inj hship, hname, hclass, hrating, hmount, hguidance⟩
  · intro h
    rw [parts, parts, h.ship, h.name, h.classText, h.rating, h.mount, h.guidance]

/-- Descriptions with the same key have the same parts, if the parts of one of them hold no bars. -/
theorem parts_eq_of_key_eq {d e : Descriptor} (hfree : ∀ part ∈ e.parts, '|' ∉ part.toList) (h : d.key = e.key) :
    d.parts = e.parts := by
  have hjoined := congrArg String.toList h
  rw [key, key, String.toList_intercalate, String.toList_intercalate] at hjoined
  have hlength : (d.parts.map String.toList).length = (e.parts.map String.toList).length := by
    rw [List.length_map, List.length_map, length_parts, length_parts]
  have hpieces := eq_of_intercalate_eq '|' hlength (List.forall_mem_map.2 hfree) hjoined
  exact List.map_injective_iff.2 (fun _ _ => String.toList_injective) hpieces

theorem bar_not_mem_initial {qualifier : Option String} (h : ∀ q ∈ qualifier, '|' ∉ q.toList) :
    '|' ∉ (initial qualifier).toList := by
  cases qualifier with
  | none => exact List.not_mem_nil
  | some q =>
    rw [initial, Option.map_some]
    split
    · next c rest hletters =>
      rw [Option.some.injEq] at hletters
      intro hbar
      rw [String.toList_ofList, List.mem_singleton] at hbar
      have hmem : c ∈ Text.trimChars q.toList := hletters ▸ List.mem_cons_self
      exact h q rfl (Text.eq_bar_of_toUpper hbar.symm ▸ Text.mem_of_mem_trimChars hmem)
    · exact List.not_mem_nil

/-- The parts of a description hold no bars if its texts hold none. -/
theorem bar_not_mem_parts {e : Descriptor}
    (hname : '|' ∉ e.name.toList) (hclass : '|' ∉ e.classText.toList) (hrating : '|' ∉ e.rating.toList)
    (hmount : ∀ q ∈ e.mount, '|' ∉ q.toList) (hguidance : ∀ q ∈ e.guidance, '|' ∉ q.toList) :
    ∀ part ∈ e.parts, '|' ∉ part.toList := by
  have hship : '|' ∉ ((e.ship.map Ship.name).getD "").toList := by
    cases e.ship with
    | none => exact List.not_mem_nil
    | some ship => exact ship.name_ne_empty.2
  have htrim : '|' ∉ (Text.trim e.classText).toList := fun h =>
    hclass (Text.mem_of_mem_trimChars (by rwa [Text.trim, String.toList_ofList] at h))
  intro part hpart
  simp only [parts, List.mem_cons, List.not_mem_nil, or_false] at hpart
  rcases hpart with rfl | rfl | rfl | rfl | rfl | rfl
  · exact hship
  · exact fun h => hname (Text.bar_mem_of_mem_lower h)
  · exact htrim
  · exact fun h => hrating (Text.bar_mem_of_mem_asciiUpper h)
  · exact bar_not_mem_initial hmount
  · exact bar_not_mem_initial hguidance

end Descriptor

/-! ### Documents without bars -/

/-- The texts of a record that can come into its description. -/
def Part.texts : Part → List String
  | module _ record =>
    record.name.toList ++ [record.classText, record.rating] ++ record.mode.toList ++ record.missile.toList
  | armour _ record => [record.name, record.classText, record.rating]

/-- No record of the document has a bar in one of these texts. -/
def Document.IsBarFree (doc : Document) : Prop := ∀ part ∈ doc.parts, ∀ text ∈ part.texts, '|' ∉ text.toList

theorem bar_not_mem_of_groupName? {code name : String} (h : groupName? code = some name) : '|' ∉ name.toList := by
  have hall : ∀ group ∈ groupNames, '|' ∉ group.2.toList := by decide +kernel
  obtain ⟨before, after, hgroups, -⟩ := List.lookup_eq_some_iff.1 h
  exact hall (code, name) (hgroups ▸ List.mem_append_right before List.mem_cons_self)

theorem bar_not_mem_of_nameOf {record : ModuleRecord} (h : ∀ name ∈ record.name, '|' ∉ name.toList) {name : String}
    (hname : nameOf record = .ok name) : '|' ∉ name.toList := by
  unfold nameOf at hname
  split at hname
  · next own hown =>
    rw [← Except.ok.inj hname]
    exact h own hown
  · split at hname
    · next hgroup =>
      rw [← Except.ok.inj hname]
      exact bar_not_mem_of_groupName? hgroup
    · cases hname
  · cases hname

/-- A record without bars in its texts has none in the parts of its description. -/
theorem Part.bar_not_mem_parts {part : Part} (hfree : ∀ text ∈ part.texts, '|' ∉ text.toList) {e : Descriptor}
    (he : part.descriptor = .ok e) : ∀ p ∈ e.parts, '|' ∉ p.toList := by
  cases part with
  | module category record =>
    simp only [texts, List.forall_mem_append, List.forall_mem_cons, Option.mem_toList] at hfree
    obtain ⟨⟨⟨hname, hclass, hrating, -⟩, hmode⟩, hmissile⟩ := hfree
    obtain ⟨name, hnamed, rfl⟩ := Part.exists_name_of_descriptor he
    refine Descriptor.bar_not_mem_parts (bar_not_mem_of_nameOf hname hnamed) hclass hrating ?_ ?_
    · intro q hq
      rw [ModuleRecord.descriptor] at hq
      split at hq
      · exact hmode q hq
      · cases hq
    · intro q hq
      rw [ModuleRecord.descriptor] at hq
      split at hq
      · exact hmissile q hq
      · cases hq
  | armour ship record =>
    cases he
    simp only [texts, List.forall_mem_cons] at hfree
    obtain ⟨hname, hclass, hrating, -⟩ := hfree
    exact Descriptor.bar_not_mem_parts hname hclass hrating nofun nofun

/-- The key of such a record is that of just the descriptions that agree with its own. -/
theorem Part.key_eq_key_iff {part : Part} (hfree : ∀ text ∈ part.texts, '|' ∉ text.toList) {e : Descriptor}
    (he : part.descriptor = .ok e) (d : Descriptor) : e.key = d.key ↔ d.Agrees e := by
  rw [← Descriptor.parts_eq_parts_iff]
  constructor
  · intro h
    exact Descriptor.parts_eq_of_key_eq (bar_not_mem_parts hfree he) h.symm
  · intro h
    rw [Descriptor.key, Descriptor.key, h]

/-! ### The reference document -/

namespace Reference

/-- A model without bars in what its record says of it. -/
def Model.IsBarFree (m : Model) : Prop :=
  m.rating ≠ '|' ∧ m.mount ≠ some '|' ∧ m.guidance ≠ some '|' ∧ ∀ named ∈ m.named, '|' ∉ named.2.toList

instance (m : Model) : Decidable m.IsBarFree := inferInstanceAs (Decidable (_ ∧ _ ∧ _ ∧ _))

theorem bar_not_mem_number (n : Nat) : '|' ∉ s!"{n}".toList := by
  intro h
  have hdigit : '|' ∈ Nat.toDigits 10 n := by simpa [toString, Nat.repr] using h
  exact absurd (Nat.isDigit_of_mem_toDigits (by decide) (by decide) hdigit) (by decide)

theorem bar_not_mem_texts_records {models : List Model} (h : ∀ m ∈ models, m.IsBarFree) {first : Nat}
    {record : ModuleRecord} (hrecord : record ∈ records first models) (c : Category) :
    ∀ text ∈ (Part.module c record).texts, '|' ∉ text.toList := by
  obtain ⟨i, hi, rfl⟩ := List.mem_mapIdx.1 hrecord
  obtain ⟨hrating, hmount, hguidance, hnamed⟩ := h _ (List.getElem_mem hi)
  have hsingle {letter : Option Char} (hletter : letter ≠ some '|') :
      ∀ text ∈ letter.map String.singleton, '|' ∉ text.toList := by
    rintro text htext
    obtain ⟨c, rfl, rfl⟩ := Option.map_eq_some_iff.1 htext
    simpa [eq_comm] using hletter
  simp only [Part.texts, List.forall_mem_append, List.forall_mem_cons, Option.mem_toList]
  refine ⟨⟨⟨?_, bar_not_mem_number _, ?_, nofun⟩, hsingle hmount⟩, hsingle hguidance⟩
  · intro name hname
    obtain ⟨named, hmem, rfl⟩ := Option.map_eq_some_iff.1 hname
    exact hnamed named hmem
  · simpa [eq_comm] using hrating

theorem isBarFree_document : document.IsBarFree := by
  have hstandard : ∀ m ∈ standardModels, m.IsBarFree := by decide +kernel
  have hinternal : ∀ m ∈ internalModels, m.IsBarFree := by decide +kernel
  have hhardpoints : ∀ m ∈ hardpointModels, m.IsBarFree := by decide +kernel
  intro part hpart
  simp only [Document.parts, document, List.mem_append, List.mem_map, List.mem_flatMap] at hpart
  rcases hpart with ((⟨record, hrecord, rfl⟩ | ⟨listed, hlisted, hpart⟩) | ⟨record, hrecord, rfl⟩) |
    ⟨record, hrecord, rfl⟩
  · exact bar_not_mem_texts_records hstandard hrecord _
  · obtain ⟨number, _, rfl⟩ := List.mem_mapIdx.1 hlisted
    obtain ⟨ship, record, hrecord, rfl⟩ := mem_armourParts hpart
    obtain ⟨grade, hgrade, rfl⟩ := List.mem_mapIdx.1 hrecord
    have hnames : ∀ name ∈ armourGrades, '|' ∉ name.toList := by decide +kernel
    simp only [Part.texts, List.forall_mem_cons]
    exact ⟨hnames _ (List.getElem_mem hgrade), by decide, by decide, List.forall_mem_nil _⟩
  · exact bar_not_mem_texts_records hinternal hrecord _
  · exact bar_not_mem_texts_records hhardpoints hrecord _

end Reference

/-! ### Descriptions and records -/

/-- **A description finds the first record that agrees with it, whatever its texts.** The reference document has no bars
in the texts of its records. Where a document like that loads, a description with any texts whatever, bars included, is
looked up to the first record of the category whose own description agrees with it in all parts, or is reported as
unknown if there is none. -/
theorem described_record_is_found :
    Reference.document.IsBarFree ∧
    ∀ (doc : Document) (catalog : Catalog), ofDocument doc = .ok catalog → doc.IsBarFree →
      ∀ (c : Category) (d : Descriptor),
        (∀ i, (catalog.space c).indexOfDescriptor d = .ok i ↔
          FirstAt (fun part => ∃ e, part.descriptor = .ok e ∧ d.Agrees e) (doc.records c) i) ∧
        ((¬ ∃ part ∈ doc.records c, ∃ e, part.descriptor = .ok e ∧ d.Agrees e) →
          (catalog.space c).indexOfDescriptor d = .error (.unknownModule d.text)) := by
  refine ⟨Reference.isBarFree_document, fun doc catalog hload hfree c d => ?_⟩
  have hfound (i : Nat) : (catalog.space c).indexOfDescriptor d = .ok i ↔
      FirstAt (fun part => ∃ e, part.descriptor = .ok e ∧ d.Agrees e) (doc.records c) i := by
    rw [indexOfDescriptor_eq_ok_iff_firstAt hload]
    refine firstAt_congr fun part hpart => exists_congr fun e => and_congr_right fun he => ?_
    rw [← filter_parts, List.mem_filter] at hpart
    exact Part.key_eq_key_iff (hfree part hpart.1) he d
  refine ⟨hfound, fun hnone => ?_⟩
  unfold Space.indexOfDescriptor
  split
  · next i hi =>
    obtain ⟨⟨part, hpart, hagrees⟩, -⟩ := (hfound i).1 (Space.indexOfDescriptor_eq_ok_iff.2 hi)
    exact absurd ⟨part, List.mem_of_getElem? hpart, hagrees⟩ hnone
  · rfl

/-- The laser as the relay might describe it. -/
def shoutedLaser : Descriptor := ⟨none, " BEAM laser", "1 ", "e", some "Fixed", some " "⟩

/-- A description with bars in its parts, whose key goes on where that of the laser ends. -/
def barredLaser : Descriptor := ⟨none, "beam laser|1", "E", "F", some "|", none⟩

theorem laser_is_found : ∃ catalog, ofDocument twiceListed = .ok catalog ∧ twiceListed.IsBarFree ∧
    (catalog.space .hardpoint).indexOfDescriptor shoutedLaser = .ok 0 ∧
    (catalog.space .hardpoint).indexOfDescriptor barredLaser = .error (.unknownModule barredLaser.text) := by
  have hloads : (ofDocument twiceListed).isOk = true := by decide +kernel
  have hfree : twiceListed.IsBarFree := by
    unfold Document.IsBarFree
    decide +kernel
  have hlasers : twiceListed.records .hardpoint = [.module .hardpoint laser, .module .hardpoint laserAgain] := by
    decide +kernel
  cases hload : ofDocument twiceListed with
  | error fault =>
    rw [hload] at hloads
    cases hloads
  | ok catalog =>
    have hspec := described_record_is_found.2 twiceListed catalog hload hfree .hardpoint
    rw [hlasers] at hspec
    refine ⟨catalog, rfl, hfree, ((hspec shoutedLaser).1 0).2 (firstAt_cons_zero.2 ⟨_, rfl, ?_⟩),
      (hspec barredLaser).2 ?_⟩
    · exact ⟨rfl, by decide +kernel, by decide +kernel, by decide +kernel, by decide +kernel, by decide +kernel⟩
    · rintro ⟨part, hpart, e, he, hagrees⟩
      rcases List.mem_pair.1 hpart with rfl | rfl
      · cases he
        exact absurd hagrees.classText (by decide +kernel)
      · cases he
        exact absurd hagrees.classText (by decide +kernel)

end Catalog

end StationFinder
