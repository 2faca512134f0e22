import Mathlib.Data.List.TakeWhile
import StationFinder.Text.Ascii
import StationFinder.Text.Blank
import StationFinder.Text.Lower

/-!
# Spellings

A text may be spelled in other ASCII letter case and with blanks around it. No such spelling makes a difference to
lower or upper case once the blanks at the ends are trimmed off (`Text.Spells.lower_trim_eq`,
`Text.Spells.asciiUpper_trim_eq`), not even to the lower case of a sigma, which depends on the characters around it. The
other way round, texts with the same lower case need not differ in ASCII case only; they do if neither of them has
capitals outside ASCII (`Text.sameAscii_of_lower_eq`).
-/

namespace StationFinder.Text

/-- A text with blanks around it. -/
def Pads (text padded : String) : Prop :=
  ∃ before after : List Char, padded.toList = before ++ text.toList ++ after ∧
    (∀ c ∈ before, isBlank c = true) ∧ ∀ c ∈ after, isBlank c = true

/-- A text in any ASCII letter case, with blanks around it. -/
def Spells (text spelling : String) : Prop := ∃ variant, sameAscii text variant = true ∧ Pads variant spelling

theorem Pads.refl (text : String) : Pads text text := ⟨[], [], by simp⟩

theorem Spells.refl (text : String) : Spells text text := ⟨text, sameAscii_self text, .refl text⟩

/-! ### Characters -/

/-- What does not tell the ASCII capitals from their small letters is no matter of ASCII case. -/
theorem apply_toLower {α : Type} (f : Char → α)
    (h : ∀ i < 26, f (Char.ofNat ('A'.toNat + i)).toLower = f (Char.ofNat ('A'.toNat + i))) (c : Char) :
    f c.toLower = f c := by
  by_cases hcapital : c.val ≥ 'A'.val ∧ c.val ≤ 'Z'.val
  · have hle : 'A'.toNat ≤ c.toNat := UInt32.le_iff_toNat_le.1 hcapital.1
    have hge : c.toNat ≤ 'Z'.toNat := UInt32.le_iff_toNat_le.1 hcapital.2
    have hz : 'Z'.toNat = 'A'.toNat + 25 := rfl
    have hc := h (c.toNat - 'A'.toNat) (by omega)
    rwa [Nat.add_sub_cancel' hle, Char.ofNat_toNat] at hc
  · rw [show c.toLower = c from dif_neg hcapital]

theorem isBlank_toLower (c : Char) : isBlank c.toLower = isBlank c := apply_toLower isBlank (by decide +kernel) c

theorem isCased_toLower (c : Char) : isCased c.toLower = isCased c := apply_toLower isCased (by decide +kernel) c

theorem isCaseIgnorable_toLower (c : Char) : isCaseIgnorable c.toLower = isCaseIgnorable c :=
  apply_toLower isCaseIgnorable (by decide +kernel) c

theorem toUpper_toLower (c : Char) : c.toLower.toUpper = c.toUpper := apply_toLower Char.toUpper (by decide +kernel) c

theorem lowerChar_toLower (c : Char) : lowerChar c.toLower = lowerChar c := apply_toLower lowerChar (by decide +kernel) c

theorem toLower_eq_sigma_iff (c : Char) : c.toLower = 'Σ' ↔ c = 'Σ' :=
  Eq.to_iff (apply_toLower (· = 'Σ') (by decide +kernel) c)

/-! ### Trimming -/

theorem trimChars_pad {before after : List Char} (hbefore : ∀ c ∈ before, isBlank c = true)
    (hafter : ∀ c ∈ after, isBlank c = true) (cs : List Char) :
    trimChars (before ++ cs ++ after) = trimChars cs := by
  rw [trimChars, trimChars, List.append_assoc, List.dropWhile_append_of_pos hbefore, List.dropWhile_append]
  split
  · next hempty =>
    rw [List.isEmpty_iff] at hempty
    rw [hempty, List.dropWhile_eq_nil_iff.2 hafter]
  · rw [List.reverse_append, List.dropWhile_append_of_pos (fun c hc => hafter c (List.mem_reverse.1 hc))]

theorem trimChars_map_toLower (cs : List Char) : trimChars (cs.map Char.toLower) = (trimChars cs).map Char.toLower := by
  have hblank : isBlank ∘ Char.toLower = isBlank := funext isBlank_toLower
  rw [trimChars, List.dropWhile_map, hblank, ← List.map_reverse, List.dropWhile_map, hblank, ← List.map_reverse,
    trimChars]

/-- A trimmed text starts with the first character that is not blank. -/
theorem head?_trimChars (cs : List Char) : (trimChars cs).head? = cs.find? fun c => !isBlank c := by
  rw [List.find?_not_eq_head?_dropWhile, trimChars]
  cases hrest : cs.dropWhile isBlank with
  | nil => rfl
  | cons c rest =>
    have hc : isBlank c = false := by
      have hhead := List.head?_dropWhile_not isBlank cs
      rwa [hrest] at hhead
    rw [List.reverse_cons, List.dropWhile_append]
    split
    · rw [List.dropWhile_cons_of_neg (Bool.eq_false_iff.1 hc)]
      rfl
    · rw [List.reverse_append]
      rfl

theorem Pads.trimChars_eq {text padded : String} (h : Pads text padded) :
    trimChars padded.toList = trimChars text.toList := by
  obtain ⟨before, after, hpadded, hbefore, hafter⟩ := h
  rw [hpadded, trimChars_pad hbefore hafter]

theorem Pads.trim_eq {text padded : String} (h : Pads text padded) : trim padded = trim text :=
  congrArg String.ofList h.trimChars_eq

theorem Spells.map_trimChars_eq {text spelling : String} (h : Spells text spelling) :
    (trimChars spelling.toList).map Char.toLower = (trimChars text.toList).map Char.toLower := by
  obtain ⟨variant, hsame, hpads⟩ := h
  rw [hpads.trimChars_eq, ← trimChars_map_toLower, ← trimChars_map_toLower, ← beq_iff_eq.1 hsame]

/-! ### Case -/

theorem startsCased_map_toLower (cs : List Char) : startsCased (cs.map Char.toLower) = startsCased cs := by
  have hignorable : isCaseIgnorable ∘ Char.toLower = isCaseIgnorable := funext isCaseIgnorable_toLower
  rw [startsCased, startsCased, List.dropWhile_map, hignorable]
  cases cs.dropWhile isCaseIgnorable with
  | nil => rfl
  | cons c rest => exact isCased_toLower c

/-- Lower case does not depend on ASCII case, since what a sigma looks for around it does not either. -/
theorem lowerAfter_map_toLower (afterCased : Bool) (cs : List Char) :
    lowerAfter afterCased (cs.map Char.toLower) = lowerAfter afterCased cs := by
  induction cs generalizing afterCased with
  | nil => rfl
  | cons c cs ih =>
    rw [List.map_cons, lowerAfter, lowerAfter, ih, startsCased_map_toLower, lowerChar_toLower, isCased_toLower,
      isCaseIgnorable_toLower]
    simp only [toLower_eq_sigma_iff]

/-- All spellings of a text have the same lower case. -/
theorem Spells.lower_trim_eq {text spelling : String} (h : Spells text spelling) :
    lower (trim spelling) = lower (trim text) := by
  simp only [lower, trim, String.toList_ofList]
  rw [← lowerAfter_map_toLower, h.map_trimChars_eq, lowerAfter_map_toLower]

/-- All spellings of a text have the same ASCII upper case. -/
theorem Spells.asciiUpper_trim_eq {text spelling : String} (h : Spells text spelling) :
    asciiUpper (trim spelling) = asciiUpper (trim text) := by
  have hupper : Char.toUpper ∘ Char.toLower = Char.toUpper := funext toUpper_toLower
  simp only [asciiUpper, trim, String.toList_ofList]
  rw [← hupper, ← List.map_map, h.map_trimChars_eq, List.map_map]

/-! ### Capitals in ASCII only -/

/-- Lower case changes nothing but ASCII letters in the text. -/
def HasAsciiCase (text : String) : Prop := ∀ c ∈ text.toList, lowerChar c = [c.toLower]

theorem hasAsciiCase_of_ascii {text : String} (h : text.toList.all fun c => c.toNat < 0x80) : HasAsciiCase text :=
  fun c hc => if_pos (of_decide_eq_true (List.all_eq_true.1 h c hc))

theorem lowerAfter_eq_map {cs : List Char} (h : ∀ c ∈ cs, lowerChar c = [c.toLower]) (afterCased : Bool) :
    lowerAfter afterCased cs = cs.map Char.toLower := by
  induction cs generalizing afterCased with
  | nil => rfl
  | cons c cs ih =>
    obtain ⟨hc, hcs⟩ := List.forall_mem_cons.1 h
    have hsigma : c ≠ 'Σ' := by
      rintro rfl
      revert hc
      decide +kernel
    rw [lowerAfter, if_neg hsigma, hc, ih hcs, List.singleton_append, List.map_cons]

theorem HasAsciiCase.lower_eq {text : String} (h : HasAsciiCase text) : lower text = asciiLower text :=
  congrArg String.ofList (lowerAfter_eq_map h false)

/-- Texts with the same lower case differ in ASCII case only, if there is no other case in them. -/
theorem sameAscii_of_lower_eq {a b : String} (ha : HasAsciiCase a) (hb : HasAsciiCase b) (h : lower a = lower b) :
    sameAscii a b = true := by
  rw [sameAscii_iff, ← ha.lower_eq, ← hb.lower_eq, h]

end StationFinder.Text
