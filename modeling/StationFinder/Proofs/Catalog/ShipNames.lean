import StationFinder.Proofs.Text.Fragments
import StationFinder.Proofs.Text.Spelling
import StationFinder.Ship

/-!
# The names of ships

A name from outside is trimmed first and freed of dots after that. The two steps do not commute: a dot on the far side
of a blank keeps the blank from being trimmed off, and no ship goes by a name with a blank at an end. So a text that
leads to a ship leads to it in any ASCII letter case, with blanks around it and with dots in it, just as long as none of
the dots stands among the blanks at the ends (`Text.DotsInside`); with such a dot it leads nowhere.

No two ships go by the same name, since all that a ship goes by has the same lower case as one of its spellings
(`Ship.lower_mem_spellings`), and the spellings of different ships are different. Together this is
`Ship.names_are_unambiguous`.
-/

namespace StationFinder

namespace Text

/-! ### Texts without blanks at their ends -/

/-- Neither the first nor the last character is blank. -/
def IsTrimmed (cs : List Char) : Prop :=
  (∀ c, cs.head? = some c → isBlank c = false) ∧ ∀ c, cs.getLast? = some c → isBlank c = false

theorem dropWhile_isBlank_eq_self {cs : List Char} (h : ∀ c, cs.head? = some c → isBlank c = false) :
    cs.dropWhile isBlank = cs := by
  cases cs with
  | nil => rfl
  | cons c cs => exact List.dropWhile_cons_of_neg (by simp [h c rfl])

theorem trimChars_eq_self {cs : List Char} (h : IsTrimmed cs) : trimChars cs = cs := by
  have hlast : ∀ c, cs.reverse.head? = some c → isBlank c = false := by simpa using h.2
  rw [trimChars, dropWhile_isBlank_eq_self h.1, dropWhile_isBlank_eq_self hlast, List.reverse_reverse]

/-- Around the trimmed characters there are blanks only. -/
theorem exists_trimChars (cs : List Char) : ∃ before after, cs = before ++ trimChars cs ++ after ∧
    (∀ c ∈ before, isBlank c = true) ∧ ∀ c ∈ after, isBlank c = true := by
  have htail (ds : List Char) :
      ds = (ds.reverse.dropWhile isBlank).reverse ++ (ds.reverse.takeWhile isBlank).reverse := by
    rw [← List.reverse_append, List.takeWhile_append_dropWhile, List.reverse_reverse]
  refine ⟨cs.takeWhile isBlank, ((cs.dropWhile isBlank).reverse.takeWhile isBlank).reverse, ?_, ?_, ?_⟩
  · rw [trimChars, List.append_assoc, ← htail, List.takeWhile_append_dropWhile]
  · exact fun c hc => List.mem_takeWhile_imp hc
  · exact fun c hc => List.mem_takeWhile_imp (List.mem_reverse.1 hc)

/-! ### Dots -/

/-- Characters with dots put in, at any places. -/
inductive Dotted : List Char → List Char → Prop where
  | nil : Dotted [] []
  | keep (c : Char) {cs ds : List Char} : Dotted cs ds → Dotted (c :: cs) (c :: ds)
  | dot {cs ds : List Char} : Dotted cs ds → Dotted cs ('.' :: ds)

/-- The characters other than dots. -/
def undotted (cs : List Char) : List Char := cs.filter (· ≠ '.')

theorem Dotted.refl (cs : List Char) : Dotted cs cs := by
  induction cs with
  | nil => exact .nil
  | cons c cs ih => exact .keep c ih

theorem Dotted.undotted_eq {cs ds : List Char} (h : Dotted cs ds) : undotted ds = undotted cs := by
  induction h with
  | nil => rfl
  | keep c _ ih => simp only [undotted, List.filter_cons] at ih ⊢; rw [ih]
  | dot _ ih => simpa [undotted] using ih

theorem undotted_append (cs ds : List Char) : undotted (cs ++ ds) = undotted cs ++ undotted ds := List.filter_append ..

theorem undotted_of_blank {cs : List Char} (h : ∀ c ∈ cs, isBlank c = true) : undotted cs = cs := by
  refine List.filter_eq_self.2 fun c hc => ?_
  have hne : c ≠ '.' := by
    rintro rfl
    exact absurd (h '.' hc) (by decide)
  simpa using hne

theorem undotted_map_toLower (cs : List Char) : undotted (cs.map Char.toLower) = (undotted cs).map Char.toLower := by
  have hdot (c : Char) : c.toLower = '.' ↔ c = '.' := Eq.to_iff (apply_toLower (· = '.') (by decide) c)
  simp only [undotted, List.filter_map, Function.comp_def, ne_eq, hdot]

/-- A first character that is blank is there without the dots as well. -/
theorem head?_of_undotted {cs : List Char} (h : ∀ c, (undotted cs).head? = some c → isBlank c = false) :
    ∀ c, cs.head? = some c → isBlank c = false := by
  cases cs with
  | nil => nofun
  | cons d cs =>
    intro c hc
    obtain rfl := Option.some.inj hc
    by_cases hdot : d = '.'
    · rw [hdot]
      decide
    · exact h d (by simp [undotted, hdot])

theorem IsTrimmed.of_undotted {cs : List Char} (h : IsTrimmed (undotted cs)) : IsTrimmed cs := by
  refine ⟨head?_of_undotted h.1, ?_⟩
  have hlast : ∀ c, (undotted cs.reverse).head? = some c → isBlank c = false := by
    simpa [undotted, List.filter_reverse] using h.2
  simpa using head?_of_undotted hlast

/-- No dot of the text stands among the blanks at its ends: between these blanks is a part whose first and last
characters, dots aside, are not blank. -/
def DotsInside (text : String) : Prop :=
  ∃ before inner after, text.toList = before ++ inner ++ after ∧ (∀ c ∈ before, isBlank c = true) ∧
    (∀ c ∈ after, isBlank c = true) ∧ IsTrimmed (undotted inner)

/-- With its dots inside, it makes no difference whether a text is trimmed before they are removed or after that. -/
theorem DotsInside.undotted_trimChars {text : String} (h : DotsInside text) :
    undotted (trimChars text.toList) = trimChars (undotted text.toList) := by
  obtain ⟨before, inner, after, htext, hbefore, hafter, hinner⟩ := h
  rw [htext, trimChars_pad hbefore hafter, trimChars_eq_self hinner.of_undotted, undotted_append, undotted_append,
    undotted_of_blank hbefore, undotted_of_blank hafter, trimChars_pad hbefore hafter, trimChars_eq_self hinner]

theorem dotsInside_of_isTrimmed {text : String} (h : IsTrimmed (undotted (trimChars text.toList))) :
    DotsInside text := by
  obtain ⟨before, after, htext, hbefore, hafter⟩ := exists_trimChars text.toList
  exact ⟨before, _, after, htext, hbefore, hafter, h⟩

/-- A text in any ASCII letter case, with blanks around it, and with dots put in at any places. -/
def Restyles (text restyled : String) : Prop :=
  ∃ spelling, Spells text spelling ∧ Dotted spelling.toList restyled.toList

/-- Up to ASCII case, a restyled text is the same once its dots are removed and it is trimmed after that. -/
theorem Restyles.map_trimChars_undotted {text restyled : String} (h : Restyles text restyled) :
    (trimChars (undotted restyled.toList)).map Char.toLower = (trimChars (undotted text.toList)).map Char.toLower := by
  obtain ⟨spelling, ⟨variant, hsame, before, after, hspelling, hbefore, hafter⟩, hdotted⟩ := h
  rw [hdotted.undotted_eq, hspelling, undotted_append, undotted_append, undotted_of_blank hbefore,
    undotted_of_blank hafter, trimChars_pad hbefore hafter, ← trimChars_map_toLower, ← trimChars_map_toLower,
    ← undotted_map_toLower, ← undotted_map_toLower, ← beq_iff_eq.1 hsame]

/-! ### Lower case -/

theorem lower_eq_of_sameAscii {a b : String} (h : sameAscii a b = true) : lower a = lower b := by
  rw [lower, lower, ← lowerAfter_map_toLower, beq_iff_eq.1 h, lowerAfter_map_toLower]

/-- Lower case leaves blanks as they are. -/
theorem lowerAfter_blank {c : Char} (h : isBlank c = true) (afterCased : Bool) (cs : List Char) :
    ∃ afterCased', lowerAfter afterCased (c :: cs) = c :: lowerAfter afterCased' cs := by
  have hcode : c.toNat ∈ [0x9, 0xA, 0xB, 0xC, 0xD, 0x20, 0x85, 0xA0, 0x1680, 0x2000, 0x2001, 0x2002, 0x2003, 0x2004,
      0x2005, 0x2006, 0x2007, 0x2008, 0x2009, 0x200A, 0x2028, 0x2029, 0x202F, 0x205F, 0x3000] := by
    simp only [isBlank, Bool.or_eq_true, Bool.and_eq_true, decide_eq_true_eq, beq_iff_eq] at h
    simp only [List.mem_cons, List.not_mem_nil]
    omega
  obtain ⟨hsigma, hlower⟩ : c ≠ 'Σ' ∧ lowerChar c = [c] := by
    rw [← Char.ofNat_toNat c]
    revert hcode
    generalize c.toNat = n
    revert n
    decide +kernel
  exact ⟨_, by rw [lowerAfter, if_neg hsigma, hlower, List.singleton_append]⟩

/-- A blank at an end is there in lower case as well. -/
theorem IsTrimmed.of_lower {text : String} (h : IsTrimmed (lower text).toList) : IsTrimmed text.toList := by
  rw [lower, String.toList_ofList] at h
  generalize text.toList = cs at h
  constructor
  · intro c hc
    obtain ⟨rest, rfl⟩ := List.head?_eq_some_iff.1 hc
    by_contra hblank
    obtain ⟨afterCased, hlower⟩ := lowerAfter_blank (by simpa using hblank) false rest
    exact hblank (h.1 c (by rw [hlower, List.head?_cons]))
  · intro c hc
    obtain ⟨rest, rfl⟩ := List.getLast?_eq_some_iff.1 hc
    by_contra hblank
    obtain ⟨afterCased, hlower⟩ := lowerAfter_blank (by simpa using hblank) (casedAfter false rest) []
    exact hblank (h.2 c (by rw [lowerAfter_append, hlower, lowerAfter, List.getLast?_concat]))

end Text

namespace Ship

open Text

/-! ### What a ship goes by -/

/-- The display name in lower case, and the other spellings. -/
def spellings (s : Ship) : List String := lower s.name :: s.aliases

/-- The spellings of different ships are different. -/
theorem eq_of_mem_spellings {a b : Ship} {spelling : String} (ha : spelling ∈ a.spellings)
    (hb : spelling ∈ b.spellings) : a = b := by
  have hall : ∀ a ∈ all, ∀ spelling ∈ a.spellings, ∀ b ∈ all, spelling ∈ b.spellings → a = b := by decide +kernel
  exact hall a (mem_all a) spelling ha b (mem_all b) hb

theorem isTrimmed_of_mem_spellings {s : Ship} {spelling : String} (h : spelling ∈ s.spellings) :
    IsTrimmed spelling.toList := by
  have hall : ∀ s ∈ all, ∀ spelling ∈ s.spellings, spelling.toList.head?.all (!isBlank ·) = true ∧
      spelling.toList.getLast?.all (!isBlank ·) = true := by decide +kernel
  obtain ⟨hhead, hlast⟩ := hall s (mem_all s) spelling h
  exact ⟨fun c hc => by simpa [hc] using hhead, fun c hc => by simpa [hc] using hlast⟩

/-- All that a ship goes by is one of its spellings in lower case. -/
theorem lower_mem_spellings {s : Ship} {name : String} (h : s.goesBy name = true) : lower name ∈ s.spellings := by
  rcases Bool.or_eq_true_iff.1 h with hname | halias
  · rw [← lower_eq_of_sameAscii hname]
    exact List.mem_cons_self
  · exact List.mem_cons_of_mem _ (List.contains_iff_mem.1 halias)

theorem eq_of_goesBy {a b : Ship} {name : String} (ha : a.goesBy name = true) (hb : b.goesBy name = true) : a = b :=
  eq_of_mem_spellings (lower_mem_spellings ha) (lower_mem_spellings hb)

/-- Whoever goes by a name is found by it, in any order. -/
theorem find?_goesBy_eq_some_iff {ships : List Ship} (hall : ∀ s, s ∈ ships) {name : String} {s : Ship} :
    ships.find? (·.goesBy name) = some s ↔ s.goesBy name = true := by
  have hgoesBy {s : Ship} (hs : ships.find? (·.goesBy name) = some s) : s.goesBy name = true := by
    simpa using List.find?_some hs
  refine ⟨hgoesBy, fun h => ?_⟩
  cases hfound : ships.find? (·.goesBy name) with
  | none => exact absurd h (List.find?_eq_none.1 hfound s (hall s))
  | some found => rw [eq_of_goesBy (hgoesBy hfound) h]

theorem goesBy_congr {name name' : String} (h : sameAscii name name' = true) (s : Ship) :
    s.goesBy name = s.goesBy name' := by
  rw [goesBy, goesBy, lower_eq_of_sameAscii h, sameAscii, sameAscii, beq_iff_eq.1 h]

/-! ### Names from outside -/

theorem parse_eq_ok_iff_goesBy {text : String} {s : Ship} : parse text = .ok s ↔ s.goesBy (normalize text) = true := by
  rw [← find?_goesBy_eq_some_iff mem_all, parse]
  split <;> simp [*]

theorem parse_eq_error_iff {text : String} {fault : Fault} :
    parse text = .error fault ↔ fault = .unknownShip (normalize text) ∧ ∀ s, parse text ≠ .ok s := by
  cases hparse : parse text with
  | ok s => exact iff_of_false nofun fun h => h.2 s rfl
  | error other =>
    have hother : other = .unknownShip (normalize text) := by
      rw [parse] at hparse
      split at hparse
      · cases hparse
      · exact (Except.error.inj hparse).symm
    simp [hother, eq_comm]

/-- A text leads to a ship only with its dots inside. -/
theorem dotsInside_of_parse {text : String} {s : Ship} (h : parse text = .ok s) : DotsInside text := by
  refine dotsInside_of_isTrimmed ?_
  have htrimmed := (isTrimmed_of_mem_spellings (lower_mem_spellings (parse_eq_ok_iff_goesBy.1 h))).of_lower
  rwa [normalize, String.toList_ofList] at htrimmed

theorem normalize_eq {text : String} (h : DotsInside text) :
    normalize text = String.ofList (trimChars (undotted text.toList)) := congrArg String.ofList h.undotted_trimChars

theorem parse_restyled_iff {text restyled : String} {s : Ship} (h : parse text = .ok s)
    (hrestyled : Restyles text restyled) : parse restyled = .ok s ↔ DotsInside restyled := by
  refine ⟨dotsInside_of_parse, fun hinside => ?_⟩
  have hsame : sameAscii (normalize text) (normalize restyled) = true := by
    rw [sameAscii, normalize_eq hinside, normalize_eq (dotsInside_of_parse h), String.toList_ofList,
      String.toList_ofList, hrestyled.map_trimChars_undotted, beq_self_eq_true]
  rw [parse_eq_ok_iff_goesBy, ← goesBy_congr hsame]
  exact parse_eq_ok_iff_goesBy.1 h

/-- **Names lead to one ship.** No two ships go by the same name, so the order in which the ships are tried makes no
difference. A text that leads to a ship leads to it in any ASCII letter case, with blanks around it and dots put in at
any places, exactly if no dot stands among the blanks at the ends; with such a dot it leads to no ship at all, and is
reported without its dots. -/
theorem names_are_unambiguous :
    (∀ name a b, goesBy a name = true → goesBy b name = true → a = b) ∧
    (∀ ships : List Ship, ships.Perm all → ∀ name, ships.find? (·.goesBy name) = all.find? (·.goesBy name)) ∧
    ∀ text s, parse text = .ok s → ∀ restyled, Restyles text restyled →
      (parse restyled = .ok s ↔ DotsInside restyled) ∧
      (¬ DotsInside restyled → parse restyled = .error (.unknownShip (normalize restyled))) := by
  refine ⟨fun name a b ha hb => eq_of_goesBy ha hb, ?_, ?_⟩
  · intro ships hperm name
    refine Option.ext fun s => ?_
    rw [find?_goesBy_eq_some_iff fun s => hperm.mem_iff.2 (mem_all s), find?_goesBy_eq_some_iff mem_all]
  · intro text s h restyled hrestyled
    refine ⟨parse_restyled_iff h hrestyled, fun houtside => parse_eq_error_iff.2 ⟨rfl, fun found hfound => ?_⟩⟩
    exact houtside (dotsInside_of_parse hfound)

/-- Dots beyond a blank, and dots elsewhere. -/
theorem restyled_asp : parse "Asp" = .ok aspExplorer ∧
    Restyles "Asp" " a.SP. " ∧ parse " a.SP. " = .ok aspExplorer ∧
    Restyles "Asp" " . Asp" ∧ parse " . Asp" = .error (.unknownShip " Asp") := by
  have hasp : parse "Asp" = .ok aspExplorer := by decide +kernel
  have hinside : Restyles "Asp" " a.SP. " := by
    refine ⟨" aSP ", ⟨"aSP", by decide, [' '], [' '], by decide, by simp [isBlank], by simp [isBlank]⟩, ?_⟩
    exact .keep ' ' (.keep 'a' (.dot (.keep 'S' (.keep 'P' (.dot (.keep ' ' .nil))))))
  have houtside : Restyles "Asp" " . Asp" := by
    refine ⟨"  Asp", ⟨"Asp", by decide, [' ', ' '], [], by decide, by simp [isBlank], by simp⟩, ?_⟩
    exact .keep ' ' (.dot (.refl [' ', 'A', 's', 'p']))
  obtain ⟨-, -, hrestyled⟩ := names_are_unambiguous
  obtain ⟨hfound, -⟩ := hrestyled "Asp" aspExplorer hasp " a.SP. " hinside
  obtain ⟨hlost, hreported⟩ := hrestyled "Asp" aspExplorer hasp " . Asp" houtside
  have hdots : DotsInside " a.SP. " := by
    refine ⟨[' '], ['a', '.', 'S', 'P', '.'], [' '], by decide, by simp [isBlank], by simp [isBlank], ?_⟩
    exact ⟨fun c hc => by cases hc; decide, fun c hc => by cases hc; decide⟩
  refine ⟨hasp, hinside, hfound.2 hdots, houtside, hreported fun hdots => ?_⟩
  exact absurd (hlost.2 hdots) (by decide +kernel)

/-- A dot behind the blank at the end of a name keeps it from being found. -/
theorem dot_behind_blank : parse "Adder" = .ok adder ∧ Restyles "Adder" "Adder ." ∧
    parse "Adder ." = .error (.unknownShip "Adder ") ∧
    ¬ ∀ text s restyled, parse text = .ok s → Restyles text restyled → parse restyled = .ok s := by
  have hadder : parse "Adder" = .ok adder := by decide +kernel
  have hlost : parse "Adder ." = .error (.unknownShip "Adder ") := by decide +kernel
  have hrestyled : Restyles "Adder" "Adder ." := by
    refine ⟨"Adder ", ⟨"Adder", by decide, [], [' '], by decide, by simp, by simp [isBlank]⟩, ?_⟩
    exact .keep 'A' (.keep 'd' (.keep 'd' (.keep 'e' (.keep 'r' (.keep ' ' (.dot .nil))))))
  refine ⟨hadder, hrestyled, hlost, fun h => ?_⟩
  have hfound := h "Adder" adder "Adder ." hadder hrestyled
  rw [hlost] at hfound
  cases hfound

end Ship

end StationFinder
