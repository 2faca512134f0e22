import Mathlib.Data.List.Infix
import StationFinder.Json.Reader

/-!
# Words in quotes

Where a word in quotes stands in the raw text of a document, there is a string in the document which is that word, or
ends in a quote and that word, as `"so-called \"word"` does (`Json.quotes_of_parse`). The word has to start
with a letter, lest a closing quote be taken for an opening one, and to be free of quotes and backslashes.

The readers are followed on the part of the text, `u`, that starts with the word in quotes. Each either passes over
its start, so that `u` is part of what the reader leaves, or finds such a string in what it reads. Only after a string
is there a third way, since `u` may start with the closing quote.

What is known of strings here also tells how a document reads whose bytes encode no text: a string with a broken
character in it is no text (`Json.joinSurrogates_of_brokenMark`).
-/

namespace StationFinder.Json

/-- A string that is a word or ends in a quote and that word. A string that escapes an unpaired surrogate may. -/
def ClosesWith (word : List Char) (content : Option String) : Prop :=
  ∀ text, content = some text → text.toList = word ∨ '"' :: word <:+ text.toList

/-- The strings of a value, those of its items and members and the names of members among them. -/
inductive Value.HasString : Value → Option String → Prop where
  | text (content : Option String) : HasString (.text content) content
  | item {items : List Value} {v : Value} {content : Option String} :
      v ∈ items → HasString v content → HasString (.list items) content
  | name {members : List (Option String × Value)} {name : Option String} {v : Value} :
      (name, v) ∈ members → HasString (.record members) name
  | member {members : List (Option String × Value)} {name : Option String} {v : Value} {content : Option String} :
      (name, v) ∈ members → HasString v content → HasString (.record members) content

theorem closesWith_some {word : List Char} {text : String} :
    ClosesWith word (some text) ↔ text.toList = word ∨ '"' :: word <:+ text.toList :=
  ⟨fun h => h text rfl, fun h _ heq => Option.some.inj heq ▸ h⟩

theorem Value.hasString_text_iff {content content' : Option String} :
    (Value.text content).HasString content' ↔ content' = content := by
  constructor
  · rintro ⟨⟩
    rfl
  · rintro rfl
    exact .text content'

theorem Value.hasString_list_iff {items : List Value} {content : Option String} :
    (Value.list items).HasString content ↔ ∃ v ∈ items, v.HasString content := by
  constructor
  · rintro (_ | ⟨hv, hstring⟩)
    exact ⟨_, hv, hstring⟩
  · rintro ⟨v, hv, hstring⟩
    exact .item hv hstring

theorem Value.hasString_record_iff {members : List (Option String × Value)} {content : Option String} :
    (Value.record members).HasString content ↔ ∃ m ∈ members, content = m.1 ∨ m.2.HasString content := by
  constructor
  · intro h
    cases h with
    | name hmem => exact ⟨_, hmem, .inl rfl⟩
    | member hmem hstring => exact ⟨_, hmem, .inr hstring⟩
  · rintro ⟨⟨name, v⟩, hmem, rfl | hstring⟩
    · exact .name hmem
    · exact .member hmem hstring

/-- A value has a string that ends in a word in this way. -/
def Value.Quotes (word : List Char) (v : Value) : Prop := ∃ content, v.HasString content ∧ ClosesWith word content

/-- A word that starts with a letter and has no quotes or backslashes. -/
structure IsWord (word : List Char) : Prop where
  starts : ∃ c rest, word = c :: rest ∧ c.isAlpha = true
  plain : ∀ c ∈ word, c ≠ '"' ∧ c ≠ '\\'

/-- A text starts with a word in quotes. -/
def StartsQuoted (word u : List Char) : Prop := '"' :: word ++ ['"'] <+: u

theorem StartsQuoted.eq_cons {word u : List Char} (h : StartsQuoted word u) :
    ∃ tail, u = '"' :: (word ++ '"' :: tail) := by
  obtain ⟨tail, rfl⟩ := h
  exact ⟨tail, by simp⟩

variable {word u : List Char}

/-! ### Between the strings -/

/-- A part of a text that starts with a quote is not cut by a step over another character. -/
theorem StartsQuoted.suffix_of_cons (hu : StartsQuoted word u) {c : Char} {cs : List Char} (hc : c ≠ '"')
    (h : u <:+ c :: cs) : u <:+ cs := by
  obtain ⟨tail, rfl⟩ := hu.eq_cons
  rcases List.suffix_cons_iff.1 h with heq | hcs
  · exact absurd (List.cons.inj heq).1.symm hc
  · exact hcs

theorem StartsQuoted.suffix_of_append (hu : StartsQuoted word u) (token : List Char) {cs : List Char}
    (htoken : '"' ∉ token) (h : u <:+ token ++ cs) : u <:+ cs := by
  induction token with
  | nil => exact h
  | cons c token ih =>
    rw [List.mem_cons, not_or] at htoken
    exact ih htoken.2 (hu.suffix_of_cons (Ne.symm htoken.1) h)

theorem StartsQuoted.suffix_skipBlanks (hu : StartsQuoted word u) {cs : List Char} (h : u <:+ cs) :
    u <:+ skipBlanks cs := by
  fun_induction skipBlanks cs with
  | case1 rest ih => exact ih (hu.suffix_of_cons (by decide) h)
  | case2 rest ih => exact ih (hu.suffix_of_cons (by decide) h)
  | case3 rest ih => exact ih (hu.suffix_of_cons (by decide) h)
  | case4 rest ih => exact ih (hu.suffix_of_cons (by decide) h)
  | case5 cs => exact h

theorem StartsQuoted.suffix_dropDigits (hu : StartsQuoted word u) {cs : List Char} (h : u <:+ cs) :
    u <:+ (readDigits cs).2 := by
  change u <:+ cs.dropWhile Char.isDigit
  induction cs with
  | nil => exact h
  | cons c cs ih =>
    rw [List.dropWhile_cons]
    split
    · next hdigit => exact ih (hu.suffix_of_cons (by rintro rfl; exact absurd hdigit (by decide)) h)
    · exact h

theorem StartsQuoted.suffix_readWholePart (hu : StartsQuoted word u) {cs rest : List Char} {digits : List Nat}
    (hread : readWholePart cs = some (digits, rest)) (h : u <:+ cs) : u <:+ rest := by
  unfold readWholePart at hread
  split at hread
  · cases hread
    exact hu.suffix_of_cons (by decide) h
  · next cs hzero =>
    have hrest := hu.suffix_dropDigits h
    split at hread
    · cases hread
    · next hdigits =>
      cases hread
      rwa [hdigits] at hrest

theorem StartsQuoted.suffix_readFraction (hu : StartsQuoted word u) {cs rest : List Char} {digits : List Nat}
    (hread : readFraction cs = some (digits, rest)) (h : u <:+ cs) : u <:+ rest := by
  unfold readFraction at hread
  split at hread
  · have hrest := hu.suffix_dropDigits (hu.suffix_of_cons (by decide) h)
    split at hread
    · cases hread
    · next hdigits =>
      cases hread
      rwa [hdigits] at hrest
  · cases hread
    exact h

theorem StartsQuoted.suffix_exponentDigits (hu : StartsQuoted word u) {cs rest : List Char} {exponent : Option Int}
    (hread : readExponent ('e' :: cs) = some (exponent, rest)) (h : u <:+ cs) : u <:+ rest := by
  simp only [readExponent] at hread
  split at hread
  · cases hread
  · next digits after _ hdigits =>
    cases hread
    have hafter := congrArg Prod.snd hdigits
    dsimp only at hafter
    rw [← hafter]
    refine hu.suffix_dropDigits ?_
    split
    · exact hu.suffix_of_cons (by decide) h
    · exact hu.suffix_of_cons (by decide) h
    · exact h

theorem StartsQuoted.suffix_readExponent (hu : StartsQuoted word u) {cs rest : List Char} {exponent : Option Int}
    (hread : readExponent cs = some (exponent, rest)) (h : u <:+ cs) : u <:+ rest := by
  by_cases hmark : ∃ after, cs = 'e' :: after ∨ cs = 'E' :: after
  · obtain ⟨after, rfl | rfl⟩ := hmark
    · exact hu.suffix_exponentDigits hread (hu.suffix_of_cons (by decide) h)
    · exact hu.suffix_exponentDigits hread (hu.suffix_of_cons (by decide) h)
  · unfold readExponent at hread
    split at hread
    · exact absurd ⟨_, .inl rfl⟩ hmark
    · exact absurd ⟨_, .inr rfl⟩ hmark
    · cases hread
      exact h

theorem StartsQuoted.suffix_readNumeral (hu : StartsQuoted word u) {cs rest : List Char} {numeral : Numeral}
    (hread : readNumeral cs = some (numeral, rest)) (h : u <:+ cs) : u <:+ rest := by
  simp only [readNumeral, Option.bind_eq_bind, Option.bind_eq_some_iff] at hread
  obtain ⟨⟨whole, afterWhole⟩, hwhole, ⟨fraction, afterFraction⟩, hfraction, ⟨exponent, afterExponent⟩, hexponent,
    heq⟩ := hread
  cases heq
  refine hu.suffix_readExponent hexponent (hu.suffix_readFraction hfraction (hu.suffix_readWholePart hwhole ?_))
  split
  · exact hu.suffix_of_cons (by decide) h
  · exact h

/-! ### Strings -/

theorem readCodes_cons {c : Char} (hc : c ≠ '"' ∧ c ≠ '\\') (before : List Nat) (cs : List Char) :
    readCodes before (c :: cs) = if c.toNat < 0x20 then none else readCodes (c.toNat :: before) cs := by
  rw [readCodes]
  · simp [hc.2]
  · exact hc.1
  · exact fun _ _ _ _ _ hslash _ => hc.2 hslash
  · exact fun _ _ hslash _ => hc.2 hslash

/-- A word is read as it stands. -/
theorem readCodes_word (hword : ∀ c ∈ word, c ≠ '"' ∧ c ≠ '\\') {before codes : List Nat} {tail rest : List Char}
    (h : readCodes before (word ++ '"' :: tail) = some (codes, rest)) :
    codes = before.reverse ++ word.map Char.toNat ∧ rest = tail := by
  induction word generalizing before with
  | nil =>
    rw [List.nil_append, readCodes] at h
    cases h
    simp
  | cons c word ih =>
    rw [List.cons_append, readCodes_cons (hword c List.mem_cons_self)] at h
    split at h
    · cases h
    · obtain ⟨rfl, rfl⟩ := ih (fun d hd => hword d (List.mem_cons_of_mem c hd)) h
      simp

/-- Inside a string a quote is escaped; a word in quotes from there on is the end of the string. -/
theorem StartsQuoted.suffix_readCodes (hu : StartsQuoted word u) (hword : IsWord word) {before codes : List Nat}
    {cs rest : List Char} (hread : readCodes before cs = some (codes, rest)) (h : u <:+ cs) :
    u <:+ '"' :: rest ∨ ∃ front, codes = front ++ ('"' :: word).map Char.toNat := by
  have hhex {c : Char} {n : Nat} (hc : hexDigit? c = some n) : c ≠ '"' := by
    rintro rfl
    cases hc
  fun_induction readCodes before cs with
  | case1 before rest =>
    cases hread
    exact .inl h
  | case2 before a b c d rest _ _ _ _ hd hc hb ha ih =>
    refine ih hread (hu.suffix_of_cons (hhex hd) (hu.suffix_of_cons (hhex hc) (hu.suffix_of_cons (hhex hb)
      (hu.suffix_of_cons (hhex ha) (hu.suffix_of_cons (by decide) (hu.suffix_of_cons (by decide) h))))))
  | case4 before e rest _ code hcode ih =>
    rcases List.suffix_cons_iff.1 (hu.suffix_of_cons (by decide) h) with heq | hrest
    · obtain ⟨tail, htail⟩ := hu.eq_cons
      rw [htail, List.cons.injEq] at heq
      obtain ⟨rfl, rfl⟩ := heq
      cases hcode
      obtain ⟨rfl, -⟩ := readCodes_word hword.plain hread
      exact .inr ⟨before.reverse, by simp⟩
    · exact ih hread hrest
  | case7 before c rest hquote _ _ _ ih => exact ih hread (hu.suffix_of_cons hquote h)
  | case3 => cases hread
  | case5 => cases hread
  | case6 => cases hread
  | case8 => cases hread

theorem joinSurrogates_of_not_high {code : Nat} (h : ¬ (decide (0xD800 ≤ code) && decide (code ≤ 0xDBFF)) = true)
    (codes : List Nat) : joinSurrogates (code :: codes) =
      if 0xDC00 ≤ code && code ≤ 0xDFFF then none else (joinSurrogates codes).map (Char.ofNat code :: ·) := by
  rw [joinSurrogates.eq_def]
  exact if_neg h

/-- A character is no half of a surrogate pair. -/
theorem joinSurrogates_cons (c : Char) (codes : List Nat) :
    joinSurrogates (c.toNat :: codes) = (joinSurrogates codes).map (c :: ·) := by
  have hvalid : c.toNat < 0xD800 ∨ 0xDFFF < c.toNat := c.valid.imp id And.left
  rw [joinSurrogates_of_not_high (by simp; omega), if_neg (by simp; omega), Char.ofNat_toNat]

theorem joinSurrogates_map_toNat (word : List Char) : joinSurrogates (word.map Char.toNat) = some word := by
  induction word with
  | nil => rfl
  | cons c word ih => rw [List.map_cons, joinSurrogates_cons, ih, Option.map_some]

theorem joinSurrogates_append (codes : List Nat) (word : List Char) :
    joinSurrogates (codes ++ word.map Char.toNat) = (joinSurrogates codes).map (· ++ word) := by
  fun_induction joinSurrogates codes with
  | case1 => exact joinSurrogates_map_toNat word
  | case2 high hhigh low codes hlow ih =>
    rw [List.cons_append, List.cons_append, joinSurrogates, if_pos hhigh]
    simp [hlow, ih, Option.map_map, Function.comp_def]
  | case3 high hhigh low codes hlow =>
    rw [List.cons_append, List.cons_append, joinSurrogates, if_pos hhigh]
    simp [hlow]
  | case4 high hhigh =>
    cases word with
    | nil => simp [joinSurrogates, hhigh]
    | cons c word =>
      have hvalid : c.toNat < 0xD800 ∨ 0xDFFF < c.toNat := c.valid.imp id And.left
      rw [List.map_cons, List.cons_append, List.nil_append, joinSurrogates, if_pos hhigh]
      simp only [Option.map_none, ite_eq_right_iff]
      simp
      omega
  | case5 code codes hhigh hlow => rw [List.cons_append, joinSurrogates_of_not_high hhigh, if_pos hlow, Option.map_none]
  | case6 code codes hhigh hlow ih =>
    rw [List.cons_append, joinSurrogates_of_not_high hhigh, if_neg hlow, ih, Option.map_map, Option.map_map]
    rfl

/-- A string that starts before a word in quotes ends at its start, or else with the word. -/
theorem StartsQuoted.suffix_readText (hu : StartsQuoted word u) (hword : IsWord word) {cs rest : List Char}
    {content : Option String} (hread : readText cs = some (content, rest)) (h : u <:+ '"' :: cs) :
    u <:+ '"' :: rest ∨ ClosesWith word content := by
  obtain ⟨⟨codes, left⟩, hcodes, heq⟩ := Option.map_eq_some_iff.1 hread
  cases heq
  rcases List.suffix_cons_iff.1 h with rfl | hcs
  · obtain ⟨tail, htail⟩ := hu.eq_cons
    rw [List.cons.injEq] at htail
    obtain ⟨-, rfl⟩ := htail
    obtain ⟨rfl, -⟩ := readCodes_word hword.plain hcodes
    refine .inr fun text htext => .inl ?_
    rw [List.reverse_nil, List.nil_append, joinSurrogates_map_toNat, Option.map_some, Option.some.injEq] at htext
    rw [← htext, String.toList_ofList]
  · refine (hu.suffix_readCodes hword hcodes hcs).imp id ?_
    rintro ⟨front, rfl⟩ text htext
    rw [joinSurrogates_append, Option.map_map, Option.map_eq_some_iff] at htext
    obtain ⟨chars, -, rfl⟩ := htext
    exact .inr ⟨chars, by simp⟩

/-! ### Values -/

/-- The closing quote of a string does not start a word in quotes, since no letter follows it. -/
theorem StartsQuoted.suffix_of_skipBlanks (hu : StartsQuoted word u) (hword : IsWord word) {cs : List Char}
    (h : u <:+ '"' :: cs) (hnext : ∀ c ∈ (skipBlanks cs).head?, c.isAlpha = false) : u <:+ skipBlanks cs := by
  rcases List.suffix_cons_iff.1 h with rfl | hcs
  · obtain ⟨tail, htail⟩ := hu.eq_cons
    obtain ⟨c, word, rfl, hc⟩ := hword.starts
    rw [List.cons.injEq] at htail
    obtain ⟨-, rfl⟩ := htail
    have hskip : skipBlanks (c :: word ++ '"' :: tail) = c :: word ++ '"' :: tail := by
      rw [List.cons_append, skipBlanks]
      all_goals
        intro rest heq
        cases (List.cons.inj heq).1
        exact absurd hc (by decide)
    rw [hskip] at hnext
    rw [hnext c rfl] at hc
    cases hc
  · exact hu.suffix_skipBlanks hcs

/-- A separator behind a value is passed over. -/
theorem StartsQuoted.suffix_of_separator (hu : StartsQuoted word u) (hword : IsWord word) {cs rest : List Char}
    {c : Char} (hnext : skipBlanks cs = c :: rest) (hc : c.isAlpha = false ∧ c ≠ '"') (h : u <:+ '"' :: cs) :
    u <:+ rest := by
  have hskip := hu.suffix_of_skipBlanks hword h (by simp [hnext, hc.1])
  rw [hnext] at hskip
  exact hu.suffix_of_cons hc.2 hskip

theorem Value.Quotes.list {items : List Value} {v : Value} (h : v.Quotes word) (hv : v ∈ items) :
    (Value.list items).Quotes word :=
  h.imp fun _ hcontent => ⟨.item hv hcontent.1, hcontent.2⟩

theorem Value.Quotes.record {members : List (Option String × Value)} {name : Option String} {v : Value}
    (h : v.Quotes word) (hv : (name, v) ∈ members) : (Value.record members).Quotes word :=
  h.imp fun _ hcontent => ⟨.member hv hcontent.1, hcontent.2⟩

/-- The items that were read already are items of the list. -/
theorem exists_items {fuel : Nat} {before : List Value} {cs rest : List Char} {v : Value}
    (h : readItems fuel before cs = some (v, rest)) : ∃ items, v = .list items ∧ before ⊆ items := by
  induction fuel generalizing before cs with
  | zero => cases h
  | succ fuel ih =>
    rw [readItems] at h
    split at h
    · cases h
    · next item after _ =>
      split at h
      · obtain ⟨items, hv, hsub⟩ := ih h
        exact ⟨items, hv, List.Subset.trans (List.subset_cons_self item before) hsub⟩
      · cases h
        exact ⟨_, rfl, fun w hw => List.mem_reverse.2 (List.mem_cons_of_mem item hw)⟩
      · cases h

/-- The members that were read already are members of the record. -/
theorem exists_members {fuel : Nat} {before : List (Option String × Value)} {cs rest : List Char} {v : Value}
    (h : readMembers fuel before cs = some (v, rest)) : ∃ members, v = .record members ∧ before ⊆ members := by
  induction fuel generalizing before cs with
  | zero => cases h
  | succ fuel ih =>
    rw [readMembers] at h
    split at h
    · split at h
      · cases h
      · next name afterName _ =>
        split at h
        · split at h
          · cases h
          · next value after _ =>
            split at h
            · obtain ⟨members, hv, hsub⟩ := ih h
              exact ⟨members, hv, List.Subset.trans (List.subset_cons_self (name, value) before) hsub⟩
            · cases h
              exact ⟨_, rfl, fun w hw => List.mem_reverse.2 (List.mem_cons_of_mem (name, value) hw)⟩
            · cases h
        · cases h
    · cases h

/-- A part of the text that starts with a word in quotes is passed over, or the word is found in what is read. -/
structure Passes (word : List Char) (fuel : Nat) : Prop where
  value : ∀ {u cs rest : List Char} {v : Value}, StartsQuoted word u → u <:+ cs →
    readValue fuel cs = some (v, rest) → u <:+ '"' :: rest ∨ v.Quotes word
  items : ∀ {u cs rest : List Char} {before : List Value} {v : Value}, StartsQuoted word u → u <:+ cs →
    readItems fuel before cs = some (v, rest) → u <:+ rest ∨ v.Quotes word
  members : ∀ {u cs rest : List Char} {before : List (Option String × Value)} {v : Value}, StartsQuoted word u →
    u <:+ cs → readMembers fuel before cs = some (v, rest) → u <:+ rest ∨ v.Quotes word

theorem Passes.value_succ {fuel : Nat} (hword : IsWord word) (ih : Passes word fuel) {cs rest : List Char} {v : Value}
    (hu : StartsQuoted word u) (h : u <:+ cs) (hread : readValue (fuel + 1) cs = some (v, rest)) :
    u <:+ '"' :: rest ∨ v.Quotes word := by
  have hpassed {rest : List Char} (h : u <:+ rest) : u <:+ '"' :: rest := h.trans (List.suffix_cons '"' rest)
  have hskip := hu.suffix_skipBlanks h
  rw [readValue] at hread
  split at hread
  · next heq =>
    cases hread
    rw [heq] at hskip
    exact .inl (hpassed (hu.suffix_of_append ['n', 'u', 'l', 'l'] (by decide) hskip))
  · next heq =>
    cases hread
    rw [heq] at hskip
    exact .inl (hpassed (hu.suffix_of_append ['t', 'r', 'u', 'e'] (by decide) hskip))
  · next heq =>
    cases hread
    rw [heq] at hskip
    exact .inl (hpassed (hu.suffix_of_append ['f', 'a', 'l', 's', 'e'] (by decide) hskip))
  · next heq =>
    obtain ⟨⟨content, after⟩, htext, hv⟩ := Option.map_eq_some_iff.1 hread
    cases hv
    rw [heq] at hskip
    exact (hu.suffix_readText hword htext hskip).imp id fun hcontent => ⟨content, .text content, hcontent⟩
  · next heq =>
    rw [heq] at hskip
    have hinside := hu.suffix_skipBlanks (hu.suffix_of_cons (by decide) hskip)
    split at hread
    · next hclosed =>
      cases hread
      rw [hclosed] at hinside
      exact .inl (hpassed (hu.suffix_of_cons (by decide) hinside))
    · exact (ih.items hu hinside hread).imp hpassed id
  · next heq =>
    rw [heq] at hskip
    have hinside := hu.suffix_skipBlanks (hu.suffix_of_cons (by decide) hskip)
    split at hread
    · next hclosed =>
      cases hread
      rw [hclosed] at hinside
      exact .inl (hpassed (hu.suffix_of_cons (by decide) hinside))
    · exact (ih.members hu hinside hread).imp hpassed id
  · obtain ⟨⟨numeral, after⟩, hnumeral, hv⟩ := Option.map_eq_some_iff.1 hread
    cases hv
    exact .inl (hpassed (hu.suffix_readNumeral hnumeral hskip))

theorem Passes.items_succ {fuel : Nat} (hword : IsWord word) (ih : Passes word fuel) {cs rest : List Char}
    {before : List Value} {v : Value} (hu : StartsQuoted word u) (h : u <:+ cs)
    (hread : readItems (fuel + 1) before cs = some (v, rest)) : u <:+ rest ∨ v.Quotes word := by
  rw [readItems] at hread
  split at hread
  · cases hread
  · next item after hitem =>
    split at hread
    · next after' hnext =>
      rcases ih.value hu h hitem with hafter | hfound
      · exact ih.items hu (hu.suffix_of_separator hword hnext (by decide) hafter) hread
      · obtain ⟨items, rfl, hsub⟩ := exists_items hread
        exact .inr (hfound.list (hsub List.mem_cons_self))
    · next after' hnext =>
      cases hread
      rcases ih.value hu h hitem with hafter | hfound
      · exact .inl (hu.suffix_of_separator hword hnext (by decide) hafter)
      · exact .inr (hfound.list (List.mem_reverse.2 List.mem_cons_self))
    · cases hread

theorem Passes.members_succ {fuel : Nat} (hword : IsWord word) (ih : Passes word fuel) {cs rest : List Char}
    {before : List (Option String × Value)} {v : Value} (hu : StartsQuoted word u) (h : u <:+ cs)
    (hread : readMembers (fuel + 1) before cs = some (v, rest)) : u <:+ rest ∨ v.Quotes word := by
  have hskip := hu.suffix_skipBlanks h
  rw [readMembers] at hread
  split at hread
  · next heq =>
    rw [heq] at hskip
    split at hread
    · cases hread
    · next name afterName hname =>
      split at hread
      · next afterColon hcolon =>
        split at hread
        · cases hread
        · next value after hvalue =>
          -- The word is in the name, in the value or behind both.
          have hmember : u <:+ '"' :: after ∨ ClosesWith word name ∨ value.Quotes word := by
            rcases hu.suffix_readText hword hname hskip with hafterName | hfound
            · exact (ih.value hu (hu.suffix_of_separator hword hcolon (by decide) hafterName) hvalue).imp id .inr
            · exact .inr (.inl hfound)
          have hfound {members : List (Option String × Value)} (hmem : (name, value) ∈ members) :
              ClosesWith word name ∨ value.Quotes word → (Value.record members).Quotes word :=
            fun h => h.elim (fun hname => ⟨name, .name hmem, hname⟩) fun hvalue => hvalue.record hmem
          split at hread
          · next after' hnext =>
            obtain ⟨members, rfl, hsub⟩ := exists_members hread
            rcases hmember with hafter | hmember
            · exact ih.members hu (hu.suffix_of_separator hword hnext (by decide) hafter) hread
            · exact .inr (hfound (hsub List.mem_cons_self) hmember)
          · next after' hnext =>
            cases hread
            rcases hmember with hafter | hmember
            · exact .inl (hu.suffix_of_separator hword hnext (by decide) hafter)
            · exact .inr (hfound (List.mem_reverse.2 List.mem_cons_self) hmember)
          · cases hread
      · cases hread
  · cases hread

theorem passes (hword : IsWord word) (fuel : Nat) : Passes word fuel := by
  induction fuel with
  | zero => exact ⟨nofun, nofun, nofun⟩
  | succ fuel ih => exact ⟨ih.value_succ hword, ih.items_succ hword, ih.members_succ hword⟩

/-- **A word in quotes comes from a string.** If a word in quotes stands in a document then one of its strings is the
word or ends in a quote and the word. -/
theorem quotes_of_parse {document : String} {v : Value} (h : parse document = some v) (hword : IsWord word)
    (hin : '"' :: word ++ ['"'] <:+: document.toList) : v.Quotes word := by
  obtain ⟨front, tail, happend⟩ := hin
  have hu : StartsQuoted word ('"' :: word ++ ['"'] ++ tail) := List.prefix_append _ tail
  have hsuffix : '"' :: word ++ ['"'] ++ tail <:+ document.toList := ⟨front, by simpa using happend⟩
  simp only [parse] at h
  split at h
  · next value rest hvalue =>
    split at h
    · next hempty =>
      cases h
      rw [List.isEmpty_iff] at hempty
      refine ((passes hword _).value hu hsuffix hvalue).resolve_left fun hrest => ?_
      have hnothing := hu.suffix_of_skipBlanks hword hrest (by simp [hempty])
      rw [hempty, List.suffix_nil] at hnothing
      cases hnothing
    · cases h
  · cases h

/-! ### Broken characters -/

theorem exists_append_of_readCodes {before codes : List Nat} {cs rest : List Char}
    (h : readCodes before cs = some (codes, rest)) : ∃ more, codes = before.reverse ++ more := by
  -- Each call of the reader that goes on has one more code before it.
  have hnext {before : List Nat} {code : Nat} :
      (∃ more, codes = (code :: before).reverse ++ more) → ∃ more, codes = before.reverse ++ more := by
    rintro ⟨more, rfl⟩
    exact ⟨code :: more, by simp⟩
  fun_induction readCodes before cs with
  | case1 before rest' =>
    cases h
    exact ⟨[], (List.append_nil _).symm⟩
  | case2 before a b c d cs a' b' c' d' h1 h2 h3 h4 ih => exact hnext (ih h)
  | case4 before e cs hu code hcode ih => exact hnext (ih h)
  | case7 before c cs h1 h2 h3 h4 ih => exact hnext (ih h)
  | _ => cases h

theorem joinSurrogates_append_broken (front back : List Nat) :
    joinSurrogates (front ++ 0x20 :: 0xDC00 :: back) = none := by
  fun_induction joinSurrogates front with
  | case1 =>
    rw [List.nil_append, joinSurrogates_of_not_high (by decide), joinSurrogates_of_not_high (by decide)]
    rfl
  | case2 high hhigh low codes hlow ih => simp_all [joinSurrogates]
  | case3 high hhigh low codes hlow =>
    rw [List.cons_append, List.cons_append, joinSurrogates, if_pos hhigh]
    exact if_neg hlow
  | case4 high hhigh => simp [joinSurrogates, hhigh]
  | case5 code codes hhigh hlow => rw [List.cons_append, joinSurrogates_of_not_high hhigh, if_pos hlow]
  | case6 code codes hhigh hlow ih =>
    rw [List.cons_append, joinSurrogates_of_not_high hhigh, if_neg hlow, ih, Option.map_none]

/-- A string with a broken character in it is no text. -/
theorem joinSurrogates_of_brokenMark {before codes : List Nat} {cs rest : List Char}
    (h : readCodes before (brokenMark.toList ++ cs) = some (codes, rest)) : joinSurrogates codes = none := by
  have hmark : readCodes before (brokenMark.toList ++ cs) = readCodes (0xDC00 :: 0x20 :: before) cs := rfl
  obtain ⟨more, rfl⟩ := exists_append_of_readCodes (hmark.symm.trans h)
  rw [List.reverse_cons, List.reverse_cons, List.append_assoc, List.append_assoc]
  exact joinSurrogates_append_broken before.reverse more

/-- After a backslash there is no string at all. -/
example : (parseBytes ⟨#[0x22, 0xFF, 0x22]⟩).isSome ∧ (parseBytes ⟨#[0x22, 0x5C, 0xFF, 0x22]⟩).isNone := by
  decide +kernel

end StationFinder.Json
