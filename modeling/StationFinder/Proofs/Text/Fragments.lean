import StationFinder.Text.Lower

/-!
# Lower case of fragments

What a character becomes in lower case does not depend on the characters around it, except for the capital sigma, which
looks at both sides. A fragment has the same lower case in two places exactly if each sigma of it ends a word in both or
in neither (`Text.lowerWithin_eq_iff`). One place is the fragment by itself, so a condition on its sigmas is all that it
takes for the lower case of a fragment to stand in the lower case of the text (`Text.lower_infix`). A fragment without
sigmas always meets the condition.
-/

namespace StationFinder.Text

/-- Does a cased character stand just before what follows these characters, ignorable ones passed over? `afterCased`
says whether one stands just before the characters themselves. -/
def casedAfter (afterCased : Bool) (cs : List Char) : Bool :=
  cs.foldl (fun afterCased c => if isCaseIgnorable c then afterCased else isCased c) afterCased

/-- Would a sigma between two texts end a word? -/
def endsWord (before after : List Char) : Bool := casedAfter false before && !startsCased after

/-- Characters in lower case as they stand in a text with other characters behind them; `afterCased` says whether a
cased character stands just before them. -/
def lowerWithin (afterCased : Bool) : List Char → List Char → List Char
  | [], _ => []
  | c :: rest, behind =>
    (if c = 'Σ' then [if afterCased && !startsCased (rest ++ behind) then 'ς' else 'σ'] else lowerChar c) ++
      lowerWithin (if isCaseIgnorable c then afterCased else isCased c) rest behind

variable {afterCased afterCased' : Bool} {cs behind behind' : List Char}

theorem casedAfter_append (before cs : List Char) :
    casedAfter (casedAfter afterCased before) cs = casedAfter afterCased (before ++ cs) := by
  rw [casedAfter, casedAfter, casedAfter, List.foldl_append]

/-! ### A text in pieces -/

theorem lowerWithin_nil (afterCased : Bool) (cs : List Char) :
    lowerWithin afterCased cs [] = lowerAfter afterCased cs := by
  induction cs generalizing afterCased with
  | nil => rfl
  | cons c cs ih => rw [lowerWithin, lowerAfter, ih, List.append_nil]

/-- The lower case of a text is that of its pieces, each where it stands. -/
theorem lowerAfter_append (afterCased : Bool) (cs behind : List Char) :
    lowerAfter afterCased (cs ++ behind) =
      lowerWithin afterCased cs behind ++ lowerAfter (casedAfter afterCased cs) behind := by
  induction cs generalizing afterCased with
  | nil => rfl
  | cons c cs ih =>
    rw [List.cons_append, lowerAfter, ih, lowerWithin, List.append_assoc]
    rfl

/-! ### A piece in two places -/

theorem length_lowerWithin (afterCased afterCased' : Bool) (cs behind behind' : List Char) :
    (lowerWithin afterCased cs behind).length = (lowerWithin afterCased' cs behind').length := by
  induction cs generalizing afterCased afterCased' with
  | nil => rfl
  | cons c cs ih =>
    rw [lowerWithin, lowerWithin, List.length_append, List.length_append, ih]
    split <;> rfl

/-- One character has the same lower case twice, unless it is a sigma that ends a word only once. -/
theorem lowerHead_eq_iff (c : Char) (ends ends' : Bool) :
    (if c = 'Σ' then [if ends then 'ς' else 'σ'] else lowerChar c) =
        (if c = 'Σ' then [if ends' then 'ς' else 'σ'] else lowerChar c) ↔
      (c = 'Σ' → ends = ends') := by
  by_cases hc : c = 'Σ'
  · rw [if_pos hc, if_pos hc, forall_prop_of_true hc]
    cases ends <;> cases ends' <;> simp
  · simp [hc]

/-- **Only sigmas look around.** A piece has the same lower case in two places exactly if each sigma of it ends a word
in both of them or in neither. -/
theorem lowerWithin_eq_iff :
    lowerWithin afterCased cs behind = lowerWithin afterCased' cs behind' ↔
      ∀ before after, cs = before ++ 'Σ' :: after →
        (casedAfter afterCased before && !startsCased (after ++ behind)) =
          (casedAfter afterCased' before && !startsCased (after ++ behind')) := by
  induction cs generalizing afterCased afterCased' with
  | nil => simp [lowerWithin]
  | cons c cs ih =>
    have hlength := length_lowerWithin
      (if isCaseIgnorable c then afterCased else isCased c) (if isCaseIgnorable c then afterCased' else isCased c)
      cs behind behind'
    have hhead := lowerHead_eq_iff c
      (afterCased && !startsCased (cs ++ behind)) (afterCased' && !startsCased (cs ++ behind'))
    rw [lowerWithin, lowerWithin]
    constructor
    · intro h before after hsplit
      obtain ⟨hc, hcs⟩ := List.append_inj' h hlength
      rcases List.cons_eq_append_iff.1 hsplit with ⟨rfl, hsigma⟩ | ⟨before, rfl, hrest⟩
      · obtain ⟨rfl, rfl⟩ := List.cons.inj hsigma
        exact hhead.1 hc rfl
      · exact ih.1 hcs before after hrest
    · intro h
      rw [hhead.2 fun hc => h [] cs (by rw [hc, List.nil_append]), ih.2 fun before after hrest =>
        h (c :: before) after (by rw [hrest, List.cons_append])]

/-! ### A piece by itself -/

/-- A fragment of a text has the lower case that it would have alone exactly if each sigma of it ends a word in the
text and alone, or in neither. -/
theorem lowerWithin_eq_lowerAfter_iff {before : List Char} :
    lowerWithin (casedAfter false before) cs behind = lowerAfter false cs ↔
      ∀ first last, cs = first ++ 'Σ' :: last → endsWord (before ++ first) (last ++ behind) = endsWord first last := by
  rw [← lowerWithin_nil, lowerWithin_eq_iff]
  simp only [casedAfter_append, List.append_nil, endsWord]

/-- The lower case of a fragment stands in that of the text if the sigmas of the fragment are the same there as they
would be alone. -/
theorem lower_infix {text part : String} {before after : List Char}
    (htext : text.toList = before ++ part.toList ++ after)
    (hsigmas : ∀ first last, part.toList = first ++ 'Σ' :: last →
      endsWord (before ++ first) (last ++ after) = endsWord first last) :
    (lower part).toList <:+: (lower text).toList := by
  rw [lower, lower, String.toList_ofList, String.toList_ofList, htext, List.append_assoc, lowerAfter_append,
    lowerAfter_append, lowerWithin_eq_lowerAfter_iff.2 hsigmas, ← List.append_assoc]
  exact ⟨_, _, rfl⟩

end StationFinder.Text
