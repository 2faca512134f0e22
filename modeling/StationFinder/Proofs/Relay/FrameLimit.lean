import Mathlib.Data.Nat.Basic
import StationFinder.Relay.Frame

/-!
# The size of messages

A frame may deliver any number of bytes, but only one more than a message may have is ever taken from it. They come in
pieces, and how large those are is up to the stream; what they come to is not (`Frame.Takes.outcome_eq`). So a message
is accepted at exactly the largest size that is allowed, while a larger one is refused for its size even if the stream
turns out to be broken after that, and for the break if it comes before. A message that is not refused is all that was
delivered, byte for byte. This is `Frame.size_limit_is_exact`.
-/

namespace StationFinder

/-! ### Bytes and texts -/

theorem Text.Utf8.decode_eq_ok_iff {bytes : ByteArray} {text : String} :
    Utf8.decode bytes = .ok text ↔ bytes = text.toUTF8 := by
  rw [decode, ← fromUTF8?_eq_some_iff]
  cases String.fromUTF8? bytes <;> simp

theorem Text.Utf8.exists_break {bytes : ByteArray} (h : ∀ text : String, bytes ≠ text.toUTF8) :
    ∃ place, Utf8.decode bytes = .error place := by
  cases hdecode : Utf8.decode bytes with
  | ok text => exact absurd (decode_eq_ok_iff.1 hdecode) (h text)
  | error place => exact ⟨place, rfl⟩

namespace Frame

variable {delivery : Deflate.Delivery} {limit maxBytes : Nat}

/-! ### Piece by piece -/

/-- Taking bytes from a delivery piece by piece, up to a limit, by somebody who has some of them: how many he has in the
end, and what it comes to. He asks for no more than the limit leaves, and how many bytes a piece has is not up to him. -/
inductive Takes (delivery : Deflate.Delivery) (limit : Nat) : (had total : Nat) → (outcome : Option ByteArray) → Prop where
  /-- The limit is reached, and nothing more is asked for. -/
  | full : Takes delivery limit limit limit (some (delivery.bytes.extract 0 limit))
  /-- No more comes, since the stream has come to its end. -/
  | ended : delivery.bytes.size < limit → delivery.clean = true →
      Takes delivery limit delivery.bytes.size delivery.bytes.size (some delivery.bytes)
  /-- No more comes, since the stream is broken. -/
  | broken : delivery.bytes.size < limit → delivery.clean = false →
      Takes delivery limit delivery.bytes.size delivery.bytes.size none
  /-- A piece comes, with at least one byte. -/
  | piece {had size total : Nat} {outcome : Option ByteArray} : 0 < size → had + size ≤ limit →
      had + size ≤ delivery.bytes.size → Takes delivery limit (had + size) total outcome →
      Takes delivery limit had total outcome

/-- No more is taken than the limit. -/
theorem Takes.total_le {had total : Nat} {outcome : Option ByteArray} (h : Takes delivery limit had total outcome) :
    total ≤ limit := by
  induction h with
  | full => exact Nat.le_refl limit
  | ended hsize _ => exact Nat.le_of_lt hsize
  | broken hsize _ => exact Nat.le_of_lt hsize
  | piece _ _ _ _ ih => exact ih

theorem taken?_of_size_lt (h : delivery.bytes.size < limit) :
    taken? delivery limit = if delivery.clean then some delivery.bytes else none := by
  have hall : delivery.bytes.extract 0 limit = delivery.bytes := by
    rw [← Nat.max_eq_left (Nat.le_of_lt h), ByteArray.extract_zero_max_size]
  rw [taken?, hall, decide_eq_true h, Bool.true_and]
  cases delivery.clean <;> rfl

theorem taken?_of_le_size (h : limit ≤ delivery.bytes.size) :
    taken? delivery limit = some (delivery.bytes.extract 0 limit) := by
  rw [taken?, decide_eq_false (Nat.not_lt.2 h), Bool.false_and, if_neg Bool.false_ne_true]

/-- What the pieces come to does not depend on them. -/
theorem Takes.outcome_eq {had total : Nat} {outcome : Option ByteArray} (h : Takes delivery limit had total outcome)
    (hhad : had ≤ delivery.bytes.size) : outcome = taken? delivery limit := by
  induction h with
  | full => exact (taken?_of_le_size hhad).symm
  | ended hsize hclean => rw [taken?_of_size_lt hsize, hclean, if_pos rfl]
  | broken hsize hclean => rw [taken?_of_size_lt hsize, hclean, if_neg Bool.false_ne_true]
  | piece _ _ hpiece _ ih => exact ih hpiece

/-- What somebody has can be the first piece. -/
theorem Takes.from_start {had total : Nat} {outcome : Option ByteArray} (h : Takes delivery limit had total outcome)
    (hlimit : had ≤ limit) (hsize : had ≤ delivery.bytes.size) : Takes delivery limit 0 total outcome := by
  rcases Nat.eq_zero_or_pos had with rfl | hpos
  · exact h
  · rw [← Nat.zero_add had] at hlimit hsize h
    exact .piece hpos hlimit hsize h

/-- Bytes can be taken all at once. -/
theorem exists_takes (delivery : Deflate.Delivery) (limit : Nat) :
    ∃ total outcome, Takes delivery limit 0 total outcome := by
  rcases Nat.lt_or_ge delivery.bytes.size limit with hless | hmore
  · cases hclean : delivery.clean with
    | true => exact ⟨_, _, (Takes.ended hless hclean).from_start (Nat.le_of_lt hless) (Nat.le_refl _)⟩
    | false => exact ⟨_, _, (Takes.broken hless hclean).from_start (Nat.le_of_lt hless) (Nat.le_refl _)⟩
  · exact ⟨_, _, Takes.full.from_start (Nat.le_refl _) hmore⟩

/-! ### The text -/

theorem textOf_of_tooLarge (h : maxBytes < delivery.bytes.size) :
    textOf delivery maxBytes = .error (.frame (.tooLarge maxBytes)) := by
  have hsize : maxBytes < (delivery.bytes.extract 0 (maxBytes + 1)).size := by
    rw [ByteArray.size_extract]
    omega
  simp only [textOf, taken?_of_le_size h, if_pos hsize]

theorem textOf_of_broken (h : delivery.bytes.size ≤ maxBytes) (hclean : delivery.clean = false) :
    textOf delivery maxBytes = .error (.frame .corrupt) := by
  simp only [textOf, taken?_of_size_lt (Nat.lt_succ_of_le h), hclean, Bool.false_eq_true, if_false]

theorem textOf_of_clean (h : delivery.bytes.size ≤ maxBytes) (hclean : delivery.clean = true) :
    textOf delivery maxBytes = (Text.Utf8.decode delivery.bytes).mapError (.frame ∘ .notText) := by
  simp only [textOf, taken?_of_size_lt (Nat.lt_succ_of_le h), hclean, if_true, if_neg (Nat.not_lt.2 h)]
  cases Text.Utf8.decode delivery.bytes <;> rfl

theorem textOf_eq_ok_iff {text : String} : textOf delivery maxBytes = .ok text ↔
    delivery.clean = true ∧ delivery.bytes.size ≤ maxBytes ∧ delivery.bytes = text.toUTF8 := by
  rcases Nat.lt_or_ge maxBytes delivery.bytes.size with hlarge | hfits
  · rw [textOf_of_tooLarge hlarge]
    exact ⟨nofun, fun h => absurd h.2.1 (Nat.not_le.2 hlarge)⟩
  · cases hclean : delivery.clean with
    | false =>
      rw [textOf_of_broken hfits hclean]
      exact ⟨nofun, fun h => Bool.noConfusion h.1⟩
    | true =>
      rw [textOf_of_clean hfits hclean, ← Text.Utf8.decode_eq_ok_iff]
      cases Text.Utf8.decode delivery.bytes <;> simp [Except.mapError, hfits]

/-- **The limit on messages is exact.** A delivery makes a text just if it comes to a clean end within the limit and is the
encoding of that text. If it has more bytes than the limit allows it is refused for that, however it goes on; any other
is refused for the break in it, or for not being a text. In whatever pieces the bytes come, no more than one beyond the
limit is taken, and what they come to is the same. -/
theorem size_limit_is_exact (maxBytes : Nat) :
    (∀ frame, inflate frame maxBytes = textOf (Deflate.expand frame) maxBytes) ∧
    ∀ delivery : Deflate.Delivery,
      (∀ text, textOf delivery maxBytes = .ok text ↔
        delivery.clean = true ∧ delivery.bytes.size ≤ maxBytes ∧ delivery.bytes = text.toUTF8) ∧
      (maxBytes < delivery.bytes.size → textOf delivery maxBytes = .error (.frame (.tooLarge maxBytes))) ∧
      (delivery.bytes.size ≤ maxBytes → delivery.clean = false →
        textOf delivery maxBytes = .error (.frame .corrupt)) ∧
      (delivery.bytes.size ≤ maxBytes → delivery.clean = true → (∀ text : String, delivery.bytes ≠ text.toUTF8) →
        ∃ place, textOf delivery maxBytes = .error (.frame (.notText place))) ∧
      (∃ total outcome, Takes delivery (maxBytes + 1) 0 total outcome) ∧
      ∀ total outcome, Takes delivery (maxBytes + 1) 0 total outcome →
        total ≤ maxBytes + 1 ∧ outcome = taken? delivery (maxBytes + 1) := by
  refine ⟨fun frame => rfl, fun delivery => ⟨fun text => textOf_eq_ok_iff, textOf_of_tooLarge, textOf_of_broken, ?_,
    exists_takes delivery _, fun total outcome h => ⟨h.total_le, h.outcome_eq (Nat.zero_le _)⟩⟩⟩
  intro hfits hclean hnone
  obtain ⟨place, hplace⟩ := Text.Utf8.exists_break hnone
  exact ⟨place, by rw [textOf_of_clean hfits hclean, hplace]; rfl⟩

/-- Five bytes that come to a clean end, the same before a break, and two that end inside a character. -/
theorem fiveBytes_meet_the_limit :
    let five : Deflate.Delivery := ⟨"café".toUTF8, true⟩
    let cut : Deflate.Delivery := ⟨"café".toUTF8, false⟩
    let torn : Deflate.Delivery := ⟨⟨#[0x66, 0xC3]⟩, true⟩
    textOf five 5 = .ok "café" ∧
      4 < five.bytes.size ∧ textOf five 4 = .error (.frame (.tooLarge 4)) ∧
      4 < cut.bytes.size ∧ textOf cut 4 = .error (.frame (.tooLarge 4)) ∧
      cut.bytes.size ≤ 5 ∧ textOf cut 5 = .error (.frame .corrupt) ∧
      torn.bytes.size ≤ 5 ∧ (∃ place, textOf torn 5 = .error (.frame (.notText place))) ∧
      Takes cut 5 0 5 (some cut.bytes) ∧ 5 ≤ 5 ∧ some cut.bytes = taken? cut 5 := by
  intro five cut torn
  have hfits : five.bytes.size ≤ 5 := by decide
  have hbeyond : 4 < five.bytes.size := by decide
  have htorn : ∀ text : String, torn.bytes ≠ text.toUTF8 := by
    intro text htext
    have hnone : String.fromUTF8? torn.bytes = none := by decide +kernel
    rw [Text.Utf8.fromUTF8?_eq_some_iff.2 htext] at hnone
    cases hnone
  obtain ⟨-, hfour⟩ := size_limit_is_exact 4
  obtain ⟨-, hfive⟩ := size_limit_is_exact 5
  obtain ⟨-, hlarge, -⟩ := hfour five
  obtain ⟨-, hlargeCut, -, -, -, htakes⟩ := hfour cut
  obtain ⟨htext, -⟩ := hfive five
  obtain ⟨-, -, hbroken, -⟩ := hfive cut
  obtain ⟨-, -, -, hnotText, -⟩ := hfive torn
  have hpieces : Takes cut 5 0 5 (some cut.bytes) :=
    .piece (Nat.zero_lt_succ 1) (by decide) (by decide) (.piece (Nat.zero_lt_succ 2) (by decide) (by decide) .full)
  obtain ⟨htotal, houtcome⟩ := htakes 5 _ hpieces
  exact ⟨(htext _).2 ⟨rfl, hfits, rfl⟩, hbeyond, hlarge hbeyond, hbeyond, hlargeCut hbeyond, hfits, hbroken hfits rfl,
    by decide, hnotText (by decide) rfl htorn, hpieces, htotal, houtcome⟩

end Frame

end StationFinder
