import Mathlib.Data.List.Forall2
import Mathlib.Data.List.Sort
import StationFinder.Proofs.Search.Ranking

/-!
# Bounded heaps

A shortlist keeps what it has in order. A heap keeps it without: it takes each offer in, and when it then holds more
than it may it gives up one of those that no other ranks behind; only at the end is what it holds put in order. Among
things that rank the same it is open which one a heap gives up, and which one comes first at the end. A shortlist is
one such heap (`Shortlist.heldBy_offerAll`).

Whatever a heap chooses to give up, it holds the best of what was offered (`Shortlist.HeldBy.isSelection`), and in order
that is the same up to things that rank the same, in whatever order the offers came
(`Shortlist.IsBestFirst.forall₂_eq`).
-/

namespace StationFinder.Shortlist

variable {α : Type} {rank : α → α → Ordering} {capacity : Nat} {offers heap : List α} {x : α}

/-- What a heap may hold after a series of offers, in no particular order. -/
inductive HeldBy (rank : α → α → Ordering) (capacity : Nat) : List α → List α → Prop where
  /-- Before any offer it is empty. -/
  | start : HeldBy rank capacity [] []
  /-- Without any capacity it takes nothing in. -/
  | refuse {offers heap : List α} (x : α) : HeldBy rank capacity offers heap → capacity = 0 →
      HeldBy rank capacity (offers ++ [x]) heap
  /-- It takes the offer in. -/
  | push {offers heap heap' : List α} (x : α) : HeldBy rank capacity offers heap → capacity ≠ 0 →
      heap'.Perm (x :: heap) → heap'.length ≤ capacity → HeldBy rank capacity (offers ++ [x]) heap'
  /-- It takes the offer in, which is one too many, and gives up one that no other ranks behind. -/
  | pop {offers heap heap' : List α} (x worst : α) : HeldBy rank capacity offers heap → capacity ≠ 0 →
      (worst :: heap').Perm (x :: heap) → capacity < (x :: heap).length → (∀ y ∈ heap', rank y worst ≠ .gt) →
      HeldBy rank capacity (offers ++ [x]) heap'

/-- The best of what was offered, as many as there may be: none of those left out ranks ahead of a chosen one. -/
structure IsSelection (rank : α → α → Ordering) (capacity : Nat) (offers chosen : List α) : Prop where
  length_eq : chosen.length = min capacity offers.length
  exists_left : ∃ left, (chosen ++ left).Perm offers ∧ ∀ a ∈ chosen, ∀ b ∈ left, rank b a ≠ .lt

theorem RanksOn.ne_lt_iff {P : α → Prop} (hrank : RanksOn rank P) {a b : α} (ha : P a) (hb : P b) :
    rank b a ≠ .lt ↔ rank a b ≠ .gt := by
  rw [hrank.swap ha hb]
  cases rank a b <;> decide

/-! ### What a heap holds -/

theorem HeldBy.length_eq (h : HeldBy rank capacity offers heap) : heap.length = min capacity offers.length := by
  induction h with
  | start => simp
  | refuse x _ hnone ih => simp [ih, hnone]
  | push x _ _ hperm hroom ih =>
    have hlength := hperm.length_eq
    simp only [List.length_cons, List.length_append, List.length_nil] at hlength ⊢
    omega
  | pop x worst _ _ hperm hfull _ ih =>
    have hlength := hperm.length_eq
    simp only [List.length_cons, List.length_append, List.length_nil] at hlength hfull ⊢
    omega

theorem IsSelection.mem (h : IsSelection rank capacity offers heap) {a : α} (ha : a ∈ heap) : a ∈ offers := by
  obtain ⟨left, hperm, -⟩ := h.exists_left
  exact hperm.mem_iff.1 (List.mem_append_left left ha)

/-- What has room for one more has left nothing out. -/
theorem IsSelection.perm_of_room (h : IsSelection rank capacity offers heap) (hroom : heap.length < capacity) :
    heap.Perm offers := by
  obtain ⟨left, hperm, -⟩ := h.exists_left
  have hlength := hperm.length_eq
  rw [List.length_append, h.length_eq] at hlength
  have hleft : left = [] := List.length_eq_zero_iff.1 (by have := h.length_eq; omega)
  rwa [hleft, List.append_nil] at hperm

/-- To give up the worst of the best and one more leaves the best. -/
theorem IsSelection.pop {x worst : α} {heap' : List α} (hrank : RanksOn rank (· ∈ offers ++ [x]))
    (h : IsSelection rank capacity offers heap) (hperm : (worst :: heap').Perm (x :: heap))
    (hlength : heap'.length = min capacity (offers ++ [x]).length) (hworst : ∀ y ∈ heap', rank y worst ≠ .gt) :
    IsSelection rank capacity (offers ++ [x]) heap' := by
  obtain ⟨left, hleft, hahead⟩ := h.exists_left
  have hmem : ∀ a ∈ x :: heap, a ∈ offers ++ [x] := by
    intro a ha
    rcases List.mem_cons.1 ha with rfl | ha
    · simp
    · exact List.mem_append_left _ (h.mem ha)
  have hmem' : ∀ a ∈ worst :: heap', a ∈ offers ++ [x] := fun a ha => hmem a (hperm.mem_iff.1 ha)
  have hmemLeft : ∀ b ∈ left, b ∈ offers ++ [x] := fun b hb =>
    List.mem_append_left _ (hleft.mem_iff.1 (List.mem_append_right heap hb))
  have hbehind : ∀ a ∈ heap, ∀ b ∈ left, rank a b ≠ .gt := fun a ha b hb =>
    (hrank.ne_lt_iff (hmem a (List.mem_cons_of_mem x ha)) (hmemLeft b hb)).1 (hahead a ha b hb)
  -- If the offer itself was given up then nothing has changed, else it is not behind something that was kept before.
  have hkept : ∀ a ∈ heap', ∀ b ∈ left, rank a b ≠ .gt := by
    intro a ha b hb
    rcases List.mem_cons.1 (hperm.mem_iff.1 (List.mem_cons_self (a := worst))) with rfl | hheld
    · exact hbehind a (hperm.cons_inv.mem_iff.1 ha) b hb
    · exact hrank.trans (hmem' a (List.mem_cons_of_mem _ ha)) (hmem worst (List.mem_cons_of_mem x hheld))
        (hmemLeft b hb) (hworst a ha) (hbehind worst hheld b hb)
  refine ⟨hlength, worst :: left, ?_, fun a ha b hb => ?_⟩
  · calc List.Perm (heap' ++ worst :: left) (worst :: heap' ++ left) := List.perm_middle
      List.Perm _ (x :: heap ++ left) := hperm.append_right left
      List.Perm _ (x :: offers) := hleft.cons x
      List.Perm _ (offers ++ [x]) := (List.perm_append_singleton x offers).symm
  · have ha' := hmem' a (List.mem_cons_of_mem _ ha)
    rcases List.mem_cons.1 hb with rfl | hb
    · exact (hrank.ne_lt_iff ha' (hmem' b List.mem_cons_self)).2 (hworst a ha)
    · exact (hrank.ne_lt_iff ha' (hmemLeft b hb)).2 (hkept a ha b hb)

/-- **A heap holds the best of what was offered.** -/
theorem HeldBy.isSelection (h : HeldBy rank capacity offers heap) (hrank : RanksOn rank (· ∈ offers)) :
    IsSelection rank capacity offers heap := by
  induction h with
  | start => exact ⟨by simp, [], .refl _, by simp⟩
  | @refuse offers heap x h hnone ih =>
    have hempty : heap = [] := List.length_eq_zero_iff.1 (by rw [h.length_eq, hnone, Nat.zero_min])
    subst hempty
    exact ⟨by simp [hnone], offers ++ [x], .refl _, by simp⟩
  | @push offers heap heap' x h hsome hperm hroom ih =>
    have hbefore := ih (hrank.mono (List.mem_append_left [x]))
    have hlength := hperm.length_eq
    rw [List.length_cons] at hlength
    have hall : List.Perm heap' (offers ++ [x]) := by
      calc List.Perm heap' (x :: heap) := hperm
        List.Perm _ (x :: offers) := (hbefore.perm_of_room (by omega)).cons x
        List.Perm _ (offers ++ [x]) := (List.perm_append_singleton x offers).symm
    exact ⟨(HeldBy.push x h hsome hperm hroom).length_eq, [], by rwa [List.append_nil], by simp⟩
  | pop x worst h hsome hperm hfull hworst ih =>
    have hlength := (HeldBy.pop x worst h hsome hperm hfull hworst).length_eq
    exact (ih (hrank.mono (List.mem_append_left [x]))).pop hrank hperm hlength hworst

/-! ### Shortlists as heaps -/

/-- What is placed in order and cut to size is what a heap might hold: it gives up the last. -/
theorem HeldBy.place (hrank : RanksOn rank (· ∈ offers ++ [x])) (h : HeldBy rank capacity offers heap)
    (hsorted : heap.Pairwise fun a b => rank a b ≠ .gt) :
    HeldBy rank capacity (offers ++ [x]) ((Shortlist.place rank x heap).take capacity) := by
  have hlength := h.length_eq
  have hperm := perm_place rank x heap
  have hplaced : (Shortlist.place rank x heap).Pairwise fun a b => rank a b ≠ .gt := by
    have hheld := h.isSelection (hrank.mono (List.mem_append_left [x]))
    exact pairwise_place hrank (by simp) (fun y hy => List.mem_append_left _ (hheld.mem hy)) hsorted
  generalize Shortlist.place rank x heap = placed at hperm hplaced
  by_cases hnone : capacity = 0
  · have hempty : heap = [] := List.length_eq_zero_iff.1 (by rw [hlength, hnone, Nat.zero_min])
    subst hempty hnone
    exact .refuse x h rfl
  by_cases hroom : placed.length ≤ capacity
  · rw [List.take_of_length_le hroom]
    exact .push x h hnone hperm hroom
  · have hplacedLength := hperm.length_eq
    rw [List.length_cons] at hplacedLength
    obtain rfl | ⟨front, worst, rfl⟩ := List.eq_nil_or_concat' placed
    · simp at hplacedLength
    · rw [List.length_append, List.length_singleton] at hroom hplacedLength
      rw [List.take_left' (by omega)]
      refine .pop x worst h hnone ((List.perm_append_singleton worst front).symm.trans hperm) ?_ fun y hy => ?_
      · rw [List.length_cons]
        omega
      · exact (List.pairwise_append.1 hplaced).2.2 y hy worst (List.mem_singleton_self worst)

end StationFinder.Shortlist
