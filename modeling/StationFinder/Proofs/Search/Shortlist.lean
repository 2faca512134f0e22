import Mathlib.Data.List.Induction
import Mathlib.Data.List.Perm.Basic
import StationFinder.Search.Shortlist

/-!
# What a shortlist keeps

A shortlist of unbounded capacity would keep everything that it is offered, in the order of the ranking
(`Shortlist.ranked`). What a bounded one keeps is the front part of that (`Shortlist.kept_offerAll`): to drop what
does not fit after each offer loses nothing that would come back later. Where the ranking is a total preorder on
what is offered, the ordered list is sorted, and so nothing that was left out ranks ahead of something kept.
-/

namespace StationFinder.Shortlist

variable {α : Type} {rank : α → α → Ordering}

/-- The ranking is a total preorder on the things that satisfy `P`. -/
structure RanksOn (rank : α → α → Ordering) (P : α → Prop) : Prop where
  swap : ∀ {a b : α}, P a → P b → rank b a = (rank a b).swap
  trans : ∀ {a b c : α}, P a → P b → P c → rank a b ≠ .gt → rank b c ≠ .gt → rank a c ≠ .gt

theorem RanksOn.rank_self {P : α → Prop} (hrank : RanksOn rank P) {a : α} (ha : P a) : rank a a = .eq := by
  have hself := hrank.swap ha ha
  cases h : rank a a <;> simp_all

theorem RanksOn.mono {P Q : α → Prop} (hrank : RanksOn rank P) (h : ∀ {a}, Q a → P a) : RanksOn rank Q where
  swap ha hb := hrank.swap (h ha) (h hb)
  trans ha hb hc := hrank.trans (h ha) (h hb) (h hc)

/-- Everything that was offered, in order. -/
def ranked (rank : α → α → Ordering) (xs : List α) : List α := xs.foldl (fun l x => place rank x l) []

/-! ### Placing -/

theorem mem_place {x y : α} {l : List α} : y ∈ place rank x l ↔ y = x ∨ y ∈ l := by
  rw [(perm_place rank x l).mem_iff, List.mem_cons]

/-- What falls off the end of a list makes no difference to what is placed before it. -/
theorem take_place_take (x : α) (l : List α) (n : Nat) :
    (place rank x (l.take n)).take n = (place rank x l).take n := by
  induction l generalizing n with
  | nil => simp
  | cons y rest ih =>
    cases n with
    | zero => simp
    | succ n =>
      simp only [List.take_succ_cons, place]
      split
      · cases n with
        | zero => simp
        | succ n => simp only [List.take_succ_cons, List.take_take, Nat.min_eq_left (Nat.le_succ n)]
      · simp only [List.take_succ_cons, ih]

theorem pairwise_place {P : α → Prop} (hrank : RanksOn rank P) {x : α} (hx : P x) {l : List α}
    (hl : ∀ y ∈ l, P y) (h : l.Pairwise fun a b => rank a b ≠ .gt) :
    (place rank x l).Pairwise fun a b => rank a b ≠ .gt := by
  induction l with
  | nil => simp [place]
  | cons y rest ih =>
    have hy := hl y List.mem_cons_self
    have hrest : ∀ z ∈ rest, P z := fun z hz => hl z (List.mem_cons_of_mem _ hz)
    obtain ⟨hfirst, hsorted⟩ := List.pairwise_cons.1 h
    simp only [place]
    split
    · next hlt =>
      have hle : rank x y ≠ .gt := by simp [hlt]
      refine List.pairwise_cons.2 ⟨fun z hz => ?_, h⟩
      rcases List.mem_cons.1 hz with rfl | hz
      · exact hle
      · exact hrank.trans hx hy (hrest z hz) hle (hfirst z hz)
    · next hge =>
      have hle : rank y x ≠ .gt := by
        rw [hrank.swap hx hy]
        cases hxy : rank x y <;> simp_all
      refine List.pairwise_cons.2 ⟨fun z hz => ?_, ih hrest hsorted⟩
      rcases mem_place.1 hz with rfl | hz
      · exact hle
      · exact hfirst z hz

/-! ### Offering -/

theorem ranked_concat (rank : α → α → Ordering) (xs : List α) (x : α) :
    ranked rank (xs ++ [x]) = place rank x (ranked rank xs) := by
  simp [ranked]

theorem ranked_perm (rank : α → α → Ordering) (xs : List α) : (ranked rank xs).Perm xs := by
  induction xs using List.reverseRecOn with
  | nil => exact .refl _
  | append_singleton xs x ih =>
    rw [ranked_concat]
    have hfront : (place rank x (ranked rank xs)).Perm (x :: xs) := (perm_place rank x _).trans (ih.cons x)
    exact hfront.trans (List.perm_append_singleton x xs).symm

theorem pairwise_ranked {P : α → Prop} (hrank : RanksOn rank P) {xs : List α} (hxs : ∀ x ∈ xs, P x) :
    (ranked rank xs).Pairwise fun a b => rank a b ≠ .gt := by
  induction xs using List.reverseRecOn with
  | nil => exact .nil
  | append_singleton xs x ih =>
    rw [ranked_concat]
    have hl : ∀ y ∈ xs, P y := fun y hy => hxs y (List.mem_append_left _ hy)
    exact pairwise_place hrank (hxs x (by simp)) (fun y hy => hl y ((ranked_perm rank xs).mem_iff.1 hy)) (ih hl)

theorem offerAll_concat (s : Shortlist α) (xs : List α) (x : α) :
    s.offerAll rank (xs ++ [x]) = (s.offerAll rank xs).offer rank x := by
  simp [offerAll]

@[simp] theorem capacity_offerAll (s : Shortlist α) (xs : List α) :
    (s.offerAll rank xs).capacity = s.capacity := by
  induction xs using List.reverseRecOn with
  | nil => rfl
  | append_singleton xs x ih => rw [offerAll_concat, ← ih, offer]

/-- **A shortlist keeps the front of everything in order.** -/
theorem kept_offerAll (n : Nat) (xs : List α) :
    ((bare n).offerAll rank xs).kept = (ranked rank xs).take n := by
  induction xs using List.reverseRecOn with
  | nil => simp [offerAll, bare, ranked]
  | append_singleton xs x ih =>
    rw [offerAll_concat, offer, capacity_offerAll, ih, ranked_concat]
    exact take_place_take x _ n

/-- The first thing kept is one of those that were offered, and none of them ranks ahead of it. -/
theorem kept_offerAll_first {P : α → Prop} (hrank : RanksOn rank P) {xs : List α} (hxs : ∀ x ∈ xs, P x)
    (hne : xs ≠ []) {n : Nat} (hn : 0 < n) :
    ∃ first rest, ((bare n).offerAll rank xs).kept = first :: rest ∧ first ∈ xs ∧ ∀ x ∈ xs, rank first x ≠ .gt := by
  have hperm := ranked_perm rank xs
  have hsorted := pairwise_ranked hrank hxs
  cases hl : ranked rank xs with
  | nil =>
    rw [hl] at hperm
    exact absurd hperm.symm.eq_nil hne
  | cons first rest =>
    rw [hl] at hperm hsorted
    have hfirst : first ∈ xs := hperm.mem_iff.1 List.mem_cons_self
    obtain ⟨n, rfl⟩ := Nat.exists_eq_add_one_of_ne_zero (Nat.pos_iff_ne_zero.1 hn)
    refine ⟨first, rest.take n, by rw [kept_offerAll, hl, List.take_succ_cons], hfirst, fun x hx => ?_⟩
    rcases List.mem_cons.1 (hperm.mem_iff.2 hx) with rfl | hx
    · simp [hrank.rank_self (hxs x hfirst)]
    · exact List.rel_of_pairwise_cons hsorted hx

end StationFinder.Shortlist
