import StationFinder.Fault
import StationFinder.Numeric.Whole

/-!
# Shortlists

The best few of the things that were offered, best first. Of things that rank the same the one offered first stays
ahead.

The memory for all that a shortlist may ever hold is taken before the first offer, and so is that for one thing more,
since an offer comes in before another thing has to leave. How many bytes a thing takes is an `EntrySize`. Where so many
things would take more bytes than a list can, there is no shortlist. That there are as many bytes as a list can take is
not in question here.
-/

namespace StationFinder

/-- How many bytes a thing takes in a list. -/
structure EntrySize where
  bytes : Nat
  pos : 0 < bytes
deriving DecidableEq, Repr

/-- The best of what was offered so far, at most so many as the capacity says. -/
structure Shortlist (α : Type) where
  capacity : Nat
  kept : List α
deriving Repr

namespace Shortlist

variable {α : Type}

/-- There is memory for a shortlist of some capacity, and one thing more. They are counted up to the largest number of
sixty-four bits, and take at most so many bytes as a signed number of that width can tell. -/
def Fits (size : EntrySize) (capacity : Nat) : Prop := min (capacity + 1) max64 * size.bytes ≤ maxSigned64

instance (size : EntrySize) (capacity : Nat) : Decidable (Fits size capacity) := inferInstanceAs (Decidable (_ ≤ _))

/-- To count no further than a word can is no loss: so many things never fit. -/
theorem fits_iff {size : EntrySize} {capacity : Nat} :
    Fits size capacity ↔ (capacity + 1) * size.bytes ≤ maxSigned64 := by
  have hpos := size.pos
  rw [Fits]
  rcases Nat.le_total (capacity + 1) max64 with hle | hle
  · rw [Nat.min_eq_left hle]
  · have hmost : max64 ≤ max64 * size.bytes := Nat.le_mul_of_pos_right _ hpos
    have hmore : max64 * size.bytes ≤ (capacity + 1) * size.bytes := Nat.mul_le_mul_right _ hle
    have hover : maxSigned64 < max64 := by decide
    rw [Nat.min_eq_right hle]
    exact iff_of_false (by omega) (by omega)

/-- A shortlist before any offer. -/
def bare (capacity : Nat) : Shortlist α := ⟨capacity, []⟩

/-- The shortlist before any offer, if there is memory for it. -/
def empty (size : EntrySize) (capacity : Nat) : Except Failure (Shortlist α) :=
  if Fits size capacity then .ok (bare capacity) else .error .capacityOverflow

theorem empty_of_fits {size : EntrySize} {capacity : Nat} (h : (capacity + 1) * size.bytes ≤ maxSigned64) :
    (empty size capacity : Except Failure (Shortlist α)) = .ok (bare capacity) := if_pos (fits_iff.2 h)

theorem empty_of_not_fits {size : EntrySize} {capacity : Nat} (h : maxSigned64 < (capacity + 1) * size.bytes) :
    (empty size capacity : Except Failure (Shortlist α)) = .error .capacityOverflow :=
  if_neg fun hfits => Nat.not_le_of_lt h (fits_iff.1 hfits)

/-- A thing put in front of the first one that ranks behind it. -/
def place (rank : α → α → Ordering) (x : α) : List α → List α
  | [] => [x]
  | y :: rest => if rank x y = .lt then x :: y :: rest else y :: place rank x rest

theorem perm_place (rank : α → α → Ordering) (x : α) (l : List α) : (place rank x l).Perm (x :: l) := by
  induction l with
  | nil => simp [place]
  | cons y rest ih =>
    simp only [place]
    split
    · exact .refl _
    · exact (ih.cons y).trans (.swap x y rest)

/-- The shortlist after an offer; what no longer fits at its end is dropped. -/
def offer (rank : α → α → Ordering) (s : Shortlist α) (x : α) : Shortlist α :=
  { s with kept := (place rank x s.kept).take s.capacity }

/-- The shortlist after a series of offers. -/
def offerAll (rank : α → α → Ordering) (s : Shortlist α) (xs : List α) : Shortlist α := xs.foldl (offer rank) s

/-- How many things are kept. -/
def size (s : Shortlist α) : Nat := s.kept.length

end Shortlist

end StationFinder
