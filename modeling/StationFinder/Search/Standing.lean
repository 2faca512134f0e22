import StationFinder.Numeric.Binary64

/-!
# Standings

How well a station answers a query, and which of two answers is better. Where both sell the ship, the one with
more of the wanted modules is ahead; otherwise the one with the higher score. The nearer one is ahead among
equals.

The score of an answer is the part of the wanted modules that was found, and one more for the ship. It is compared
as an exact fraction and shown as a double.
-/

namespace StationFinder

/-- A score: modules found out of those wanted, and whether the ship is there. -/
structure Score where
  found : Nat
  wanted : Nat
  hasShip : Bool
deriving DecidableEq, Repr

namespace Score

/-- The score as a fraction. No modules wanted means none found. -/
def exact (s : Score) : Rat := (s.found : Rat) / s.wanted + if s.hasShip then 1 else 0

/-- The score as a double. -/
def value (s : Score) : Binary64 :=
  let part : Binary64 := if s.wanted = 0 then 0 else .ofNat s.found / .ofNat s.wanted
  if s.hasShip then part + 1 else part

/-- Scores are ordered as fractions. -/
instance : Ord Score := ⟨fun a b => compareOfLessAndEq a.exact b.exact⟩

end Score

/-- How an answer stands, with a score of some kind. -/
structure Standing (σ : Type) where
  hasShip : Bool
  modulesFound : Nat
  score : σ
  /-- The distance in light-years. -/
  distance : Binary64
deriving DecidableEq, Repr

namespace Standing

/-- Which of two answers is better: less means the first one is ahead. -/
def rank {σ : Type} [Ord σ] (a b : Standing σ) : Ordering :=
  let merit := if a.hasShip && b.hasShip then compare b.modulesFound a.modulesFound else compare b.score a.score
  merit.then (compare a.distance b.distance)

end Standing

end StationFinder
