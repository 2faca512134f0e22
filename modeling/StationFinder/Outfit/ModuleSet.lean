/-!
# Module sets

A set of modules of one category, by their places in its numbering. A set knows the size of the numbering it was
made for. Its members are kept in ascending order, so that two sets with the same members and the same capacity
are the same set.
-/

namespace StationFinder

/-- A set of module indexes. -/
structure ModuleSet where
  /-- How many modules the category has. -/
  capacity : Nat
  /-- The members, in ascending order. -/
  indexes : List Nat
  ascending : indexes.Pairwise (· < ·)
deriving DecidableEq, Repr

namespace ModuleSet

/-- The set without members. -/
def empty (capacity : Nat) : ModuleSet := ⟨capacity, [], .nil⟩

instance : Membership Nat ModuleSet := ⟨fun s i => i ∈ s.indexes⟩

theorem mem_def {s : ModuleSet} {i : Nat} : i ∈ s ↔ i ∈ s.indexes := Iff.rfl

instance (i : Nat) (s : ModuleSet) : Decidable (i ∈ s) := inferInstanceAs (Decidable (i ∈ s.indexes))

/-- A number put into its place in an ascending list, unless it is there. -/
def insertInto (i : Nat) : List Nat → List Nat
  | [] => [i]
  | j :: rest => if i < j then i :: j :: rest else if i = j then j :: rest else j :: insertInto i rest

@[simp] theorem mem_insertInto {i j : Nat} {l : List Nat} : j ∈ insertInto i l ↔ j = i ∨ j ∈ l := by
  induction l with
  | nil => simp [insertInto]
  | cons k rest ih =>
    simp only [insertInto]
    split
    · simp
    · split
      · next h => simp [h]
      · simp only [List.mem_cons, ih]; exact or_left_comm

theorem pairwise_insertInto {i : Nat} {l : List Nat} (h : l.Pairwise (· < ·)) :
    (insertInto i l).Pairwise (· < ·) := by
  induction l with
  | nil => simp [insertInto]
  | cons k rest ih =>
    obtain ⟨hk, hr⟩ := List.pairwise_cons.1 h
    simp only [insertInto]
    split
    · next hlt =>
      refine List.pairwise_cons.2 ⟨?_, h⟩
      intro j hj
      rcases List.mem_cons.1 hj with rfl | hj
      · exact hlt
      · exact Nat.lt_trans hlt (hk j hj)
    · split
      · exact h
      · next hge hne =>
        refine List.pairwise_cons.2 ⟨?_, ih hr⟩
        intro j hj
        rcases mem_insertInto.1 hj with rfl | hj
        · omega
        · exact hk j hj

/-- The set with one more member. -/
def insert (s : ModuleSet) (i : Nat) : ModuleSet :=
  ⟨s.capacity, insertInto i s.indexes, pairwise_insertInto s.ascending⟩

@[simp] theorem mem_empty {capacity i : Nat} : ¬ i ∈ empty capacity := List.not_mem_nil

@[simp] theorem mem_insert {s : ModuleSet} {i j : Nat} : j ∈ s.insert i ↔ j = i ∨ j ∈ s := mem_insertInto

/-- The set of the indexes in a list. -/
def ofList (capacity : Nat) (indexes : List Nat) : ModuleSet := indexes.foldl insert (empty capacity)

@[simp] theorem capacity_insert (s : ModuleSet) (i : Nat) : (s.insert i).capacity = s.capacity := rfl

theorem mem_foldl_insert {s : ModuleSet} {l : List Nat} {i : Nat} : i ∈ l.foldl insert s ↔ i ∈ s ∨ i ∈ l := by
  induction l generalizing s with
  | nil => simp
  | cons j rest ih => simp only [List.foldl_cons, ih, mem_insert, List.mem_cons]; grind

theorem capacity_foldl_insert (s : ModuleSet) (l : List Nat) : (l.foldl insert s).capacity = s.capacity := by
  induction l generalizing s with
  | nil => rfl
  | cons j rest ih => simp [ih]

@[simp] theorem mem_ofList {capacity i : Nat} {l : List Nat} : i ∈ ofList capacity l ↔ i ∈ l := by
  simp [ofList, mem_foldl_insert]

@[simp] theorem capacity_ofList (capacity : Nat) (l : List Nat) : (ofList capacity l).capacity = capacity :=
  capacity_foldl_insert ..

/-- How many members the set has. -/
def size (s : ModuleSet) : Nat := s.indexes.length

def isEmpty (s : ModuleSet) : Bool := s.indexes.isEmpty

end ModuleSet

/-- A wanted set, ready to be held against the inventories of many stations. -/
structure Matcher where
  wanted : ModuleSet
deriving DecidableEq, Repr

namespace Matcher

/-- How many modules are wanted. A count in thirty-two bits is the same for fewer than `2 ^ 32` modules. -/
def count (m : Matcher) : Nat := m.wanted.size

/-- How many of the wanted modules a station carries; none if its inventory is unknown. -/
def matchCount (m : Matcher) : Option ModuleSet → Nat
  | some carried => (m.wanted.indexes.filter (· ∈ carried)).length
  | none => 0

end Matcher

end StationFinder
