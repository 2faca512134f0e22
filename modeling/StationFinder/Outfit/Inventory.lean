import StationFinder.Outfit.Category
import StationFinder.Outfit.ModuleSet

/-!
# Inventories

What a station is known to carry: for each category a module set, or nothing when it is unknown. An unknown
inventory is not an empty one.
-/

namespace StationFinder

/-- One module set for each category, where known. -/
structure Inventory where
  standard : Option ModuleSet
  internal : Option ModuleSet
  hardpoint : Option ModuleSet
  utility : Option ModuleSet
deriving DecidableEq, Repr

namespace Inventory

/-- The inventory that has a given set in each category. -/
def ofFun (f : Category → Option ModuleSet) : Inventory :=
  ⟨f .standard, f .internal, f .hardpoint, f .utility⟩

/-- Nothing is known. -/
def unknown : Inventory := ofFun fun _ => none

/-- The set of a category, if known. -/
def get (inv : Inventory) : Category → Option ModuleSet
  | .standard => inv.standard
  | .internal => inv.internal
  | .hardpoint => inv.hardpoint
  | .utility => inv.utility

@[simp] theorem get_ofFun (f : Category → Option ModuleSet) (c : Category) : (ofFun f).get c = f c := by
  cases c <;> rfl

@[ext] theorem ext {a b : Inventory} (h : ∀ c, a.get c = b.get c) : a = b := by
  cases a; cases b
  simp only [mk.injEq]
  exact ⟨h .standard, h .internal, h .hardpoint, h .utility⟩

/-- The inventory with another entry for one category. -/
def set (inv : Inventory) (c : Category) (s : Option ModuleSet) : Inventory :=
  ofFun fun d => if d = c then s else inv.get d

/-- Is every category known? -/
def isComplete (inv : Inventory) : Bool := Category.all.all fun c => (inv.get c).isSome

/-- Is no category known? -/
def isUnknown (inv : Inventory) : Bool := Category.all.all fun c => (inv.get c).isNone

/-- The known categories with their sets. -/
def present (inv : Inventory) : List (Category × ModuleSet) :=
  Category.all.filterMap fun c => (inv.get c).map (c, ·)

/-- The inventory after an update, which replaces every category it knows and leaves the others as they are. -/
def updated (inv update : Inventory) : Inventory := ofFun fun c => (update.get c).or (inv.get c)

@[simp] theorem get_updated (inv update : Inventory) (c : Category) :
    (inv.updated update).get c = (update.get c).or (inv.get c) := by simp [updated]

end Inventory

end StationFinder
