import StationFinder.Text.Ascii
import StationFinder.Text.Blank

/-!
# Module categories

Ship modules fall into four categories, each with a numbering of its own.
-/

namespace StationFinder

/-- The kind of slot that a module fits. -/
inductive Category where
  | standard
  | internal
  | hardpoint
  | utility
deriving DecidableEq, Repr

namespace Category

/-- The categories in their usual order. -/
def all : List Category := [standard, internal, hardpoint, utility]

theorem mem_all (c : Category) : c ∈ all := by cases c <;> decide

/-- The sum of a number for each category. -/
def total (f : Category → Nat) : Nat := f standard + f internal + f hardpoint + f utility

/-- The place of a category in the usual order. -/
def index : Category → Nat
  | standard => 0
  | internal => 1
  | hardpoint => 2
  | utility => 3

def name : Category → String
  | standard => "standard"
  | internal => "internal"
  | hardpoint => "hardpoint"
  | utility => "utility"

/-- The category that a relay message means: its name or its plural, or bulkheads for the standard category, in any
ASCII case and with blanks around it. -/
def ofMessage? (text : String) : Option Category :=
  match Text.asciiLower (Text.trim text) with
  | "standard" | "bulkhead" | "bulkheads" => some standard
  | "internal" => some internal
  | "hardpoint" | "hardpoints" => some hardpoint
  | "utility" | "utilities" => some utility
  | _ => none

end Category

end StationFinder
