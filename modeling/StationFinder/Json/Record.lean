import StationFinder.Json.Value
import StationFinder.Numeric.Shortest

/-!
# Records in documents

What a consumer reads from a JSON value. A record names its fields in a fixed order. It is written either as an
object, where other members are ignored but a repeated field is an error, or as an array of its fields in order,
where fields at the end may be left out but nothing may follow the last. Whether a missing field is allowed is
for the consumer to say.
-/

namespace StationFinder.Json.Value

/-- Reads a value as something else, if it has the right shape. -/
abbrev Reader (α : Type) := Value → Option α

/-! ### Plain values -/

def asText : Reader String
  | .text content => content
  | _ => none

def asBool : Reader Bool
  | .bool b => some b
  | _ => none

def asNumber : Reader Number
  | .number numeral => numeral.value
  | _ => none

/-- An integer from zero up to `limit`; a real is refused even if it is whole. -/
def asNatural (limit : Nat) (v : Value) : Option Nat :=
  match v.asNumber with
  | some (.natural n) => if n ≤ limit then some n else none
  | _ => none

/-- An identifier of thirty-two bits. -/
def asId : Reader Nat := asNatural max32

def asReal (v : Value) : Option Binary64 := v.asNumber.map Number.toReal

/-- A text, or a number in the decimal form it has as a text: an integer of sixty-four bits with its sign in
digits, any other number in its shortest form. -/
def asLooseText : Reader String
  | .text content => content
  | v => v.asNumber.map fun
    | .natural n => if n ≤ maxSigned64 then s!"{n}" else (Binary64.ofNat n).text
    | .negative n => s!"-{n}"
    | .real x => x.text

/-- A list of values of one kind. -/
def asListOf {α : Type} (read : Reader α) : Reader (List α)
  | .list items => items.mapM read
  | _ => none

/-- A value, or null in its place. -/
def asNullable {α : Type} (read : Reader α) : Reader (Option α)
  | .null => some none
  | v => (read v).map some

/-! ### Records -/

/-- The value of a field among members; an error (the outer none) if the field is repeated. -/
def lookUp (name : String) (members : List (String × Value)) : Option (Option Value) :=
  match members.filter (·.1 = name) with
  | [] => some none
  | [(_, value)] => some (some value)
  | _ => none

/-- The members of an object, if all their names are texts. -/
def namedMembers (members : List (Option String × Value)) : Option (List (String × Value)) :=
  members.mapM fun (name, value) => name.map (·, value)

/-- The values of the named fields, in the order of the names; none inside for a missing field. -/
def fields (names : List String) : Reader (List (Option Value))
  | .record members => do
    let members ← namedMembers members
    names.mapM (lookUp · members)
  | .list items =>
    if items.length ≤ names.length then
      some (items.map some ++ List.replicate (names.length - items.length) none)
    else none
  | _ => none

/-- A field that must be there. -/
def required {α : Type} (read : Reader α) : Option Value → Option α
  | some v => read v
  | none => none

/-- A field that may be missing, and then has a fixed value. -/
def defaulted {α : Type} (absent : α) (read : Reader α) : Option Value → Option α
  | some v => read v
  | none => some absent

/-- A field that may be missing or null. -/
def optional {α : Type} (read : Reader α) : Option Value → Option (Option α) :=
  defaulted none (asNullable read)

/-- The entries of an object whose member names are data. Of entries with one name the last one counts, and the
entries stand in the order of their names. -/
def asEntriesOf {α : Type} (read : Reader α) : Reader (List (String × α))
  | .record members => do
    let members ← namedMembers members
    let entries ← members.mapM fun (name, value) => (read value).map ((name, ·) : α → String × α)
    let latest := entries.reverse.foldl
      (fun kept entry => if kept.any (·.1 = entry.1) then kept else entry :: kept) []
    some (latest.mergeSort fun a b => decide (a.1 ≤ b.1))
  | _ => none

end StationFinder.Json.Value
