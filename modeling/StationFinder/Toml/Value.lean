/-!
# TOML values

A document as a tree of tables. How a table came about decides what may still be added to it: a table that so far
was only implied by the headers of its parts may get a header of its own; a dotted key may go on with a table that
dotted keys began; an inline table is closed. A name is given once.
-/

namespace StationFinder.Toml

/-- How a table came about. -/
inductive TableForm where
  /-- It has a header of its own. -/
  | headed
  /-- The header of a part of it implies it. -/
  | implied
  /-- Dotted keys made it. -/
  | dotted
  /-- It is written in braces. -/
  | inline
deriving DecidableEq, Repr

/-- A TOML value. Of numbers with a fraction and of dates only that they are there is kept. -/
inductive Value where
  | text (content : String)
  | integer (n : Int)
  | real
  | moment
  | bool (b : Bool)
  | list (items : List Value)
  | table (form : TableForm) (entries : List (String × Value))
  /-- Tables under one header that is repeated. -/
  | tables (elements : List (List (String × Value)))
deriving Repr, Inhabited

/-- The entries of a table. -/
abbrev Entries := List (String × Value)

namespace Entries

/-- The entries with another value under a name. -/
def put (entries : Entries) (name : String) (value : Value) : Entries :=
  if entries.any (·.1 = name) then entries.map fun entry => if entry.1 = name then (name, value) else entry
  else entries ++ [(name, value)]

/-- Changes the table at the end of a path, which a header spells; of repeated tables the last one. Tables that are
missing are implied. -/
def modifyAt (change : Entries → Option Entries) : (path : List String) → Entries → Option Entries
  | [], entries => change entries
  | name :: path, entries =>
    match entries.lookup name with
    | none => (modifyAt change path []).map fun inner => entries.put name (.table .implied inner)
    | some (.table form inner) =>
      if form = .inline then none
      else (modifyAt change path inner).map fun inner => entries.put name (.table form inner)
    | some (.tables elements) => do
      let inner ← modifyAt change path (← elements.getLast?)
      some (entries.put name (.tables (elements.dropLast ++ [inner])))
    | some _ => none

/-- Gives a table its header. -/
def introduce (name : String) (entries : Entries) : Option Entries :=
  match entries.lookup name with
  | none => some (entries.put name (.table .headed []))
  | some (.table .implied inner) => some (entries.put name (.table .headed inner))
  | some _ => none

/-- Begins one more table under a repeated header. -/
def extend (name : String) (entries : Entries) : Option Entries :=
  match entries.lookup name with
  | none => some (entries.put name (.tables [[]]))
  | some (.tables elements) => some (entries.put name (.tables (elements ++ [[]])))
  | some _ => none

/-- Adds a value under a dotted key. -/
def define (value : Value) : (key : List String) → Entries → Option Entries
  | [], _ => none
  | [name], entries => if entries.any (·.1 = name) then none else some (entries.put name value)
  | name :: key, entries =>
    match entries.lookup name with
    | none => (define value key []).map fun inner => entries.put name (.table .dotted inner)
    | some (.table form inner) =>
      if form = .dotted || (form = .implied && 1 < key.length) then
        (define value key inner).map fun inner => entries.put name (.table form inner)
      else none
    | some _ => none

end Entries

end StationFinder.Toml
