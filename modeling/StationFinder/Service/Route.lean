import StationFinder.Service.Address

/-!
# Routes

What can be asked for, by the path of the address. Names in a path are still escaped. The last part of a path is never
empty.
-/

namespace StationFinder

/-- What a path asks for. -/
inductive Route where
  /-- Is the service alive? -/
  | alive
  /-- Is it ready to be used? -/
  | ready
  /-- What has it measured? -/
  | metrics
  /-- Which systems have a text in their names? -/
  | systems
  | system (name : List Char)
  | station (system name : List Char)
  /-- Which stations near a system have what is wanted? -/
  | near (origin : List Char)
deriving DecidableEq, Repr

namespace Route

/-- The route of a path, by its parts. -/
def ofPath (parts : List (List Char)) : Option Route :=
  if parts.getLast? = some [] then none
  else match parts.map String.ofList, parts with
    | ["", "healthz"], _ => some alive
    | ["", "readyz"], _ => some ready
    | ["", "metrics"], _ => some metrics
    | ["", "v1", "systems"], _ => some systems
    | ["", "v1", "systems", _], [_, _, _, name] => some (system name)
    | ["", "v1", "systems", _, _], [_, _, _, owner, name] => some (station owner name)
    | ["", "v1", "find", "near", _], [_, _, _, _, origin] => some (near origin)
    | _, _ => none

/-- Is this a route for those who watch over the service? Such requests are not given an id. -/
def isProbe : Route → Bool
  | alive | ready | metrics => true
  | _ => false

end Route

end StationFinder
