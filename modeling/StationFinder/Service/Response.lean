import StationFinder.Service.Find
import StationFinder.Service.Route

/-!
# Answering requests

A request has a method, an address and perhaps an id. It is answered with a status and mostly a body. A path that is
no route is not found, and routes know one method, that of asking; who asks for the head only gets no body. A request
whose address cannot be read is refused without a body. Requests keep the id they come with, if it is written in plain
characters, or are given one; those of watchers are not. A request that breaks down has no answer: its connection is
closed.
-/

namespace StationFinder

/-- A request. -/
structure Request where
  method : String
  address : String
  /-- The id that it comes with. -/
  id : Option String
deriving DecidableEq, Repr

/-- The id under which a request is answered. -/
inductive RequestId where
  | none
  /-- The id that it came with. -/
  | kept (id : String)
  /-- An id made for it. -/
  | fresh
deriving DecidableEq, Repr

/-- How ready the service is, and why. -/
structure Readiness where
  ready : Bool
  feed : Health
  refresh : Health
  systems : Nat
  stations : Nat
deriving DecidableEq, Repr

/-- What an answer holds. -/
inductive Body where
  | alive
  | readiness (r : Readiness)
  | names (names : List String)
  | system (view : SystemView)
  | station (view : StationView)
  | candidates (views : List CandidateView)
  | fault (fault : Fault)

/-- An answer. -/
structure Response where
  status : Nat
  id : RequestId
  /-- The body; none also where it is not structured. -/
  body : Option Body

/-- Why a request gets no proper answer. -/
inductive Refusal where
  /-- The address cannot be read. -/
  | unreadable
  | fault (fault : Fault)
  /-- The request breaks down. -/
  | breakdown

/-- The result of reading or serving a request. -/
abbrev Serving (α : Type) := Except Refusal α

namespace Request

/-- May an id be kept as it is? -/
def isPlainId (id : String) : Bool := id.toList.all fun c => c = '\t' || (0x20 ≤ c.toNat && c.toNat < 0x7F)

/-- The id under which the request is answered. -/
def answerId (r : Request) : RequestId :=
  match r.id.filter isPlainId with
  | some id => .kept id
  | none => .fresh

/-- The value of a named field, which must not be repeated. -/
def field (fields : List (String × String)) (name : String) : Serving (Option String) :=
  match fields.filter (·.1 = name) with
  | [] => .ok none
  | [(_, value)] => .ok (some value)
  | _ => .error .unreadable

/-- A name in the path. -/
def name (part : List Char) : Serving String :=
  match Address.decodePart part with
  | some name => .ok name
  | none => .error .unreadable

/-- The texts of a search, from the fields of a query. -/
def findParams (fields : List (String × String)) : Serving FindParams := do
  return {
    ship := ← field fields "ship"
    standard := ← field fields "standard"
    internal := ← field fields "internal"
    hardpoints := ← field fields "hardpoints"
    utilities := ← field fields "utilities" }

end Request

/-- What a failure is for the request. -/
def Failure.refusal : Failure → Refusal
  | fault cause => .fault cause
  | capacityOverflow => .breakdown

/-- What is answered: a status and perhaps a body, or nothing. -/
def Serving.answer? : Serving (Nat × Option Body) → Option (Nat × Option Body)
  | .ok answer => some answer
  | .error .unreadable => some (400, none)
  | .error (.fault fault) => some (fault.status, some (.fault fault))
  | .error .breakdown => none

namespace App

/-- A result whose fault refuses the request. -/
def orRefuse {α : Type} (result : Except Fault α) : Serving α := result.mapError .fault

/-- How ready the service is. -/
def readiness (app : App) : Readiness where
  ready := app.isReady
  feed := app.feedHealth
  refresh := app.refreshStatus.health
  systems := app.store.atlas.systems.size
  stations := app.store.atlas.stationCount

/-- The systems with a text in their names, which must be long enough. -/
def searchNames (app : App) (part : Option String) : Except Fault (List String) :=
  let least := app.settings.server.minSearchLength
  match part.filter fun part => least ≤ part.length with
  | some part => .ok (app.store.namesContaining part)
  | none => .error (.request (.searchTooShort least))

/-- The status and the body of what a route asks for. -/
def serve (app : App) (size : EntrySize) (route : Route) (fields : List (String × String)) :
    Serving (Nat × Option Body) := do
  match route with
  | .alive => return (200, some .alive)
  | .ready => return (if app.isReady then 200 else 503, some (.readiness app.readiness))
  | .metrics => return (200, none)
  | .systems =>
    let part ← Request.field fields "str"
    return (200, some (.names (← orRefuse (app.searchNames part))))
  | .system name =>
    let system ← orRefuse (app.store.systemNamed (← Request.name name))
    return (200, some (.system (app.catalog.viewSystem system)))
  | .station system name =>
    let (_, station) ← orRefuse (app.store.stationNamed (← Request.name system) (← Request.name name))
    return (200, some (.station (app.catalog.viewStation station)))
  | .near origin =>
    let origin ← Request.name origin
    let params ← Request.findParams fields
    return (200, some (.candidates (← (app.findNear size origin params).mapError Failure.refusal)))

/-- The answer to a request, if there is one. -/
def respond (app : App) (size : EntrySize) (r : Request) : Option Response :=
  let (parts, query) := Address.cut r.address
  match Route.ofPath parts with
  | none => some ⟨404, r.answerId, none⟩
  | some route =>
    let id := if route.isProbe then .none else r.answerId
    if r.method ≠ "GET" && r.method ≠ "HEAD" then some ⟨405, id, none⟩
    else (app.serve size route (Address.fieldsOf query)).answer?.map fun (status, body) =>
      ⟨status, id, if r.method = "HEAD" then none else body⟩

end App

end StationFinder
