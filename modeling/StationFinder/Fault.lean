import StationFinder.Outfit.Category
import StationFinder.Text.Utf8

/-!
# Faults

What can go wrong, by cause, with the wording in one place for each cause and the status under which a service
reports it. A cause that somebody else has already put into words is `stated`. Where a reader refuses a document, or a
compressed stream is broken, the wording ends with what the reader says about it. That depends on the document, and
nothing is assumed about it: it is the `detail` that the wording takes.
-/

namespace StationFinder

/-- Why a catalog document is refused. -/
inductive CatalogFault where
  | malformed
  | unreadable (path reason : String)
  /-- Two modules of one category have the same id. -/
  | duplicateId (category : Category) (id : String)
  | classNotNumeric (id text : String)
  | unknownGroup (id code : String)
  /-- A module has neither a name nor a group. -/
  | nameless (id : String)
  | stated (text : String)
deriving DecidableEq, Repr

def CatalogFault.message (detail : String) : CatalogFault → String
  | malformed => s!"malformed catalog document: {detail}"
  | unreadable path reason => s!"failed to read {path}: {reason}"
  | duplicateId category id => s!"duplicate {category.name} module id '{id}'"
  | classNotNumeric id text => s!"module '{id}' has non-numeric class '{text}'"
  | unknownGroup id code => s!"module '{id}' has unknown group code '{code}'"
  | nameless id => s!"module '{id}' has neither name nor group"
  | stated text => text

/-- Why a request is refused. -/
inductive RequestFault where
  /-- A search for nothing. -/
  | emptyQuery
  /-- A name search with fewer characters than required. -/
  | searchTooShort (least : Nat)
  | snapshotUnreadable (path reason : String)
  | stated (text : String)
deriving DecidableEq, Repr

def RequestFault.message : RequestFault → String
  | emptyQuery => "a ship or at least one module is required"
  | searchTooShort least => s!"query param str is required to be at least {least} characters long"
  | snapshotUnreadable path reason => s!"cannot open snapshot {path}: {reason}"
  | stated text => text

/-- Why settings are refused. -/
inductive SettingsFault where
  | unreadable (path reason : String)
  | malformed
  | noResults
  | negativeRadius
  /-- The exponent of the longest backoff does not stay below `limit`. -/
  | exponentTooLarge (limit : Nat)
  | noFrameBytes
  | stated (text : String)
deriving DecidableEq, Repr

def SettingsFault.message (detail : String) : SettingsFault → String
  | unreadable path reason => s!"failed to read config file {path}: {reason}"
  | malformed => s!"failed to parse config: {detail}"
  | noResults => "search.max_results must be > 0"
  | negativeRadius => "search.max_shell_radius must be >= 0"
  | exponentTooLarge limit => s!"feed.max_backoff_exponent must be < {limit}"
  | noFrameBytes => "feed.max_frame_bytes must be > 0"
  | stated text => text

/-- Why a frame yields no text. -/
inductive FrameFault where
  /-- The compressed stream is broken or cut short. -/
  | corrupt
  | tooLarge (limit : Nat)
  | notText (place : Text.Utf8.Break)
  | stated (text : String)
deriving DecidableEq, Repr

def FrameFault.message (detail : String) : FrameFault → String
  | corrupt => detail
  | tooLarge limit => s!"frame exceeds {limit} bytes once inflated"
  | notText place => place.message
  | stated text => text

/-- Why a document yields no records. -/
inductive DocumentFault where
  /-- It is not JSON, does not have the expected shape, or cannot be read to its end. -/
  | malformed
  | stated (text : String)
deriving DecidableEq, Repr

def DocumentFault.message (detail : String) : DocumentFault → String
  | malformed => detail
  | stated text => text

/-- What a transport reports when a call fails. -/
inductive TransportFault where
  /-- It was shut down on purpose; there is no point in trying again. -/
  | terminated
  | io (text : String)
deriving DecidableEq, Repr

def TransportFault.message : TransportFault → String
  | terminated => "transport terminated"
  | io text => s!"transport io error: {text}"

/-- Anything that can go wrong. -/
inductive Fault where
  | unknownId (id : String)
  | unknownModule (description : String)
  | unknownShip (name : String)
  | catalog (cause : CatalogFault)
  | systemNotFound (name : String)
  | stationNotFound (system station : String)
  | request (cause : RequestFault)
  | settings (cause : SettingsFault)
  | document (cause : DocumentFault)
  | io (text : String)
  | frame (cause : FrameFault)
  | transport (text : String)
deriving DecidableEq, Repr

namespace Fault

/-- The fault in words. The detail is what the reader says that refuses a document or a stream; it comes into no other
fault. -/
def message (fault : Fault) (detail : String := "") : String :=
  match fault with
  | unknownId id => s!"unknown module id: {id}"
  | unknownModule description => s!"unknown module: {description}"
  | unknownShip name => s!"unknown ship: {name}"
  | catalog cause => s!"catalog load error: {cause.message detail}"
  | systemNotFound name => s!"system not found: {name}"
  | stationNotFound system station => s!"station {station} not found in system {system}"
  | request cause => s!"validation error: {cause.message}"
  | settings cause => s!"config error: {cause.message detail}"
  | document cause => s!"json serialization error: {cause.message detail}"
  | io text => s!"io error: {text}"
  | frame cause => s!"decompression error: {cause.message detail}"
  | transport text => s!"transport error: {text}"

/-- The status under which a service reports the fault: not found, the caller's mistake, or its own. -/
def status : Fault → Nat
  | systemNotFound _ | stationNotFound .. => 404
  | unknownId _ | unknownModule _ | unknownShip _ | request _ => 400
  | _ => 500

end Fault

/-- A transport's failure as a fault. -/
def TransportFault.toFault (f : TransportFault) : Fault := .transport f.message

/-- Why a call comes to nothing. It fails with a fault, or it breaks down, and then it has no answer at all. -/
inductive Failure where
  | fault (cause : Fault)
  /-- The call breaks down: a list is to take more memory than a list can. -/
  | capacityOverflow
deriving DecidableEq, Repr

end StationFinder
