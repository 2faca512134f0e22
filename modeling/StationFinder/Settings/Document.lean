import StationFinder.Settings.Basic
import StationFinder.Toml.Reader

/-!
# Settings in a document

Settings are read from a TOML document with a table for each section. A section is a table or, as it happens, a list
of its values in order; what is left out keeps its default, and what is not known is ignored. A value of the wrong
kind or out of range makes the document unusable.
-/

namespace StationFinder

/-- Where the values of a section are taken from. -/
inductive Section where
  | named (entries : Toml.Entries)
  | listed (items : List Toml.Value)

namespace Section

/-- A section of a document; one that is missing has no entries. -/
def of? (document : Toml.Entries) (name : String) : Option Section :=
  match document.lookup name with
  | none => some (named [])
  | some (.table _ entries) => some (named entries)
  | some (.list items) => some (listed items)
  | some (.tables elements) => some (listed (elements.map (.table .headed)))
  | some _ => none

/-- The value of a field of a section, which is at a place when the values are listed; the default if it is left
out. -/
def field {α : Type} (s : Section) (place : Nat) (name : String) (default : α) (read : Toml.Value → Option α) :
    Option α :=
  let value? := match s with
    | named entries => entries.lookup name
    | listed items => items[place]?
  match value? with
  | some value => read value
  | none => some default

end Section

namespace Settings

/-! ### Kinds of values -/

def readText : Toml.Value → Option String
  | .text content => some content
  | _ => none

def readPath (v : Toml.Value) : Option (Option String) := (readText v).map some

def readBool : Toml.Value → Option Bool
  | .bool b => some b
  | _ => none

/-- An integer between bounds. -/
def readInteger (least greatest : Int) : Toml.Value → Option Int
  | .integer n => if least ≤ n && n ≤ greatest then some n else none
  | _ => none

/-- A natural number up to a bound. -/
def readNatural (greatest : Nat) (v : Toml.Value) : Option Nat := (readInteger 0 greatest v).map Int.toNat

def readPort : Toml.Value → Option Nat := readNatural 65535

/-- A number or an amount of sixty-four bits. -/
def readAmount : Toml.Value → Option Nat := readNatural max64

/-! ### Sections -/

def readServer (s : Section) (d : ServerSettings) : Option ServerSettings := do
  some {
    host := ← s.field 0 "host" d.host readText
    port := ← s.field 1 "port" d.port readPort
    requestTimeoutSecs := ← s.field 2 "request_timeout_secs" d.requestTimeoutSecs readAmount
    maxRequestBodyKb := ← s.field 3 "max_request_body_kb" d.maxRequestBodyKb readAmount
    minSearchLength := ← s.field 4 "min_search_length" d.minSearchLength readAmount }

def readFeed (s : Section) (d : FeedSettings) : Option FeedSettings := do
  some {
    enabled := ← s.field 0 "enabled" d.enabled readBool
    host := ← s.field 1 "host" d.host readText
    port := ← s.field 2 "port" d.port readPort
    recvTimeoutSecs := ← s.field 3 "recv_timeout_secs" d.recvTimeoutSecs readAmount
    backoffBaseSecs := ← s.field 4 "backoff_base_secs" d.backoffBaseSecs readAmount
    maxBackoffExponent := ← s.field 5 "max_backoff_exponent" d.maxBackoffExponent (readNatural max32)
    maxFrameBytes := ← s.field 6 "max_frame_bytes" d.maxFrameBytes readAmount }

def readSearch (s : Section) (d : SearchLimits) : Option SearchLimits := do
  some {
    maxShellRadius := ← s.field 0 "max_shell_radius" d.maxShellRadius (readInteger (-maxSigned32 - 1) maxSigned32)
    maxResults := ← s.field 1 "max_results" d.maxResults readAmount }

def readLogging (s : Section) (d : LoggingSettings) : Option LoggingSettings := do
  some {
    level := ← s.field 0 "level" d.level readText
    format := ← s.field 1 "format" d.format readText }

/-- The settings in the entries of a document. -/
def ofEntries? (document : Toml.Entries) : Option Settings := do
  let d : Settings := {}
  let snapshot ← Section.of? document "snapshot"
  some {
    server := ← readServer (← Section.of? document "server") d.server
    feed := ← readFeed (← Section.of? document "feed") d.feed
    search := ← readSearch (← Section.of? document "search") d.search
    catalogPath := ← (← Section.of? document "catalog").field 0 "path" none readPath
    systemsPath := ← snapshot.field 0 "systems_path" none readPath
    stationsPath := ← snapshot.field 1 "stations_path" none readPath
    logging := ← readLogging (← Section.of? document "logging") d.logging }

end Settings

end StationFinder
