import StationFinder.Settings.Document

/-!
# Loading settings

Settings come from a file, if there is one, and then from environment variables, which have the last word. A variable
with a port counts only if it holds one. In the end the settings have to make sense together.
-/

namespace StationFinder

/-- The variables of the environment that are set. -/
abbrev Environment := List (String × String)

/-- A file with settings: its content, or why it cannot be read. -/
inductive SettingsFile where
  | content (text : String)
  | unreadable (path reason : String)
deriving DecidableEq, Repr

namespace Settings

/-- A port as a variable gives it. -/
def portIn? (environment : Environment) (name : String) : Option Nat :=
  (environment.lookup name).bind (wholeOfText? 65535)

/-- The settings with those changes that the environment asks for. -/
def overridden (s : Settings) (environment : Environment) : Settings :=
  { s with
    server := { s.server with
      host := (environment.lookup "STARPORT_HOST").getD s.server.host
      port := (portIn? environment "STARPORT_PORT").getD s.server.port }
    feed := { s.feed with
      enabled := ((environment.lookup "STARPORT_FEED_ENABLED").map (· == "true")).getD s.feed.enabled
      host := (environment.lookup "STARPORT_FEED_HOST").getD s.feed.host
      port := (portIn? environment "STARPORT_FEED_PORT").getD s.feed.port }
    catalogPath := ((environment.lookup "STARPORT_CATALOG_PATH").filter (· ≠ "")).or s.catalogPath
    logging := { s.logging with
      format := (environment.lookup "STARPORT_LOG_FORMAT").getD s.logging.format } }

/-- The exponent of the longest backoff stays below the bits of a time. -/
def exponentLimit : Nat := 64

/-- What makes no sense in the settings, if anything. -/
def fault? (s : Settings) : Option SettingsFault :=
  if s.search.maxResults = 0 then some .noResults
  else if s.search.maxShellRadius < 0 then some .negativeRadius
  else if exponentLimit ≤ s.feed.maxBackoffExponent then some (.exponentTooLarge exponentLimit)
  else if s.feed.maxFrameBytes = 0 then some .noFrameBytes
  else none

/-- The settings in a file, or the defaults without one. -/
def ofFile (file : Option SettingsFile) : Except Fault Settings :=
  match file with
  | none => .ok {}
  | some (.unreadable path reason) => .error (.settings (.unreadable path reason))
  | some (.content text) =>
    match (Toml.parse text).bind ofEntries? with
    | some s => .ok s
    | none => .error (.settings .malformed)

/-- The settings from a file and the environment. -/
def load (file : Option SettingsFile) (environment : Environment) : Except Fault Settings := do
  let s := (← ofFile file).overridden environment
  match s.fault? with
  | none => return s
  | some fault => throw (.settings fault)

/-- The file to take settings from: the one that the environment names, or else one with the usual name, if it
exists. -/
def path? (environment : Environment) (usualExists : Bool) : Option String :=
  (environment.lookup "STARPORT_CONFIG").or (if usualExists then some "starport.toml" else none)

end Settings

end StationFinder
