import StationFinder.Numeric.Whole
import StationFinder.Search.Nearest

/-!
# Settings

How the program is set up: the address it serves, the relay it listens to, how far it searches, where its files are
and how it logs. Everything has a default.
-/

namespace StationFinder

/-- How requests are served. -/
structure ServerSettings where
  host : String := "0.0.0.0"
  port : Nat := 8080
  requestTimeoutSecs : Nat := 30
  maxRequestBodyKb : Nat := 64
  /-- The least number of characters in a search for names. -/
  minSearchLength : Nat := 3
deriving DecidableEq, Repr

/-- How the relay is listened to. -/
structure FeedSettings where
  enabled : Bool := true
  host : String := "eddn-relay.elite-markets.net"
  port : Nat := 9500
  /-- How long to wait for a frame before connecting anew. -/
  recvTimeoutSecs : Nat := 300
  /-- How long to wait after the first failure. -/
  backoffBaseSecs : Nat := 15
  /-- After how many failures the wait stops doubling. -/
  maxBackoffExponent : Nat := 6
  /-- The greatest size of a message. It is less than the largest number of sixty-four bits, since one byte more is
  counted too. -/
  maxFrameBytes : Nat := 524288
deriving DecidableEq, Repr

/-- What is logged, and in which form. -/
structure LoggingSettings where
  level : String := "info"
  format : String := "json"
deriving DecidableEq, Repr

/-- All settings. -/
structure Settings where
  server : ServerSettings := {}
  feed : FeedSettings := {}
  search : SearchLimits := { maxShellRadius := 5, maxResults := 15 }
  /-- The file with the catalog document; without one the reference catalog is used. -/
  catalogPath : Option String := none
  /-- The snapshot files. -/
  systemsPath : Option String := none
  stationsPath : Option String := none
  logging : LoggingSettings := {}
deriving DecidableEq, Repr

namespace FeedSettings

/-- The address of the relay. -/
def endpoint (f : FeedSettings) : String := s!"tcp://{f.host}:{f.port}"

/-- The longest time in seconds that can be told. -/
def longestWait : Nat := max64

/-- How many bits a number of seconds has. -/
def waitBits : Nat := 64

/-- What doubling so many times multiplies by. Where that has too many bits, it is the greatest number there is. -/
def growth (doublings : Nat) : Nat := if doublings < waitBits then 1 <<< doublings else longestWait

/-- How many seconds to wait after a failure: the base, doubled for each failure before it up to a point, but no more
than the longest wait. -/
def backoff (f : FeedSettings) (failures : Nat) : Nat :=
  min (f.backoffBaseSecs * growth (min failures f.maxBackoffExponent)) longestWait

end FeedSettings

end StationFinder
