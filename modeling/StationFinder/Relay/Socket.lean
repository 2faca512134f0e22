import StationFinder.Fault

/-!
# A socket without a connection

What a subscription to the relay answers as long as it has no connection. Its context can be terminated, once and for
all, and then every attempt to connect or to receive is told so. Closing changes nothing.
-/

namespace StationFinder

/-- A subscription without a connection. -/
structure IdleSocket where
  /-- Has its context been terminated? -/
  terminated : Bool
deriving DecidableEq, Repr

namespace IdleSocket

/-- Terminates the context. -/
def terminate (_ : IdleSocket) : IdleSocket := ⟨true⟩

/-- Why nothing can be received. -/
def recv (s : IdleSocket) : TransportFault := if s.terminated then .terminated else .io "not connected"

/-- Why no connection can be made, if the socket can tell without trying. -/
def connect? (s : IdleSocket) : Option TransportFault := if s.terminated then some .terminated else none

end IdleSocket

end StationFinder
