/-!
# Health

Whether a part of the program is well, and what it has to say about that.
-/

namespace StationFinder

/-- The health of a part. -/
structure Health where
  healthy : Bool
  message : Option String
deriving DecidableEq, Repr

namespace Health

/-- Well, with nothing to say. -/
def fine : Health := ⟨true, none⟩

def well (message : String) : Health := ⟨true, message⟩

def ill (message : String) : Health := ⟨false, message⟩

end Health

end StationFinder
