import StationFinder.Galaxy.Store
import StationFinder.Snapshot.Record

/-!
# Applying snapshots

The records of a snapshot are reported to the store one after the other, and what came of each is counted. Stations
are stamped with the time, for which the clock is read at each record. The same snapshot applied again finds nothing to
change.
-/

namespace StationFinder

/-- What came of the records of a snapshot. -/
structure Summary where
  created : Nat
  updated : Nat
  unchanged : Nat
  /-- Systems out of range. -/
  dropped : Nat
  /-- Stations of systems that are not stored. -/
  unknownSystem : Nat
  unknownShips : Nat
  unknownModules : Nat
deriving DecidableEq, Repr

namespace Summary

def zero : Summary := ⟨0, 0, 0, 0, 0, 0, 0⟩

/-- How many records made a difference. -/
def changed (s : Summary) : Nat := s.created + s.updated

/-- The summary with the outcome of one more system. -/
def addSystem (s : Summary) : SystemOutcome → Summary
  | .created _ => { s with created := s.created + 1 }
  | .updated _ => { s with updated := s.updated + 1 }
  | .unchanged => { s with unchanged := s.unchanged + 1 }
  | .outOfRange => { s with dropped := s.dropped + 1 }

/-- The summary with the outcome of one more station. -/
def addStation (s : Summary) : StationOutcome → Summary
  | .created => { s with created := s.created + 1 }
  | .updated => { s with updated := s.updated + 1 }
  | .unchanged => { s with unchanged := s.unchanged + 1 }
  | .unknownSystem => { s with unknownSystem := s.unknownSystem + 1 }

/-- The summary with what one more station record left unresolved. -/
def addUnresolved (s : Summary) (d : DecodedStation) : Summary :=
  { s with
    unknownShips := s.unknownShips + d.unknownShips.length
    unknownModules := s.unknownModules + d.unknownModules.length }

end Summary

namespace Store

/-- One system record applied. -/
def applySystem (state : Summary × Store) (r : SystemReport) : Summary × Store :=
  let (outcome, store) := state.2.upsertSystem r
  (state.1.addSystem outcome, store)

/-- System records applied in order. -/
def applySystems (s : Store) (records : List SystemReport) : Summary × Store :=
  records.foldl applySystem (.zero, s)

/-- One station record applied. -/
def applyStation (catalog : Catalog) (now : Nat) (state : Summary × Store) (r : StationRecord) : Summary × Store :=
  let decoded := r.decode catalog
  let (outcome, store) := state.2.upsertStation r.systemId decoded.report now
  ((state.1.addUnresolved decoded).addStation outcome, store)

/-- Station records applied in order. -/
def applyStations (s : Store) (catalog : Catalog) (records : List StationRecord) (clock : Clock) : Summary × Store :=
  records.zipIdx.foldl (fun state (r, reading) => applyStation catalog (clock reading) state r) (.zero, s)

end Store

end StationFinder
