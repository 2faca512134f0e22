import StationFinder.Health
import StationFinder.Snapshot.Summary

/-!
# Refreshing

A refresh takes a snapshot from a file and applies it. A file that cannot be opened, or not be read to its end, or that
is not a list of good records as a whole, fails the refresh and changes nothing. How the last refresh went is
remembered, and makes for the health of the task. Of the configured files the one with systems comes first, so that the
stations find the systems they belong to; if it fails, the other one is left alone.

What the reader says about a file that it refuses is the `detail` of a refresh. Nothing is assumed about it.
-/

namespace StationFinder

/-- A snapshot file: its content, or why there is none. -/
inductive SnapshotFile where
  | content (bytes : ByteArray)
  /-- It can be opened, but not be read to its end. -/
  | broken
  | unreadable (path reason : String)

/-- The records in a snapshot file. -/
def SnapshotFile.records {α : Type} (read : Json.Value.Reader α) : SnapshotFile → Except Fault (List α)
  | content bytes => match recordsOfBytes? read bytes with
    | some records => .ok records
    | none => .error (.document .malformed)
  | broken => .error (.document .malformed)
  | unreadable path reason => .error (.request (.snapshotUnreadable path reason))

/-- How the last refresh went. -/
inductive RefreshStatus where
  | neverRun
  | succeeded (text : String)
  | failed (text : String)
deriving DecidableEq, Repr

/-- The task is healthy until a refresh fails. -/
def RefreshStatus.health : RefreshStatus → Health
  | neverRun => .well "never run"
  | succeeded text => .well text
  | failed text => .ill text

/-- A store that is refreshed, and how that went last. -/
structure Refreshed where
  store : Store
  status : RefreshStatus

namespace Refreshed

/-- One refresh, of records of some kind. -/
def run (s : Refreshed) (kind : String) (result : Except Fault (Summary × Store)) (detail : String) :
    Except Fault Unit × Refreshed :=
  match result with
  | .ok (summary, store) => (.ok (), ⟨store, .succeeded s!"{summary.changed} {kind} updated"⟩)
  | .error fault => (.error fault, ⟨s.store, .failed s!"{kind} refresh failed: {fault.message detail}"⟩)

/-- A refresh from a file of systems. -/
def refreshSystems (s : Refreshed) (file : SnapshotFile) (detail : String) : Except Fault Unit × Refreshed :=
  s.run "systems" ((file.records SystemReport.ofJson?).map s.store.applySystems) detail

/-- A refresh from a file of stations. -/
def refreshStations (s : Refreshed) (catalog : Catalog) (file : SnapshotFile) (clock : Clock) (detail : String) :
    Except Fault Unit × Refreshed :=
  s.run "stations" ((file.records StationRecord.ofJson?).map (s.store.applyStations catalog · clock)) detail

/-- A refresh from the files that are configured, up to the first that fails. -/
def refreshConfigured (s : Refreshed) (catalog : Catalog) (systems stations : Option SnapshotFile) (clock : Clock)
    (detail : String) : Except Fault Unit × Refreshed :=
  let (result, s) := match systems with
    | some file => s.refreshSystems file detail
    | none => (.ok (), s)
  match result, stations with
  | .ok _, some file => s.refreshStations catalog file clock detail
  | result, _ => (result, s)

end Refreshed

end StationFinder
