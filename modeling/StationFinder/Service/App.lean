import StationFinder.Catalog.Reference
import StationFinder.Relay.Stage
import StationFinder.Settings.Load
import StationFinder.Snapshot.Refresh

/-!
# The application

Everything that requests are answered from, and how it comes about: the catalog is loaded, the snapshots are applied,
and the feed is started unless it is disabled. Without a catalog there is no application, and neither without a thread
for the feed; a snapshot that cannot be applied only shows in the status of the refresh.
-/

namespace StationFinder

/-- A file with a catalog document: its content, or why it cannot be read. -/
inductive CatalogFile where
  | content (text : String)
  | unreadable (path reason : String)
deriving DecidableEq, Repr

/-- The catalog in a file, or the reference catalog without one. -/
def Catalog.load : Option CatalogFile → Except Fault Catalog
  | none => Catalog.reference
  | some (.content text) => Catalog.parse text
  | some (.unreadable path reason) => .error (.catalog (.unreadable path reason))

/-- The files an application starts from. -/
structure StartFiles where
  catalog : Option CatalogFile
  systems : Option SnapshotFile
  stations : Option SnapshotFile

/-- What requests are answered from. -/
structure App where
  catalog : Catalog
  settings : Settings
  store : Store
  refreshStatus : RefreshStatus
  /-- The health of the feed; none if it is disabled. -/
  feed : Option Health

namespace App

/-- The health of the feed as it is shown. -/
def feedHealth (app : App) : Health := app.feed.getD (.well "feed disabled")

/-- Is all well? -/
def isReady (app : App) : Bool := app.feedHealth.healthy && app.refreshStatus.health.healthy

/-- An application without a feed. The detail is what the reader says of a snapshot that it refuses. -/
def load (settings : Settings) (files : StartFiles) (clock : Clock) (detail : String) : Except Fault App := do
  let catalog ← Catalog.load files.catalog
  let (_, refreshed) :=
    (Refreshed.mk .empty .neverRun).refreshConfigured catalog files.systems files.stations clock detail
  return { catalog, settings, store := refreshed.store, refreshStatus := refreshed.status, feed := none }

/-- The application once its feed is started and has taken in what a script holds. -/
def startFeed (app : App) (provision : Provision) (script : Script) (clock : Clock) : Except Fault App := do
  let (result, stage) := (Stage.ofScript ⟨app.store, .zero⟩ script).start provision
  result
  let stage := stage.settle ⟨app.catalog, app.settings.feed⟩ clock
  return { app with store := stage.supervisor.listener.receiver.store, feed := some stage.supervisor.health }

/-- What an application finds around it when it starts. -/
structure Surroundings where
  files : StartFiles
  /-- The clock while the snapshots are applied. -/
  clock : Clock
  /-- What the reader says of a snapshot that it refuses. -/
  detail : String
  provision : Provision
  /-- What the relay holds for the feed. -/
  script : Script
  /-- The clock while the feed runs. -/
  feedClock : Clock

/-- The application that comes of the settings and the files. -/
def start (settings : Settings) (around : Surroundings) : Except Fault App := do
  let app ← load settings around.files around.clock around.detail
  if settings.feed.enabled then app.startFeed around.provision around.script around.feedClock else return app

end App

end StationFinder
