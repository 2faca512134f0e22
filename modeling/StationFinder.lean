import StationFinder.Catalog.Build
import StationFinder.Catalog.Descriptor
import StationFinder.Catalog.Document
import StationFinder.Catalog.Group
import StationFinder.Catalog.Reference
import StationFinder.Catalog.Space
import StationFinder.Deflate.Bits
import StationFinder.Deflate.Block
import StationFinder.Deflate.PrefixCode
import StationFinder.Deflate.Stored
import StationFinder.Deflate.Stream
import StationFinder.Fault
import StationFinder.Galaxy.Atlas
import StationFinder.Galaxy.Sector
import StationFinder.Galaxy.StarSystem
import StationFinder.Galaxy.Station
import StationFinder.Galaxy.Store
import StationFinder.Health
import StationFinder.Json.Reader
import StationFinder.Json.Record
import StationFinder.Json.Value
import StationFinder.Numeric.Binary64
import StationFinder.Numeric.Decimal
import StationFinder.Numeric.Shortest
import StationFinder.Numeric.Whole
import StationFinder.Outfit.Category
import StationFinder.Outfit.Inventory
import StationFinder.Outfit.ModuleSet
import StationFinder.Proofs.Catalog.Encodings
import StationFinder.Proofs.Catalog.Numbering
import StationFinder.Proofs.Galaxy.Consistency
import StationFinder.Proofs.Galaxy.History
import StationFinder.Proofs.Galaxy.Shells
import StationFinder.Proofs.Json.Quoted
import StationFinder.Proofs.Relay.SchemaReference
import StationFinder.Proofs.Search.Coverage
import StationFinder.Proofs.Search.Ranking
import StationFinder.Proofs.Search.Scan
import StationFinder.Proofs.Search.Shortlist
import StationFinder.Proofs.Text.Spelling
import StationFinder.Relay.Announcement
import StationFinder.Relay.Frame
import StationFinder.Relay.Listener
import StationFinder.Relay.Receiver
import StationFinder.Relay.Rehearsal
import StationFinder.Relay.Schema
import StationFinder.Relay.Socket
import StationFinder.Relay.Stage
import StationFinder.Relay.Supervisor
import StationFinder.Search.Nearest
import StationFinder.Search.Query
import StationFinder.Search.Shortlist
import StationFinder.Search.Standing
import StationFinder.Service.Address
import StationFinder.Service.App
import StationFinder.Service.Find
import StationFinder.Service.Response
import StationFinder.Service.Route
import StationFinder.Service.View
import StationFinder.Settings.Basic
import StationFinder.Settings.Document
import StationFinder.Settings.Load
import StationFinder.Ship
import StationFinder.Snapshot.Record
import StationFinder.Snapshot.Refresh
import StationFinder.Snapshot.Summary
import StationFinder.Text.Ascii
import StationFinder.Text.Blank
import StationFinder.Text.CaseTable
import StationFinder.Text.Lower
import StationFinder.Text.Search
import StationFinder.Text.Utf8
import StationFinder.Toml.Reader
import StationFinder.Toml.Scalar
import StationFinder.Toml.Value
import StationFinder.Proofs.Galaxy.Naming
import StationFinder.Proofs.Relay.LastWord
import StationFinder.Proofs.Galaxy.Geometry
import StationFinder.Proofs.Search.EarlyStop
import StationFinder.Proofs.Relay.Conversation
import StationFinder.Proofs.Relay.Rehearsed
import StationFinder.Proofs.Galaxy.Stock
import StationFinder.Proofs.Relay.Balance
import StationFinder.Proofs.Snapshot.SystemsApplied
import StationFinder.Proofs.Search.Offers
import StationFinder.Proofs.Snapshot.Repeated
import StationFinder.Proofs.Galaxy.Quotients
import StationFinder.Proofs.Search.Nearby
import StationFinder.Proofs.Search.BoundedHeap
import StationFinder.Proofs.Catalog.IdSets
import StationFinder.Proofs.Search.Demand
import StationFinder.Proofs.Relay.Endings
import StationFinder.Proofs.Relay.Workers
import StationFinder.Proofs.Catalog.Lookup
import StationFinder.Proofs.Catalog.Descriptions
import StationFinder.Proofs.Snapshot.SystemReports
import StationFinder.Proofs.Snapshot.StationReports
import StationFinder.Proofs.Relay.Entries
import StationFinder.Proofs.Relay.Pauses
import StationFinder.Proofs.Text.Fragments
import StationFinder.Proofs.Galaxy.NameSearch
import StationFinder.Proofs.Galaxy.StationNames
import StationFinder.Proofs.Catalog.ShipNames
import StationFinder.Proofs.Catalog.WellFormed
import StationFinder.Proofs.Snapshot.Decoding
import StationFinder.Proofs.Snapshot.Refreshes
import StationFinder.Proofs.Settings.Waits
import StationFinder.Proofs.Relay.FrameLimit
import StationFinder.Proofs.Service.Finding
import StationFinder.Proofs.Outfit.Bounds
import StationFinder.Proofs.Galaxy.Supplies
