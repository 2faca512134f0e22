import StationFinder.Proofs.Galaxy.Stock
import StationFinder.Proofs.Outfit.Bounds
import StationFinder.Proofs.Relay.LastWord
import StationFinder.Snapshot.Summary

/-!
# Stores supplied through a catalog

Module sets are numbers, and mean something only under the catalog that gave them. A store is supplied through a catalog
(`Store.SuppliedThrough`) when all its stock was resolved with that one: it comes from station records and from frames
of the relay, in any order, among reports about systems. Each of them brings stock over the catalog, reports and the
relay keep what they do not replace, and so all stock in the store is over the catalog
(`Store.SuppliedThrough.allStations`). `Catalog.sets_stay_in_bounds` says this of the store, along with what brings the
stock there and with what is shown of it.
-/

namespace StationFinder

/-! ### What comes over the relay -/

theorem Receiver.store_handleFrame {r : Receiver} {t : Tuning} {now : Nat} {bytes : ByteArray} {a : Announcement}
    (h : Frame.announcement t.catalog t.feed.maxFrameBytes bytes = .ok a) :
    (r.handleFrame t now bytes).2.store = r.store.apply now a := by
  rw [handleFrame, h]

variable {catalog : Catalog}

/-- What a payload announces of modules is over the catalog with which it is read. -/
theorem Announcement.isOver_of_ofPayload {payload : String} {a : Announcement} {update : Inventory}
    (h : ofPayload catalog payload = .ok a) (hupdate : a.modules? = some update) : update.IsOver catalog := by
  unfold ofPayload at h
  split at h
  · cases h
    cases hupdate
  · obtain ⟨message, -, h⟩ := Catalog.bind_eq_ok h
    cases h
    cases hupdate
  · obtain ⟨⟨system, station, listed⟩, -, h⟩ := Catalog.bind_eq_ok h
    cases h
    cases hupdate
    exact isOver_stockOf catalog listed

/-! ### Stock over a catalog -/

namespace Inventory

theorem isOver_unknown (catalog : Catalog) : unknown.IsOver catalog := by
  intro c s hs
  rw [get_unknown] at hs
  cases hs

/-- An update over the catalog leaves stock over the catalog so. -/
theorem IsOver.updated {stock update : Inventory} (h : stock.IsOver catalog) (hupdate : update.IsOver catalog) :
    (stock.updated update).IsOver catalog := by
  intro c s hs
  rw [get_updated, Option.or_eq_some_iff] at hs
  rcases hs with hs | ⟨-, hs⟩
  · exact hupdate c s hs
  · exact h c s hs

end Inventory

namespace StationReport

/-- Stock that the report lists is over the catalog. -/
def IsOver (r : StationReport) (catalog : Catalog) : Prop :=
  ∀ stock, r.inventory = some stock → stock.IsOver catalog

theorem IsOver.getD {r : StationReport} (h : r.IsOver catalog) {stock : Inventory} (hstock : stock.IsOver catalog) :
    (r.inventory.getD stock).IsOver catalog := by
  cases hlisted : r.inventory with
  | none => exact hstock
  | some listed => exact h listed hlisted

end StationReport

namespace Station

/-- The stock of a station is over the catalog. -/
def IsStockedOver (catalog : Catalog) (s : Station) : Prop := s.inventory.IsOver catalog

theorem isStockedOver_ofReport {r : StationReport} (h : r.IsOver catalog) (systemId now : Nat) :
    (ofReport systemId r now).IsStockedOver catalog := by
  unfold IsStockedOver ofReport
  dsimp only
  split
  · exact h.getD (Inventory.isOver_unknown catalog)
  · exact Inventory.isOver_unknown catalog

/-- Stock is replaced by that of the report, cleared, or left as it was. -/
theorem IsStockedOver.aligned {s : Station} (hs : s.IsStockedOver catalog) {r : StationReport} (h : r.IsOver catalog) :
    (s.aligned r).IsStockedOver catalog := by
  unfold IsStockedOver Station.aligned
  dsimp only
  split
  · exact h.getD hs
  · split
    · exact Inventory.isOver_unknown catalog
    · exact hs

theorem IsStockedOver.revised {s t : Station} (hs : s.IsStockedOver catalog) {r : StationReport}
    (h : r.IsOver catalog) {now : Nat} (ht : s.revised? r now = some t) : t.IsStockedOver catalog := by
  rw [revised?] at ht
  split at ht
  · cases ht
  · rw [← Option.some.inj ht]
    exact hs.aligned h

end Station

/-! ### Stores -/

namespace Store

/-- The stores whose stock is all resolved with one catalog: systems are reported, stations come from records of
snapshots, and frames come over the relay, whatever the receiver counted before and however large frames may be. -/
inductive SuppliedThrough (catalog : Catalog) : Store → Prop where
  | empty : SuppliedThrough catalog .empty
  | systemReport {s : Store} (r : SystemReport) :
      SuppliedThrough catalog s → SuppliedThrough catalog (s.upsertSystem r).2
  | stationRecord {s : Store} (r : StationRecord) (now : Nat) :
      SuppliedThrough catalog s → SuppliedThrough catalog (s.upsertStation r.systemId (r.decode catalog).report now).2
  | frame {s : Store} (traffic : Traffic) (feed : FeedSettings) (now : Nat) (bytes : ByteArray) :
      SuppliedThrough catalog s →
      SuppliedThrough catalog ((⟨s, traffic⟩ : Receiver).handleFrame ⟨catalog, feed⟩ now bytes).2.store

variable {s : Store}

theorem AllStations.apply (h : s.AllStations (Station.IsStockedOver catalog)) (now : Nat) {a : Announcement}
    (ha : ∀ update, a.modules? = some update → update.IsOver catalog) :
    (s.apply now a).AllStations (Station.IsStockedOver catalog) := by
  cases a with
  | discarded => exact h
  | ships system station ships unknown => exact h.updateNamed system station now fun _ hstation => hstation
  | modules system station update unknown unknownCategories =>
    exact h.updateNamed system station now fun _ hstation => hstation.updated (ha update rfl)

/-- A frame brings stock over the catalog with which it is understood, or none. -/
theorem AllStations.handleFrame {r : Receiver} (h : r.store.AllStations (Station.IsStockedOver catalog))
    (feed : FeedSettings) (now : Nat) (bytes : ByteArray) :
    (r.handleFrame ⟨catalog, feed⟩ now bytes).2.store.AllStations (Station.IsStockedOver catalog) := by
  cases hannounced : Frame.announcement catalog feed.maxFrameBytes bytes with
  | error fault =>
    rw [Receiver.handleFrame, hannounced]
    exact h
  | ok a =>
    obtain ⟨payload, -, hpayload⟩ := Catalog.bind_eq_ok hannounced
    rw [Receiver.store_handleFrame (t := ⟨catalog, feed⟩) hannounced]
    exact h.apply now fun _ hupdate => Announcement.isOver_of_ofPayload hpayload hupdate

/-- **All stock is over the catalog through which it came.** -/
theorem SuppliedThrough.allStations (hs : s.SuppliedThrough catalog) :
    s.AllStations (Station.IsStockedOver catalog) := by
  induction hs with
  | empty =>
    intro id system hsystem
    cases (Std.ExtTreeMap.getElem?_empty (a := id)).symm.trans hsystem
  | systemReport r _ ih => exact ih.upsertSystem r
  | stationRecord r now _ ih =>
    have hreport : (r.decode catalog).report.IsOver catalog := fun _ hstock => StationRecord.isOver_of_decode hstock
    exact ih.upsertStation r.systemId (Station.isStockedOver_ofReport hreport r.systemId now)
      fun hstation hrevised => hstation.revised hreport hrevised
  | frame traffic feed now bytes _ ih => exact AllStations.handleFrame (r := ⟨_, traffic⟩) ih feed now bytes

/-! ### Snapshots and frames in series -/

theorem SuppliedThrough.applySystems (hs : s.SuppliedThrough catalog) (records : List SystemReport) :
    (s.applySystems records).2.SuppliedThrough catalog :=
  List.foldlRecOn (motive := fun state => state.2.SuppliedThrough catalog) records applySystem hs
    fun _ hstate r _ => .systemReport r hstate

theorem SuppliedThrough.applyStations (hs : s.SuppliedThrough catalog) (records : List StationRecord)
    (clock : Clock) : (s.applyStations catalog records clock).2.SuppliedThrough catalog :=
  List.foldlRecOn (motive := fun (state : Summary × Store) => state.2.SuppliedThrough catalog) records.zipIdx _ hs
    fun _ hstate timed _ => .stationRecord timed.1 (clock timed.2) hstate

theorem SuppliedThrough.handleAll {r : Receiver} (hr : r.store.SuppliedThrough catalog) (feed : FeedSettings)
    (frames : List (Nat × ByteArray)) : (r.handleAll ⟨catalog, feed⟩ frames).store.SuppliedThrough catalog :=
  List.foldlRecOn (motive := fun (r : Receiver) => r.store.SuppliedThrough catalog) frames _ hr
    fun r hr frame _ => .frame r.traffic feed frame.1 frame.2 hr

end Store

namespace Catalog

/-- **Sets stay within their spaces.** Whether sets are filled from ids, from external ids or from the entries of a
message, no number is out of bounds on the way, and the set that comes out is over the space of its category: made for
its size, with no number beyond. So it is with the sets that are searched for, with those of a station record, and with
those of a message that comes as a text. A description of stock over the catalog leaves nothing out; and all stock in a
store is over the catalog through which it was supplied, each set in the place of its own category. -/
theorem sets_stay_in_bounds (catalog : Catalog) :
    (∀ (c : Category) (listed : List String),
      let space := catalog.space c
      space.setOfIdsWatched listed = (space.setOfIds listed).mapError .refused ∧
      (∀ set, space.setOfIds listed = .ok (some set) → set.IsOver space.count) ∧
      (∀ m, catalog.matcher c listed = .ok (some m) → m.wanted.IsOver space.count) ∧
      space.setOfExternalsWatched listed = .ok (space.setOfExternals listed) ∧
      (space.setOfExternals listed).IsOver space.count) ∧
    (∀ (r : StationRecord) (stock : Inventory), (r.decode catalog).report.inventory = some stock →
      stock.IsOver catalog) ∧
    (∀ (system station : String) (listed : List ListedModule), ∃ reading,
      Reading.readWatched catalog listed = .ok reading ∧ reading.stock.IsOver catalog ∧
      Announcement.ofModules catalog system station listed =
        .modules system station reading.stock reading.unknown reading.unknownCategories) ∧
    (∀ (payload : String) (a : Announcement) (update : Inventory), Announcement.ofPayload catalog payload = .ok a →
      a.modules? = some update → update.IsOver catalog) ∧
    (∀ stock : Inventory, stock.IsOver catalog → catalog.DescribesAll stock) ∧
    ∀ s : Store, s.SuppliedThrough catalog → s.AllStations (Station.IsStockedOver catalog) := by
  refine ⟨fun c listed => ?_, fun r stock => StationRecord.isOver_of_decode, fun system station listed => ?_,
    fun payload a update => Announcement.isOver_of_ofPayload,
    fun stock => describesAll_of_isOver, fun s hs => hs.allStations⟩
  · exact ⟨Space.setOfIdsWatched_eq _ listed, fun set => Space.isOver_of_setOfIds, fun m => isOver_of_matcher,
      Space.setOfExternalsWatched_eq _ listed, Space.isOver_setOfExternals _ listed⟩
  · refine ⟨Reading.read catalog listed, Reading.readWatched_eq catalog listed,
      Reading.isOver_stock_read catalog listed, ?_⟩
    rw [Reading.read_eq]
    rfl

/-- A catalog with scanners of two ratings. -/
def twoScanners : Catalog :=
  ⟨.empty .standard,
    .ofList .internal [⟨"sc1e", some "300", Descriptor.key ⟨none, "Scanner", "1", "E", none, none⟩⟩,
      ⟨"sc1d", some "301", Descriptor.key ⟨none, "Scanner", "1", "D", none, none⟩⟩] (by simp),
    .empty .hardpoint, .empty .utility⟩

/-- A station that sells a scanner and something unknown. -/
def scannerPort : StationRecord where
  id := 10
  systemId := 1
  name := "Galileo"
  distanceToStar := none
  allegiance := none
  maxLandingPadSize := none
  kind := none
  hasShipyard := false
  hasOutfitting := true
  sellingShips := none
  sellingModules := some ["300", "999"]

/-- A frame with a message that the station sells the better scanner. -/
def scannerFrame : ByteArray :=
  ⟨#[120, 1, 1, 126, 0, 129, 255, 123, 34, 36, 115, 99, 104, 101, 109, 97, 82, 101, 102, 34, 58, 34, 104, 116, 116,
    112, 58, 47, 47, 115, 99, 104, 101, 109, 97, 115, 46, 101, 108, 105, 116, 101, 45, 109, 97, 114, 107, 101, 116,
    115, 46, 110, 101, 116, 47, 101, 100, 100, 110, 47, 111, 117, 116, 102, 105, 116, 116, 105, 110, 103, 47, 49,
    34, 44, 34, 109, 101, 115, 115, 97, 103, 101, 34, 58, 91, 34, 83, 111, 108, 34, 44, 34, 71, 97, 108, 105, 108,
    101, 111, 34, 44, 91, 91, 34, 105, 110, 116, 101, 114, 110, 97, 108, 34, 44, 34, 83, 99, 97, 110, 110, 101, 114,
    34, 44, 49, 44, 34, 68, 34, 93, 93, 93, 125, 224, 159, 42, 151]⟩

/-- The stock in the message: the better scanner, and nothing known of other categories. -/
def betterScanner : Inventory := .set .unknown .internal (some (.ofList 2 [1]))

theorem announcement_scannerFrame : Frame.announcement twoScanners 524288 scannerFrame =
    .ok (.modules "Sol" "Galileo" betterScanner [] []) := by
  decide +kernel

/-- The store with the station as it was reported. -/
def reportedScanners : Store :=
  ((Store.empty.applySystems [⟨1, "Sol", ⟨0⟩, ⟨0⟩, ⟨0⟩, false⟩]).2.applyStations twoScanners [scannerPort] (3 + ·)).2

/-- The store once the message has come in. -/
def tradedScanners : Store :=
  ((⟨reportedScanners, .zero⟩ : Receiver).handleAll ⟨twoScanners, {}⟩ [(5, scannerFrame)]).store

theorem tradedScanners_eq : tradedScanners =
    reportedScanners.apply 5 (.modules "Sol" "Galileo" betterScanner [] []) := by
  have hframe : Frame.announcement twoScanners ({} : FeedSettings).maxFrameBytes scannerFrame = _ :=
    announcement_scannerFrame
  rw [tradedScanners, Receiver.handleAll, List.foldl_cons, List.foldl_nil,
    Receiver.store_handleFrame (t := ⟨twoScanners, {}⟩) hframe]

theorem tradedScanners_stay_in_bounds :
    (∃ set, (twoScanners.space .internal).setOfIds ["sc1d", "sc1e"] = .ok (some set) ∧ set.IsOver 2 ∧
      (twoScanners.space .internal).setOfIdsWatched ["sc1d", "sc1e"] = .ok (some set)) ∧
    (∃ m, twoScanners.matcher .internal ["sc1d"] = .ok (some m) ∧ m.wanted.IsOver 2) ∧
    (∃ stock, (scannerPort.decode twoScanners).report.inventory = some stock ∧ stock.IsOver twoScanners ∧
      twoScanners.DescribesAll stock) ∧
    (∃ payload, Announcement.ofPayload twoScanners payload = .ok (.modules "Sol" "Galileo" betterScanner [] []) ∧
      betterScanner.IsOver twoScanners) ∧
    tradedScanners.SuppliedThrough twoScanners ∧
    ∃ system station, tradedScanners.atlas.systems[1]? = some system ∧ system.stations[10]? = some station ∧
      station.IsStockedOver twoScanners ∧ station.inventory.internal = some (.ofList 2 [1]) := by
  obtain ⟨hlists, hrecords, -, hpayloads, hdescribed, hstores⟩ := sets_stay_in_bounds twoScanners
  have hreported : reportedScanners.SuppliedThrough twoScanners := by
    rw [reportedScanners]
    exact .applyStations (.applySystems .empty _) _ _
  have hsupplied : tradedScanners.SuppliedThrough twoScanners := by
    rw [tradedScanners]
    exact Store.SuppliedThrough.handleAll (r := ⟨reportedScanners, .zero⟩) hreported {} _
  refine ⟨?_, ?_, ?_, ?_, hsupplied, ?_⟩
  · obtain ⟨hwatched, hover, -⟩ := hlists .internal ["sc1d", "sc1e"]
    have hset : (twoScanners.space .internal).setOfIds ["sc1d", "sc1e"] = .ok (some (.ofList 2 [1, 0])) := by
      decide +kernel
    refine ⟨_, hset, hover _ hset, ?_⟩
    rw [hwatched, hset]
    rfl
  · obtain ⟨-, -, hmatcher, -⟩ := hlists .internal ["sc1d"]
    have hm : twoScanners.matcher .internal ["sc1d"] = .ok (some ⟨.ofList 2 [1]⟩) := by decide +kernel
    exact ⟨_, hm, hmatcher _ hm⟩
  · have hover := hrecords scannerPort _ rfl
    exact ⟨_, rfl, hover, hdescribed _ hover⟩
  · obtain ⟨payload, -, hpayload⟩ := bind_eq_ok announcement_scannerFrame
    exact ⟨payload, hpayload, hpayloads payload _ _ hpayload rfl⟩
  · have hstock : (tradedScanners.atlas.stationAt? ⟨1, 10⟩).map (fun station => station.inventory.internal) =
        some (some (.ofList 2 [1])) := by
      rw [tradedScanners_eq]
      decide +kernel
    obtain ⟨station, hstation, hinternal⟩ := Option.map_eq_some_iff.1 hstock
    obtain ⟨system, hsystem, hkept⟩ := Option.bind_eq_some_iff.1 hstation
    exact ⟨system, station, hsystem, hkept, hstores _ hsupplied 1 system hsystem 10 station hkept, hinternal⟩

end Catalog

end StationFinder
