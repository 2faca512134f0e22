import StationFinder.Proofs.Galaxy.Stock
import StationFinder.Proofs.Search.EarlyStop

/-!
# Offers and flags

The search reads the stock of a station and never looks at its flags. In a store where stock is known under its flag
only, this makes no difference: a station that is said to have the ship has a shipyard, and one where modules were
found has outfitting (`Store.offers_are_flagged`).
-/

namespace StationFinder

/-! ### What the answers are -/

namespace Query

variable {q : Query} {a : Atlas} {origin : StarSystem} {c : Candidate}

/-- An answer is what the query makes of a stored station. -/
theorem answers_of_nearest {size : EntrySize} {limits : SearchLimits} {result : List Candidate}
    (hresult : q.nearest size a origin limits = .ok result) (hc : c ∈ result) :
    ∃ p : Place, q.Answers a origin p c := by
  have hfits : (limits.maxResults + 1) * size.bytes ≤ maxSigned64 := by
    by_contra hover
    rw [q.nearest_of_not_fits a origin (Nat.lt_of_not_le hover)] at hresult
    cases hresult
  rw [q.nearest_of_fits a origin hfits, Except.ok.injEq] at hresult
  rw [← hresult, Shortlist.kept_offerAll] at hc
  have hgathered := (Shortlist.ranked_perm Candidate.rank _).mem_iff.1 (List.mem_of_mem_take hc)
  obtain ⟨r, hr⟩ := mem_candidatesAt_of_mem_gather hgathered
  rw [← map_snd_hits] at hr
  obtain ⟨⟨p, c⟩, hhit, rfl⟩ := List.mem_map.1 hr
  obtain ⟨-, -, -, system, station, hsystem, hstation, hcandidate, -⟩ := mem_hits.1 hhit
  exact ⟨p, system, station, hsystem, hstation, hcandidate⟩

/-- Where nothing is known to be carried, nothing is found. -/
theorem found_eq_zero {stock : Inventory} (h : ∀ category : Category, stock.get category = none) :
    q.found stock = 0 := by
  have hnone (category : Category) : q.foundIn stock category = 0 := by
    rw [foundIn, h]
    cases q.matcher category <;> rfl
  change q.foundIn stock .standard + q.foundIn stock .internal + q.foundIn stock .hardpoint +
    q.foundIn stock .utility = 0
  simp only [hnone]

end Query

/-! ### Stations that have what they are said to have -/

namespace Station.IsFlagged

variable {station : Station} {q : Query}

theorem hasShipyard_of_soldBy (h : station.IsFlagged) (hsold : q.soldBy station = true) :
    station.hasShipyard = true := by
  by_contra hoff
  have hnone := h.ships (Bool.eq_false_iff.2 hoff)
  obtain ⟨ship, -, hsells⟩ := (q.soldBy_iff station).1 hsold
  rw [sells, hnone] at hsells
  cases hsells

theorem hasOutfitting_of_found (h : station.IsFlagged) (hfound : 0 < q.found station.inventory) :
    station.hasOutfitting = true := by
  by_contra hoff
  have hzero : q.found station.inventory = 0 := Query.found_eq_zero (h.modules (Bool.eq_false_iff.2 hoff))
  omega

end Station.IsFlagged

namespace Store

/-- An answer of the search is what the query makes of a stored station. -/
theorem answers_of_findNear {s : Store} {size : EntrySize} {limits : SearchLimits} {name : String} {q : Query}
    {result : List Candidate} (hresult : s.findNear size limits name q = .ok result) {c : Candidate} (hc : c ∈ result) :
    ∃ (origin : StarSystem) (p : Place), q.Answers s.atlas origin p c := by
  cases hq : q.isEmpty with
  | true =>
    rw [findNear, hq, if_pos rfl] at hresult
    cases hresult
  | false =>
    cases horigin : s.atlas.systemNamed? name with
    | none =>
      rw [findNear, hq, if_neg Bool.false_ne_true, systemNamed, horigin] at hresult
      cases hresult
    | some origin =>
      rw [findNear_eq_nearest horigin hq] at hresult
      exact ⟨origin, Query.answers_of_nearest hresult hc⟩

/-- **Nothing is offered without its flag.** Operations lead from the empty store to stores in which no station without
a shipyard lists ships and none without outfitting lists modules, if this is so of the systems that are loaded. So
whatever is searched for there, an answer that claims the ship is about a station with a shipyard, and one with any
modules found about a station with outfitting. -/
theorem offers_are_flagged {s : Store}
    (hs : s.ReachableLoading (StarSystem.AllStations Station.IsFlagged)) :
    (∀ (id key : Nat) (system : StarSystem) (station : Station), s.atlas.systems[id]? = some system →
      system.stations[key]? = some station →
      (station.hasShipyard = false → station.ships = none) ∧
      (station.hasOutfitting = false → ∀ category : Category, station.inventory.get category = none)) ∧
    (∀ (size : EntrySize) (limits : SearchLimits) (name : String) (q : Query) (result : List Candidate),
      s.findNear size limits name q = .ok result → ∀ c ∈ result,
        (c.standing.hasShip = true → c.station.hasShipyard = true) ∧
        (0 < c.standing.modulesFound → c.station.hasOutfitting = true)) := by
  have hall : s.AllStations Station.IsFlagged := hs.allStations Station.keptByReports_isFlagged
  constructor
  · intro id key system station hsystem hstation
    have hflagged := hall id system hsystem key station hstation
    exact ⟨hflagged.ships, hflagged.modules⟩
  · intro size limits name q result hresult c hc
    obtain ⟨origin, p, system, station, hsystem, hstation, rfl⟩ := answers_of_findNear hresult hc
    have hflagged := hall p.system system hsystem p.station station hstation
    exact ⟨hflagged.hasShipyard_of_soldBy, hflagged.hasOutfitting_of_found⟩

/-- A station that sells the Vulture and carries modules, as it is loaded. -/
def galileo : Station :=
  let carried : Inventory := Inventory.unknown.set .internal (some (.ofList 2 [0, 1]))
  ⟨10, 1, "Galileo", none, none, none, none, true, true, 0, carried, some (.ofList [.vulture])⟩

/-- A system with such a station. -/
def loadedSol : StarSystem :=
  (⟨1, "Sol", ⟨0⟩, ⟨0⟩, ⟨0⟩, ⟨0, 0, 0⟩, false, ∅⟩ : StarSystem).withStation 10 galileo

/-- A run in which one station loses its shipyard, and another one, first reported with stock but without flags, turns
out to sell ships. -/
def movedShipyard : Store :=
  let vultures : ShipSet := .ofList [.vulture]
  let report (id : Nat) (name : String) (hasOutfitting : Bool) (inventory : Option Inventory) : StationReport :=
    ⟨id, name, none, none, none, none, false, hasOutfitting, some vultures, inventory⟩
  let s := (Store.empty.loadSystem loadedSol).2
  let s := (s.upsertStation 1 (report 10 "Galileo" true none) 7).2
  let s := (s.upsertStation 1 (report 11 "Abraham Lincoln" false (some galileo.inventory)) 8).2
  (s.updateShips "sol" "abraham lincoln" vultures 9).2

theorem allStations_loadedSol : loadedSol.AllStations Station.IsFlagged := by
  have hgalileo : galileo.IsFlagged := ⟨nofun, nofun⟩
  exact (StarSystem.allStations_of_stations_eq_empty rfl).withStation 10 hgalileo

theorem movedShipyard_offers_are_flagged :
    movedShipyard.ReachableLoading (StarSystem.AllStations Station.IsFlagged) ∧
      (∃ station : Station, movedShipyard.atlas.stationAt? ⟨1, 10⟩ = some station ∧ station.hasShipyard = false ∧
        station.ships = none) ∧
      ∃ result : List Candidate, movedShipyard.findNear Query.sampleSize ⟨3, 5⟩ "sol" .vultureWithModule = .ok result ∧
        (∃ c ∈ result, c.standing.hasShip = true ∧ c.station.hasShipyard = true) ∧
        (∃ c ∈ result, 0 < c.standing.modulesFound ∧ c.station.hasOutfitting = true) := by
  have hs : movedShipyard.ReachableLoading (StarSystem.AllStations Station.IsFlagged) :=
    .updateShips _ _ _ _ (.upsertStation _ _ _ (.upsertStation _ _ _ (.loadSystem allStations_loadedSol .empty)))
  obtain ⟨hstations, hanswers⟩ := offers_are_flagged hs
  refine ⟨hs, ?_, ?_⟩
  · have hclosed : (movedShipyard.atlas.stationAt? ⟨1, 10⟩).any (fun station => !station.hasShipyard) = true := by
      decide +kernel
    obtain ⟨station, hstation, hoff⟩ := (Option.any_eq_true _ _).1 hclosed
    obtain ⟨system, hsystem, hkept⟩ := Option.bind_eq_some_iff.1 hstation
    have hflag : station.hasShipyard = false := by simpa using hoff
    exact ⟨station, hstation, hflag, (hstations 1 10 system station hsystem hkept).1 hflag⟩
  · have hfound : (movedShipyard.findNear Query.sampleSize ⟨3, 5⟩ "sol" .vultureWithModule).toOption.any (fun result =>
        result.any (·.standing.hasShip) && result.any fun c => decide (0 < c.standing.modulesFound)) = true := by
      decide +kernel
    cases hresult : movedShipyard.findNear Query.sampleSize ⟨3, 5⟩ "sol" .vultureWithModule with
    | error fault =>
      rw [hresult] at hfound
      cases hfound
    | ok result =>
      rw [hresult] at hfound
      simp only [Except.toOption, Option.any_some, Bool.and_eq_true, List.any_eq_true, decide_eq_true_eq] at hfound
      obtain ⟨⟨c, hc, hship⟩, d, hd, hmodules⟩ := hfound
      have hflags := hanswers Query.sampleSize ⟨3, 5⟩ "sol" .vultureWithModule result hresult
      exact ⟨result, rfl, ⟨c, hc, hship, (hflags c hc).1 hship⟩, d, hd, hmodules, (hflags d hd).2 hmodules⟩

end Store

end StationFinder
