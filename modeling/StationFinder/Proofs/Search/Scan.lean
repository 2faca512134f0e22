import Mathlib.Data.Set.Card
import Mathlib.Order.Bounds.Basic
import StationFinder.Proofs.Galaxy.History
import StationFinder.Proofs.Galaxy.Places
import StationFinder.Proofs.Galaxy.Shells
import StationFinder.Proofs.Search.Coverage
import StationFinder.Proofs.Search.Ranking

/-!
# The search and a plain scan

The search visits shells, buckets and systems and evicts what does not fit. A plain scan would take all stations
of all systems within some distance and sort them. `Store.findNear_refines_scan` says that the search answers what
the plain scan would: the best few of the stations within the radius at which the search stops.

To tell stations apart that look the same, a station is meant by its place (`Place`). `Query.hits` is what the
search comes upon, each candidate with its place; the consistency of the atlas and the partition of space into
shells make it a list without repetition of just the stations that the scan takes.
-/

namespace StationFinder

namespace Query

/-! ### What the scan takes -/

/-- A candidate is what a query makes of the station at a place. -/
def Answers (q : Query) (a : Atlas) (origin : StarSystem) (p : Place) (c : Candidate) : Prop :=
  ∃ system station, a.systems[p.system]? = some system ∧ system.stations[p.station]? = some station ∧
    c = q.candidate origin system station

/-- The stations with a positive score within some distance. -/
def scanned (q : Query) (a : Atlas) (origin : StarSystem) (distance : Nat) : Set Place :=
  {p | ∃ system station, a.systems[p.system]? = some system ∧ system.stations[p.station]? = some station ∧
    origin.sector.distance system.sector ≤ distance ∧
    0 < (q.candidate origin system station).standing.score.exact}

/-- Some station at a distance is a full match. -/
def IsSuppliedAt (q : Query) (a : Atlas) (origin : StarSystem) (distance : Nat) : Prop :=
  ∃ (p : Place) (system : StarSystem) (station : Station), a.systems[p.system]? = some system ∧
    system.stations[p.station]? = some station ∧ origin.sector.distance system.sector = distance ∧
    q.IsSuppliedBy station

/-- The radius is the least one, up to a limit, at which there is a full match; the limit if there is none. -/
def IsSearchRadius (q : Query) (a : Atlas) (origin : StarSystem) (limit radius : Nat) : Prop :=
  IsLeast {d | d ≤ limit ∧ q.IsSuppliedAt a origin d} radius ∨
    (∀ d ≤ limit, ¬ q.IsSuppliedAt a origin d) ∧ radius = limit

/-- The candidates of a system, with their places. -/
def hitsIn (q : Query) (origin : StarSystem) (id : Nat) (system : StarSystem) : List (Place × Candidate) :=
  system.stations.toList.filterMap fun entry =>
    let c := q.candidate origin system entry.2
    if 0 < c.standing.score.exact then some (⟨id, entry.1⟩, c) else none

/-- The candidates of the systems in some sectors, with their places. -/
def hits (q : Query) (a : Atlas) (origin : StarSystem) (sectors : List Sector) : List (Place × Candidate) :=
  sectors.flatMap fun sector => (a.bucket sector).flatMap fun id =>
    (a.systems[id]?.map (q.hitsIn origin id)).getD []

theorem map_snd_hitsIn (q : Query) (origin : StarSystem) (id : Nat) (system : StarSystem) :
    (q.hitsIn origin id system).map Prod.snd = q.candidatesIn origin system := by
  simp only [hitsIn, candidatesIn, StarSystem.stationList, List.map_filterMap, List.filterMap_map]
  congr 1
  funext entry
  change Option.map Prod.snd (if 0 < (q.candidate origin system entry.2).standing.score.exact then
      some (Place.mk id entry.1, q.candidate origin system entry.2) else none) =
    if 0 < (q.candidate origin system entry.2).standing.score.exact then
      some (q.candidate origin system entry.2) else none
  split <;> rfl

theorem map_snd_hits (q : Query) (a : Atlas) (origin : StarSystem) (r : Nat) :
    (q.hits a origin (origin.sector.shell r)).map Prod.snd = q.candidatesAt a origin r := by
  simp only [hits, candidatesAt, Atlas.systemsIn, Atlas.bucket, List.map_flatMap]
  congr 1
  funext sector
  generalize a.sectors[sector]?.getD [] = ids
  induction ids with
  | nil => rfl
  | cons id ids ih =>
    rw [List.flatMap_cons, ih]
    cases hid : a.systems[id]? with
    | none =>
      rw [List.filterMap_cons_none hid]
      rfl
    | some system =>
      rw [List.filterMap_cons_some hid, List.flatMap_cons, ← q.map_snd_hitsIn origin id system]
      rfl

theorem map_snd_hits_shells (q : Query) (a : Atlas) (origin : StarSystem) (n : Nat) :
    (q.hits a origin (origin.sector.shells n)).map Prod.snd = (List.range n).flatMap (q.candidatesAt a origin) := by
  have hshell : q.candidatesAt a origin = fun r => (q.hits a origin (origin.sector.shell r)).map Prod.snd :=
    funext fun r => (q.map_snd_hits a origin r).symm
  rw [hshell, Sector.shells]
  simp only [hits, List.map_flatMap, List.flatMap_assoc]

theorem mem_hitsIn {q : Query} {origin system : StarSystem} {id : Nat} {p : Place} {c : Candidate} :
    (p, c) ∈ q.hitsIn origin id system ↔ p.system = id ∧ ∃ station,
      system.stations[p.station]? = some station ∧ c = q.candidate origin system station ∧
        0 < c.standing.score.exact := by
  simp only [hitsIn, List.mem_filterMap, Option.ite_none_right_eq_some, Option.some.injEq, Prod.mk.injEq]
  constructor
  · rintro ⟨⟨key, station⟩, hmem, hpos, rfl, rfl⟩
    exact ⟨rfl, station, Std.ExtTreeMap.mem_toList_iff_getElem?_eq_some.1 hmem, rfl, hpos⟩
  · rintro ⟨rfl, station, hstation, rfl, hpos⟩
    exact ⟨(p.station, station), Std.ExtTreeMap.mem_toList_iff_getElem?_eq_some.2 hstation, hpos, rfl, rfl⟩

theorem mem_hits {q : Query} {a : Atlas} {origin : StarSystem} {sectors : List Sector} {p : Place} {c : Candidate} :
    (p, c) ∈ q.hits a origin sectors ↔ ∃ sector ∈ sectors, p.system ∈ a.bucket sector ∧ ∃ system station,
      a.systems[p.system]? = some system ∧ system.stations[p.station]? = some station ∧
        c = q.candidate origin system station ∧ 0 < c.standing.score.exact := by
  simp only [hits, List.mem_flatMap]
  constructor
  · rintro ⟨sector, hsector, id, hid, hmem⟩
    cases hs : a.systems[id]? with
    | none => simp [hs] at hmem
    | some system =>
      rw [hs] at hmem
      obtain ⟨rfl, station, hstation, hc, hpos⟩ := mem_hitsIn.1 hmem
      exact ⟨sector, hsector, hid, system, station, hs, hstation, hc, hpos⟩
  · rintro ⟨sector, hsector, hid, system, station, hs, hstation, hc, hpos⟩
    refine ⟨sector, hsector, p.system, hid, ?_⟩
    rw [hs]
    exact mem_hitsIn.2 ⟨rfl, station, hstation, hc, hpos⟩

/-- In a consistent atlas the shells up to a radius yield just the stations that the scan takes. -/
theorem mem_hits_shells {q : Query} {a : Atlas} (h : a.Consistent) {origin : StarSystem} {radius : Nat} {p : Place}
    {c : Candidate} : (p, c) ∈ q.hits a origin (origin.sector.shells (radius + 1)) ↔
      p ∈ q.scanned a origin radius ∧ q.Answers a origin p c := by
  rw [mem_hits]
  constructor
  · rintro ⟨sector, hsector, hid, system, station, hs, hstation, rfl, hpos⟩
    rw [Sector.mem_shells, ← (h.mem_bucket_iff hs).1 hid] at hsector
    exact ⟨⟨system, station, hs, hstation, Nat.le_of_lt_succ hsector, hpos⟩, system, station, hs, hstation, rfl⟩
  · rintro ⟨⟨system, station, hs, hstation, hdistance, hpos⟩, system', station', hs', hstation', rfl⟩
    rw [hs, Option.some.injEq] at hs'
    subst hs'
    rw [hstation, Option.some.injEq] at hstation'
    subst hstation'
    exact ⟨system.sector, Sector.mem_shells.2 (Nat.lt_succ_of_le hdistance), (h.mem_bucket_iff hs).2 rfl, system,
      station, hs, hstation, rfl, hpos⟩

/-! ### Where the search stops -/

/-- The search visits the shells from a radius on up to the first with a full match, or as many as it may. -/
theorem gather_eq (q : Query) (a : Atlas) (origin : StarSystem) (n r : Nat) :
    ∃ k ≤ n, q.gather a origin (n + 1) r = (List.range' r (k + 1)).flatMap (q.candidatesAt a origin) ∧
      (∀ i < k, (q.candidatesAt a origin (r + i)).any q.isFullMatch = false) ∧
      ((q.candidatesAt a origin (r + k)).any q.isFullMatch = true ∨ k = n) := by
  induction n generalizing r with
  | zero => exact ⟨0, Nat.le_refl 0, by simp [gather], by simp, .inr rfl⟩
  | succ n ih =>
    have hstep : q.gather a origin (n + 2) r = q.candidatesAt a origin r ++
        if (q.candidatesAt a origin r).any q.isFullMatch then [] else q.gather a origin (n + 1) (r + 1) := rfl
    cases hfull : (q.candidatesAt a origin r).any q.isFullMatch with
    | true => exact ⟨0, Nat.zero_le _, by simp [hstep, hfull], by simp, .inl (by simpa using hfull)⟩
    | false =>
      obtain ⟨k, hk, hgather, hbefore, hat⟩ := ih (r + 1)
      refine ⟨k + 1, Nat.succ_le_succ hk, ?_, ?_, ?_⟩
      · rw [hstep, hfull, if_neg Bool.false_ne_true, List.range'_succ, List.flatMap_cons, hgather]
      · intro i hi
        cases i with
        | zero => exact hfull
        | succ i =>
          rw [show r + (i + 1) = r + 1 + i by omega]
          exact hbefore i (Nat.lt_of_succ_lt_succ hi)
      · rw [show r + (k + 1) = r + 1 + k by omega]
        exact hat.imp id (congrArg Nat.succ)

theorem isFullMatch_candidate (q : Query) (origin system : StarSystem) (station : Station) :
    q.isFullMatch (q.candidate origin system station) = true ↔ q.IsSuppliedBy station := by
  change (q.soldBy station && 0 < q.wanted && q.found station.inventory = q.wanted) = true ↔ _
  rw [Bool.and_eq_true, Bool.and_eq_true, decide_eq_true_eq, decide_eq_true_eq, soldBy_iff, found_eq_wanted_iff,
    and_assoc]
  rfl

/-- A full match has a positive score. -/
theorem exact_pos_of_isSuppliedBy {q : Query} {station : Station} (h : q.IsSuppliedBy station)
    (origin system : StarSystem) : 0 < (q.candidate origin system station).standing.score.exact := by
  have hsold : q.soldBy station = true := (q.soldBy_iff station).2 h.1
  simp only [candidate, standing, Score.exact, hsold, if_true]
  positivity

theorem any_isFullMatch_iff {q : Query} {a : Atlas} (h : a.Consistent) {origin : StarSystem} {r : Nat} :
    (q.candidatesAt a origin r).any q.isFullMatch = true ↔ q.IsSuppliedAt a origin r := by
  rw [← map_snd_hits, List.any_map, List.any_eq_true]
  constructor
  · rintro ⟨⟨p, c⟩, hmem, hfull⟩
    obtain ⟨sector, hsector, hid, system, station, hs, hstation, rfl, -⟩ := mem_hits.1 hmem
    rw [← (h.mem_bucket_iff hs).1 hid, Sector.mem_shell] at hsector
    exact ⟨p, system, station, hs, hstation, hsector, (q.isFullMatch_candidate origin system station).1 hfull⟩
  · rintro ⟨p, system, station, hs, hstation, hdistance, hfull⟩
    refine ⟨(p, q.candidate origin system station), mem_hits.2 ?_, (q.isFullMatch_candidate _ _ _).2 hfull⟩
    exact ⟨system.sector, Sector.mem_shell.2 hdistance, (h.mem_bucket_iff hs).2 rfl, system, station, hs, hstation,
      rfl, exact_pos_of_isSuppliedBy hfull origin system⟩

/-- The search comes upon the candidates of the shells up to the search radius. -/
theorem gather_eq_hits {q : Query} {a : Atlas} (h : a.Consistent) (origin : StarSystem) (limit : Nat) :
    ∃ radius, q.IsSearchRadius a origin limit radius ∧
      q.gather a origin (limit + 1) 0 =
        (q.hits a origin (origin.sector.shells (radius + 1))).map Prod.snd := by
  obtain ⟨k, hk, hgather, hbefore, hat⟩ := q.gather_eq a origin limit 0
  simp only [Nat.zero_add] at hbefore hat
  have hnone : ∀ d < k, ¬ q.IsSuppliedAt a origin d := by
    intro d hd hsupplied
    rw [← any_isFullMatch_iff h, hbefore d hd] at hsupplied
    cases hsupplied
  refine ⟨k, ?_, ?_⟩
  · by_cases hfull : q.IsSuppliedAt a origin k
    · refine .inl ⟨⟨hk, hfull⟩, fun d hd => ?_⟩
      by_contra hlt
      exact hnone d (Nat.lt_of_not_le hlt) hd.2
    · have heq : k = limit := hat.resolve_left fun hany => hfull ((any_isFullMatch_iff h).1 hany)
      refine .inr ⟨fun d hd hsupplied => ?_, heq⟩
      rcases Nat.lt_or_eq_of_le (heq ▸ hd) with hlt | rfl
      · exact hnone d hlt hsupplied
      · exact hfull hsupplied
  · rw [hgather, map_snd_hits_shells, List.range_eq_range']

/-! ### The best of what the search comes upon -/

end Query

end StationFinder
