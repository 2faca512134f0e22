import StationFinder.Proofs.Galaxy.Geometry
import StationFinder.Proofs.Search.Scan

/-!
# What an early stop costs

The search stops after the first shell with a full match, though sectors farther out may hold stations that are
nearer in light-years: the origin can be at the edge of its sector. `Query.nearestOfAll` is the search that visits every
shell allowed. Where there is no full match the two answer the same. Otherwise the nearest full match of the shells
visited comes first (`Query.kept_gatherAll`), so the search misses a better one only if that is nearer though farther
out (`Query.IsNearestMatch.rank_eq_iff`). `Store.findNear_first_match` says so of every reachable store.
-/

namespace StationFinder

namespace Query

/-- The candidates in a number of shells, with full matches among them or not. -/
def gatherAll (q : Query) (a : Atlas) (origin : StarSystem) (shells : Nat) : List Candidate :=
  (List.range shells).flatMap (q.candidatesAt a origin)

/-- The best stations for a query around a system when all shells allowed are visited. -/
def nearestOfAll (q : Query) (size : EntrySize) (a : Atlas) (origin : StarSystem) (limits : SearchLimits) :
    Except Failure (List Candidate) := do
  let list ← Shortlist.empty size limits.maxResults
  let shells := (limits.maxShellRadius + 1).toNat
  return (list.offerAll Candidate.rank (q.gatherAll a origin shells)).kept

theorem nearestOfAll_of_fits (q : Query) {size : EntrySize} (a : Atlas) (origin : StarSystem) {limits : SearchLimits}
    (h : (limits.maxResults + 1) * size.bytes ≤ maxSigned64) :
    q.nearestOfAll size a origin limits = .ok ((Shortlist.bare limits.maxResults).offerAll Candidate.rank
      (q.gatherAll a origin (limits.maxShellRadius + 1).toNat)).kept := by
  rw [nearestOfAll, Shortlist.empty_of_fits h]
  rfl

/-- The candidate of a full match in a sector at some distance. -/
def IsMatchAt (q : Query) (a : Atlas) (origin : StarSystem) (distance : Nat) (c : Candidate) : Prop :=
  ∃ (p : Place) (system : StarSystem) (station : Station), a.systems[p.system]? = some system ∧
    system.stations[p.station]? = some station ∧ origin.sector.distance system.sector = distance ∧
    q.IsSuppliedBy station ∧ c = q.candidate origin system station

/-- A candidate is a full match in the shells up to a radius, and none there is nearer by the distance that candidates
rank by. -/
structure IsNearestMatch (q : Query) (a : Atlas) (origin : StarSystem) (radius : Nat) (c : Candidate) : Prop where
  exists_isMatchAt : ∃ d ≤ radius, q.IsMatchAt a origin d c
  nearest : ∀ d ≤ radius, ∀ b, q.IsMatchAt a origin d b →
    c.standing.distance.orderKey ≤ b.standing.distance.orderKey

variable {q : Query} {a : Atlas} {origin : StarSystem}

/-! ### Scores of full matches -/

/-- The score of a full match is two. -/
theorem exact_eq_two_of_isSuppliedBy {station : Station} (h : q.IsSuppliedBy station) (d : Binary64) :
    (q.standing station d).score.exact = 2 := by
  obtain ⟨hship, hwanted, hcovered⟩ := h
  have hwanted : (q.wanted : ℚ) ≠ 0 := by exact_mod_cast hwanted.ne'
  rw [exact_standing, if_pos ((q.soldBy_iff station).2 hship), (q.found_eq_wanted_iff _).2 hcovered, div_self hwanted]
  norm_num

/-- Only full matches have a score of two, if some modules are wanted, and there is none above it. -/
theorem isSuppliedBy_of_two_le_exact (hq : 0 < q.wanted) {station : Station} {d : Binary64}
    (h : 2 ≤ (q.standing station d).score.exact) : q.IsSuppliedBy station := by
  have hwanted : (0 : ℚ) < q.wanted := by exact_mod_cast hq
  have hle : (q.found station.inventory : ℚ) / q.wanted ≤ 1 :=
    div_le_one_of_le₀ (by exact_mod_cast q.found_le_wanted station.inventory) hwanted.le
  rw [exact_standing] at h
  by_cases hsold : q.soldBy station = true
  · rw [if_pos hsold] at h
    have hall : (1 : ℚ) ≤ q.found station.inventory / q.wanted := by linarith
    rw [one_le_div hwanted, Nat.cast_le] at hall
    have hfound := (q.found_le_wanted station.inventory).antisymm hall
    exact ⟨(q.soldBy_iff station).1 hsold, hq, (q.found_eq_wanted_iff _).1 hfound⟩
  · rw [if_neg hsold] at h
    linarith

/-! ### Candidates and matches -/

/-- The candidates of the shells up to a radius are those of the stations that a scan takes. -/
theorem mem_gatherAll (h : a.Consistent) {radius : Nat} {c : Candidate} :
    c ∈ q.gatherAll a origin (radius + 1) ↔ ∃ p ∈ q.scanned a origin radius, q.Answers a origin p c := by
  rw [gatherAll, ← map_snd_hits_shells, List.mem_map]
  constructor
  · rintro ⟨⟨p, c⟩, hmem, rfl⟩
    exact ⟨p, mem_hits_shells h |>.1 hmem⟩
  · rintro ⟨p, hp⟩
    exact ⟨(p, c), mem_hits_shells h |>.2 hp, rfl⟩

theorem IsSuppliedAt.exists_isMatchAt {d : Nat} (h : q.IsSuppliedAt a origin d) : ∃ c, q.IsMatchAt a origin d c := by
  obtain ⟨p, system, station, hs, hstation, hd, hfull⟩ := h
  exact ⟨_, p, system, station, hs, hstation, hd, hfull, rfl⟩

/-- A full match is among the candidates of the shells up to its own and beyond. -/
theorem IsMatchAt.mem_gatherAll (h : a.Consistent) {d radius : Nat} {c : Candidate} (hc : q.IsMatchAt a origin d c)
    (hd : d ≤ radius) : c ∈ q.gatherAll a origin (radius + 1) := by
  obtain ⟨p, system, station, hs, hstation, rfl, hfull, rfl⟩ := hc
  exact (Query.mem_gatherAll h).2 ⟨p, ⟨system, station, hs, hstation, hd, exact_pos_of_isSuppliedBy hfull _ _⟩,
    system, station, hs, hstation, rfl⟩

/-! ### The ranks of matches -/

/-- Candidates that are full matches rank by their distances. -/
theorem rank_eq_eq_iff_of_isMatchAt {d e : Nat} {b c : Candidate} (hb : q.IsMatchAt a origin d b)
    (hc : q.IsMatchAt a origin e c) :
    b.rank c = .eq ↔ b.standing.distance.orderKey = c.standing.distance.orderKey := by
  obtain ⟨-, system, station, -, -, -, hfull, rfl⟩ := hb
  obtain ⟨-, system', station', -, -, -, hfull', rfl⟩ := hc
  simp only [Candidate.rank, candidate]
  rw [rank_eq_eq_iff, exact_eq_two_of_isSuppliedBy hfull, exact_eq_two_of_isSuppliedBy hfull', eq_self_iff_true,
    true_and]
  rfl

/-- What does not rank behind a full match is one too, and not farther away. -/
theorem isSuppliedBy_of_rank_ne_gt {system : StarSystem} {station : Station} {d : Nat} {c : Candidate}
    (hc : q.IsMatchAt a origin d c) (hrank : (q.candidate origin system station).rank c ≠ .gt) :
    q.IsSuppliedBy station ∧
      (q.candidate origin system station).standing.distance.orderKey ≤ c.standing.distance.orderKey := by
  obtain ⟨-, system', station', -, -, -, hfull, rfl⟩ := hc
  simp only [Candidate.rank, candidate] at hrank
  rw [ne_eq, rank_eq_gt_iff, Standing.IsAhead, exact_eq_two_of_isSuppliedBy hfull, not_or, not_lt] at hrank
  obtain ⟨hscore, hdistance⟩ := hrank
  have hsupplied := isSuppliedBy_of_two_le_exact hfull.2.1 hscore
  refine ⟨hsupplied, not_lt.1 fun hlt => hdistance ⟨?_, hlt⟩⟩
  exact (exact_eq_two_of_isSuppliedBy hsupplied _).symm

/-! ### The best of some shells -/

/-- If there is a full match in the shells up to a radius, then the best of their candidates is a full match, and the
nearest one. -/
theorem kept_gatherAll (h : a.Consistent) {d radius : Nat} (hd : d ≤ radius)
    (hsupplied : q.IsSuppliedAt a origin d) {n : Nat} (hn : 0 < n) :
    ∃ first rest, ((Shortlist.bare n).offerAll Candidate.rank (q.gatherAll a origin (radius + 1))).kept =
      first :: rest ∧ q.IsNearestMatch a origin radius first := by
  obtain ⟨full, hfull⟩ := hsupplied.exists_isMatchAt
  have hmem := hfull.mem_gatherAll h hd
  have hrates : ∀ c ∈ q.gatherAll a origin (radius + 1), q.Rates origin c := by
    intro c hc
    obtain ⟨p, -, system, station, -, -, rfl⟩ := (mem_gatherAll h).1 hc
    exact ⟨system, station, rfl⟩
  obtain ⟨first, rest, hkept, hfirst, hahead⟩ :=
    Shortlist.kept_offerAll_first (q.ranksOn_candidate origin) hrates (List.ne_nil_of_mem hmem) hn
  obtain ⟨p, ⟨_, _, hs, hstation, hdistance, -⟩, system, station, hs', hstation', rfl⟩ :=
    (mem_gatherAll h).1 hfirst
  obtain rfl := Option.some.inj (hs.symm.trans hs')
  obtain rfl := Option.some.inj (hstation.symm.trans hstation')
  refine ⟨_, rest, hkept, ⟨_, hdistance, p, _, _, hs, hstation, rfl, ?_, rfl⟩, fun e he c hc => ?_⟩
  · exact (isSuppliedBy_of_rank_ne_gt hfull (hahead full hmem)).1
  · exact (isSuppliedBy_of_rank_ne_gt hc (hahead c (hc.mem_gatherAll h he))).2

/-- The nearest full match of some shells is as good as that of more shells unless one farther out is nearer. -/
theorem IsNearestMatch.rank_eq_iff {radius limit : Nat} {first best : Candidate}
    (hfirst : q.IsNearestMatch a origin radius first) (hbest : q.IsNearestMatch a origin limit best)
    (hle : radius ≤ limit) :
    first.rank best = .eq ↔ ¬ ∃ d c, radius < d ∧ d ≤ limit ∧ q.IsMatchAt a origin d c ∧
      c.standing.distance.orderKey < first.standing.distance.orderKey := by
  obtain ⟨⟨d, hd, hfirst_match⟩, hfirst_nearest⟩ := hfirst
  obtain ⟨⟨e, he, hbest_match⟩, hbest_nearest⟩ := hbest
  rw [rank_eq_eq_iff_of_isMatchAt hfirst_match hbest_match]
  constructor
  · rintro heq ⟨e', c, -, he', hc, hlt⟩
    rw [heq] at hlt
    exact absurd (hbest_nearest e' he' c hc) (not_le.2 hlt)
  · intro hfarther
    refine le_antisymm ?_ (hbest_nearest d (hd.trans hle) first hfirst_match)
    rcases Nat.lt_or_ge radius e with hlt | hge
    · exact not_lt.1 fun hnearer => hfarther ⟨e, best, hlt, he, hbest_match, hnearer⟩
    · exact hfirst_nearest e hge best hbest_match

end Query

namespace Store

/-- **What an early stop costs.** In a reachable store, for a name that stands for a system and a query that wants
something: if no station in the shells allowed is a full match, then the search answers what the search through all of
them would. If there is one, then the first answers of both are full matches; that of the search is the nearest one of
the shells up to the first that has any, and it is as good as the other unless one farther out is nearer. What is
farther out is at least as many sides away as this shell is. All this is for limits under which there is memory for as
many candidates as may be answered, and one more; otherwise there is no answer. -/
theorem findNear_first_match {s : Store} (hs : s.Reachable) {name : String} {origin : StarSystem}
    (horigin : s.atlas.systemNamed? name = some origin) {q : Query} (hq : q.isEmpty = false) {limits : SearchLimits}
    (hradius : 0 ≤ limits.maxShellRadius) (hresults : 0 < limits.maxResults) (size : EntrySize) :
    let limit := limits.maxShellRadius.toNat
    ((limits.maxResults + 1) * size.bytes ≤ maxSigned64 →
      ∃ result all, s.findNear size limits name q = .ok result ∧ q.nearestOfAll size s.atlas origin limits = .ok all ∧
        ((∀ d ≤ limit, ¬ q.IsSuppliedAt s.atlas origin d) → result = all) ∧
        ((∃ d ≤ limit, q.IsSuppliedAt s.atlas origin d) → ∃ radius first rest best others,
          IsLeast {d | d ≤ limit ∧ q.IsSuppliedAt s.atlas origin d} radius ∧
          result = first :: rest ∧ q.IsNearestMatch s.atlas origin radius first ∧
          all = best :: others ∧ q.IsNearestMatch s.atlas origin limit best ∧
          (first.rank best = .eq ↔ ¬ ∃ d c, radius < d ∧ d ≤ limit ∧ q.IsMatchAt s.atlas origin d c ∧
            c.standing.distance.orderKey < first.standing.distance.orderKey) ∧
          ∀ (id : Nat) (system : StarSystem), s.atlas.systems[id]? = some system →
            radius < origin.sector.distance system.sector →
            ((Sector.side : ℚ) * radius) ^ 2 ≤ origin.squareTo system)) ∧
    (maxSigned64 < (limits.maxResults + 1) * size.bytes →
      s.findNear size limits name q = .error .capacityOverflow) := by
  intro limit
  rw [findNear_eq_nearest horigin hq]
  refine ⟨fun hfits => ?_, q.nearest_of_not_fits s.atlas origin⟩
  have h := hs.consistent
  obtain ⟨id, -, hstored⟩ := Option.bind_eq_some_iff.1 horigin
  have hshells : (limits.maxShellRadius + 1).toNat = limit + 1 := by omega
  obtain ⟨radius, hsearch, hgather⟩ := q.gather_eq_hits h origin limit
  refine ⟨_, _, q.nearest_of_fits s.atlas origin hfits, q.nearestOfAll_of_fits s.atlas origin hfits, ?_, ?_⟩
  · intro hnone
    have hlast : radius = limit := by
      rcases hsearch with hleast | ⟨-, hlast⟩
      · exact absurd hleast.1.2 (hnone radius hleast.1.1)
      · exact hlast
    rw [hshells, hgather, Query.map_snd_hits_shells, hlast, Query.gatherAll]
  · rintro ⟨d, hd, hsupplied⟩
    have hleast := hsearch.resolve_right fun hnone => hnone.1 d hd hsupplied
    obtain ⟨first, rest, hkept, hfirst⟩ := Query.kept_gatherAll h le_rfl hleast.1.2 hresults
    obtain ⟨best, others, hkept_all, hbest⟩ := Query.kept_gatherAll h hd hsupplied hresults
    refine ⟨radius, first, rest, best, others, hleast, ?_, hfirst, ?_, hbest, hfirst.rank_eq_iff hbest hleast.1.1, ?_⟩
    · rw [hshells, hgather, Query.map_snd_hits_shells]
      exact hkept
    · rw [hshells, hkept_all]
    · intro id system hsystem hlt
      exact StarSystem.square_le_squareTo (h.placed hstored) (h.placed hsystem) hlt

/-- A run that leaves two full matches for `Query.vultureWithModule`, each not far from a system at the edge of its
sector: one at the other edge, and the nearer one in the next sector. -/
def matchesAcrossEdge : Store :=
  let zero : Binary64 := ⟨0⟩
  let edge : Binary64 := ⟨0x4048800000000000⟩
  let otherEdge : Binary64 := ⟨0xC048800000000000⟩
  let beyond : Binary64 := ⟨0x4049800000000000⟩
  let carried : Inventory := Inventory.unknown.set .internal (some (.ofList 2 [0, 1]))
  let report (id : Nat) (name : String) : StationReport :=
    ⟨id, name, none, none, none, none, true, true, some (.ofList [.vulture]), some carried⟩
  let s := (Store.empty.upsertSystem ⟨1, "Sol", edge, zero, zero, false⟩).2
  let s := (s.upsertSystem ⟨2, "Altair", otherEdge, zero, zero, false⟩).2
  let s := (s.upsertStation 2 (report 20 "Solo Orbiter") 7).2
  let s := (s.upsertSystem ⟨3, "Vega", beyond, zero, zero, false⟩).2
  (s.upsertStation 3 (report 30 "Taylor City") 8).2

theorem matchesAcrossEdge_reachable : matchesAcrossEdge.Reachable :=
  .upsertStation _ _ _ (.upsertSystem _ (.upsertStation _ _ _ (.upsertSystem _ (.upsertSystem _ .empty))))

theorem matchesAcrossEdge_first_match :
    matchesAcrossEdge.Reachable ∧ Query.vultureWithModule.isEmpty = false ∧ ∃ origin : StarSystem,
      matchesAcrossEdge.atlas.systemNamed? "sol" = some origin ∧
      Query.vultureWithModule.IsSuppliedAt matchesAcrossEdge.atlas origin 0 ∧ ∃ first rest best others,
        matchesAcrossEdge.findNear Query.sampleSize ⟨1, 1⟩ "sol" .vultureWithModule = .ok (first :: rest) ∧
        Query.vultureWithModule.IsNearestMatch matchesAcrossEdge.atlas origin 0 first ∧
        Query.vultureWithModule.nearestOfAll Query.sampleSize matchesAcrossEdge.atlas origin ⟨1, 1⟩ =
          .ok (best :: others) ∧
        Query.vultureWithModule.IsNearestMatch matchesAcrossEdge.atlas origin 1 best := by
  have hs := matchesAcrossEdge_reachable
  have hq : Query.vultureWithModule.isEmpty = false := by decide
  have hhere : (matchesAcrossEdge.atlas.systemNamed? "sol").any (fun origin =>
      (Query.vultureWithModule.candidatesAt matchesAcrossEdge.atlas origin 0).any
        Query.vultureWithModule.isFullMatch) = true := by decide +kernel
  obtain ⟨origin, horigin, hhere⟩ := Option.any_eq_true _ _ |>.1 hhere
  have hsupplied := (Query.any_isFullMatch_iff hs.consistent).1 hhere
  have hradius : (0 : Int) ≤ (⟨1, 1⟩ : SearchLimits).maxShellRadius := by decide
  have hresults : 0 < (⟨1, 1⟩ : SearchLimits).maxResults := Nat.one_pos
  obtain ⟨_, _, hresult, hall, -, hmatch⟩ :=
    (findNear_first_match hs horigin hq hradius hresults Query.sampleSize).1 (by decide)
  obtain ⟨radius, first, rest, best, others, hleast, rfl, hfirst, rfl, hbest_match, -⟩ :=
    hmatch ⟨0, Nat.zero_le _, hsupplied⟩
  obtain rfl : radius = 0 := Nat.le_zero.1 (hleast.2 ⟨Nat.zero_le _, hsupplied⟩)
  exact ⟨hs, hq, origin, horigin, hsupplied, first, rest, best, others, hresult, hfirst, hall, hbest_match⟩

/-- The first answer need not be the nearest full match of the shells allowed. -/
theorem matchesAcrossEdge_not_nearest :
    matchesAcrossEdge.Reachable ∧ Query.vultureWithModule.ship.isSome = true ∧ 0 < Query.vultureWithModule.wanted ∧
      ∃ (origin : StarSystem) (first best : Candidate) (rest others : List Candidate),
        matchesAcrossEdge.atlas.systemNamed? "sol" = some origin ∧
        matchesAcrossEdge.findNear Query.sampleSize ⟨1, 1⟩ "sol" .vultureWithModule = .ok (first :: rest) ∧
        Query.vultureWithModule.nearestOfAll Query.sampleSize matchesAcrossEdge.atlas origin ⟨1, 1⟩ =
          .ok (best :: others) ∧
        Query.vultureWithModule.isFullMatch best = true ∧
        best.standing.distance.orderKey < first.standing.distance.orderKey ∧ first.rank best ≠ .eq := by
  have hq : Query.vultureWithModule.isEmpty = false := by decide
  let best (found : List Candidate) := ((Shortlist.bare 1).offerAll Candidate.rank found).kept
  have hanswers : (matchesAcrossEdge.atlas.systemNamed? "sol").any (fun origin =>
      (best (Query.vultureWithModule.gather matchesAcrossEdge.atlas origin 2 0)).head?.any fun first =>
        (best (Query.vultureWithModule.gatherAll matchesAcrossEdge.atlas origin 2)).head?.any fun nearest =>
          decide (Query.vultureWithModule.isFullMatch nearest = true ∧
            nearest.standing.distance.orderKey < first.standing.distance.orderKey ∧
            first.rank nearest ≠ .eq)) = true := by
    decide +kernel
  simp only [Option.any_eq_true, List.head?_eq_some_iff, decide_eq_true_eq] at hanswers
  obtain ⟨origin, horigin, first, ⟨rest, hfirst⟩, nearest, ⟨others, hnearest⟩, hcompared⟩ := hanswers
  have hfits : ((⟨1, 1⟩ : SearchLimits).maxResults + 1) * Query.sampleSize.bytes ≤ maxSigned64 := by decide
  refine ⟨matchesAcrossEdge_reachable, by decide, by decide, origin, first, nearest, rest, others, horigin, ?_, ?_,
    hcompared⟩
  · rw [findNear_eq_nearest horigin hq, Query.nearest_of_fits _ _ _ hfits]
    exact congrArg Except.ok hfirst
  · rw [Query.nearestOfAll_of_fits _ _ _ hfits]
    exact congrArg Except.ok hnearest

end Store

end StationFinder
