import StationFinder.Proofs.Galaxy.Geometry
import StationFinder.Proofs.Search.EarlyStop

/-!
# No nearby station is missed

The search scores every station of the shells that it visits, and offers those with a positive score to the shortlist
(`Query.nearest_eq_kept_scored`). In a consistent atlas a stored system is in the shell at the distance of its sector
(`Atlas.Consistent.mem_stationsAt`), and a system that is nearer than so many sides has its sector within as many steps
(`Sector.distance_le_of_square_lt`). So a search that visits all the shells it may has scored each station that is
nearer than as many sides as the last shell has steps (`Store.nearby_are_scored`).
-/

namespace StationFinder

/-! ### Points and their sectors -/

namespace Sector

/-- Points that are nearer than so many sides are in sectors within as many steps. -/
theorem distance_le_of_square_lt {x y z x' y' z' : Binary64} {s t : Sector} (hs : of? x y z = some s)
    (ht : of? x' y' z' = some t) {r : Nat}
    (h : (x.exact - x'.exact) ^ 2 + (y.exact - y'.exact) ^ 2 + (z.exact - z'.exact) ^ 2 < ((side : ℚ) * r) ^ 2) :
    s.distance t ≤ r := by
  by_contra hfar
  have hle := square_le_of_lt_distance hs ht (Nat.lt_of_not_le hfar)
  exact absurd h (not_lt.2 hle)

theorem distance_comm (s t : Sector) : s.distance t = t.distance s := by
  have hcomm (m n : Int) : (m - n).natAbs = (n - m).natAbs := by omega
  rw [distance, distance, hcomm s.x, hcomm s.y, hcomm s.z]

end Sector

/-! ### What the search scores -/

namespace StarSystem

theorem mem_stationList {system : StarSystem} {station : Station} :
    station ∈ system.stationList ↔ ∃ key : Nat, system.stations[key]? = some station := by
  rw [stationList, List.mem_map]
  constructor
  · rintro ⟨⟨key, station⟩, hmem, rfl⟩
    exact ⟨key, Std.ExtTreeMap.mem_toList_iff_getElem?_eq_some.1 hmem⟩
  · rintro ⟨key, hkey⟩
    exact ⟨(key, station), Std.ExtTreeMap.mem_toList_iff_getElem?_eq_some.2 hkey, rfl⟩

end StarSystem

namespace Atlas

/-- The stations in the sectors of one shell, each with its system. -/
def stationsAt (a : Atlas) (origin : Sector) (radius : Nat) : List (StarSystem × Station) :=
  (origin.shell radius).flatMap fun sector => (a.systemsIn sector).flatMap fun system =>
    system.stationList.map fun station => (system, station)

/-- In a consistent atlas a station is in the shell at the distance of its system's sector. -/
theorem Consistent.mem_stationsAt {a : Atlas} (h : a.Consistent) {origin : Sector} {id key : Nat}
    {system : StarSystem} {station : Station} (hsystem : a.systems[id]? = some system)
    (hstation : system.stations[key]? = some station) :
    (system, station) ∈ a.stationsAt origin (origin.distance system.sector) := by
  have hbucket : id ∈ a.bucket system.sector := (h.mem_bucket_iff hsystem).2 rfl
  refine List.mem_flatMap.2 ⟨system.sector, Sector.mem_shell.2 rfl, List.mem_flatMap.2 ⟨system, ?_, ?_⟩⟩
  · exact List.mem_filterMap.2 ⟨id, hbucket, hsystem⟩
  · exact List.mem_map.2 ⟨station, StarSystem.mem_stationList.2 ⟨key, hstation⟩, rfl⟩

end Atlas

namespace Query

variable (q : Query) (a : Atlas) (origin : StarSystem)

/-- What is offered of a station once it is scored: a candidate, if the score is positive. -/
def offer? (scored : StarSystem × Station) : Option Candidate :=
  let c := q.candidate origin scored.1 scored.2
  if 0 < c.standing.score.exact then some c else none

/-- How many of a number of shells, from one radius on, the search visits: it ends with the first that holds a full
match. -/
def visited : (shells radius : Nat) → Nat
  | 0, _ => 0
  | shells + 1, radius => 1 + if (q.candidatesAt a origin radius).any q.isFullMatch then 0
      else visited shells (radius + 1)

/-- The stations that the search scores: those of the shells that it visits. -/
def scored (limits : SearchLimits) : List (StarSystem × Station) :=
  (List.range (q.visited a origin (limits.maxShellRadius + 1).toNat 0)).flatMap (a.stationsAt origin.sector)

theorem candidatesAt_eq (radius : Nat) :
    q.candidatesAt a origin radius = (a.stationsAt origin.sector radius).filterMap (q.offer? origin) := by
  simp only [candidatesAt, Atlas.stationsAt, List.filterMap_flatMap, List.filterMap_map]
  rfl

theorem gather_eq_filterMap (shells radius : Nat) :
    q.gather a origin shells radius =
      ((List.range' radius (q.visited a origin shells radius)).flatMap (a.stationsAt origin.sector)).filterMap
        (q.offer? origin) := by
  induction shells generalizing radius with
  | zero => rfl
  | succ shells ih =>
    rw [gather, visited, Nat.add_comm 1, List.range'_succ, List.flatMap_cons, List.filterMap_append, ← candidatesAt_eq]
    congr 1
    split
    · rfl
    · exact ih (radius + 1)

/-- The answer of the search is the shortlist of what the stations that it scores have to offer, if there is one. -/
theorem nearest_eq_kept_scored (size : EntrySize) (limits : SearchLimits) :
    q.nearest size a origin limits = (Shortlist.empty size limits.maxResults).map fun list =>
      (list.offerAll Candidate.rank ((q.scored a origin limits).filterMap (q.offer? origin))).kept := by
  rw [scored, List.range_eq_range', ← gather_eq_filterMap, nearest]
  cases Shortlist.empty size limits.maxResults <;> rfl

/-- A search that visits so many shells scores every station in the sectors within fewer steps. -/
theorem mem_scored {q : Query} {a : Atlas} (h : a.Consistent) {origin : StarSystem} {limits : SearchLimits}
    {id key : Nat} {system : StarSystem} {station : Station} (hsystem : a.systems[id]? = some system)
    (hstation : system.stations[key]? = some station)
    (hdistance : origin.sector.distance system.sector < q.visited a origin (limits.maxShellRadius + 1).toNat 0) :
    (system, station) ∈ q.scored a origin limits :=
  List.mem_flatMap.2 ⟨_, List.mem_range.2 hdistance, h.mem_stationsAt hsystem hstation⟩

end Query

/-- **No nearby station is missed.** A point has a sector exactly if its coordinates are finite and less than 1050 away
from zero; the sector is then at most ten steps from the middle along each axis, and the coordinate at most 50 from the
middle of its place. Of two points that are nearer than a hundred times a whole number, the one is in a shell around the
sector of the other whose radius is at most that number. So in a reachable store a search that does not end before the
last shell it may visit has scored each station of a stored system that is nearer to the origin than a hundred times the
radius of that shell, and its answer is the shortlist of what the stations that it scored have to offer, if there is
memory for one. -/
theorem Store.nearby_are_scored :
    (∀ x y z : Binary64, (Sector.of? x y z).isSome = true ↔ ∀ c ∈ [x, y, z], c.isFinite = true ∧ |c.exact| < 1050) ∧
    (∀ (x y z : Binary64) (s : Sector), Sector.of? x y z = some s →
      ∀ axis ∈ [(x, s.x), (y, s.y), (z, s.z)], |axis.2| ≤ 10 ∧ |axis.1.exact - 100 * axis.2| ≤ 50) ∧
    (∀ (x y z x' y' z' : Binary64) (p o : Sector), Sector.of? x y z = some p → Sector.of? x' y' z' = some o →
      ∀ R : Nat, (x.exact - x'.exact) ^ 2 + (y.exact - y'.exact) ^ 2 + (z.exact - z'.exact) ^ 2 < (100 * (R : ℚ)) ^ 2 →
        ∃ r ≤ R, p ∈ o.shell r) ∧
    ∀ (s : Store) (size : EntrySize) (limits : SearchLimits) (name : String) (origin : StarSystem) (q : Query),
      s.Reachable → s.atlas.systemNamed? name = some origin → q.isEmpty = false → 0 ≤ limits.maxShellRadius →
      let scored := q.scored s.atlas origin limits
      (s.findNear size limits name q = (Shortlist.empty size limits.maxResults).map fun list =>
        (list.offerAll Candidate.rank (scored.filterMap (q.offer? origin))).kept) ∧
      (q.visited s.atlas origin (limits.maxShellRadius + 1).toNat 0 = (limits.maxShellRadius + 1).toNat →
        ∀ (id key : Nat) (system : StarSystem) (station : Station), s.atlas.systems[id]? = some system →
          system.stations[key]? = some station → origin.squareTo system < (100 * (limits.maxShellRadius : ℚ)) ^ 2 →
          (system, station) ∈ scored) := by
  refine ⟨fun x y z => ?_, fun x y z s hs => ?_, fun x y z x' y' z' p o hp ho R hnear => ?_, ?_⟩
  · have hplace (c : Binary64) : (Sector.axisPlace? c).isSome = true ↔ c.isFinite = true ∧ |c.exact| < 1050 := by
      rw [Sector.isSome_axisPlace?_iff, Sector.side, Sector.reach]
      norm_num
    rw [Sector.isSome_of?_iff, hplace, hplace, hplace]
    simp only [List.forall_mem_cons, List.not_mem_nil, false_imp_iff, implies_true, and_true]
  · have hplace {c : Binary64} {n : Int} (h : Sector.axisPlace? c = some n) :
        |n| ≤ 10 ∧ |c.exact - 100 * n| ≤ 50 := by
      have hreach := Sector.natAbs_le_reach h
      have hmiddle := Sector.abs_exact_sub_le h
      rw [Sector.side] at hmiddle
      norm_num at hmiddle
      refine ⟨?_, hmiddle⟩
      rw [Int.abs_eq_natAbs]
      exact_mod_cast hreach
    obtain ⟨hx, hy, hz⟩ := Sector.of?_eq_some_iff.1 hs
    simp only [List.forall_mem_cons, List.not_mem_nil, false_imp_iff, implies_true, and_true]
    exact ⟨hplace hx, hplace hy, hplace hz⟩
  · have hdistance : p.distance o ≤ R := Sector.distance_le_of_square_lt hp ho hnear
    exact ⟨_, hdistance, Sector.mem_shell.2 (Sector.distance_comm o p)⟩
  · intro s size limits name origin q hs horigin hq hradius scored
    have h := hs.consistent
    refine ⟨(findNear_eq_nearest horigin hq size limits).trans (q.nearest_eq_kept_scored _ _ size limits), ?_⟩
    intro hvisited id key system station hsystem hstation hnear
    obtain ⟨originId, -, hstored⟩ := Option.bind_eq_some_iff.1 horigin
    obtain ⟨radius, hradius⟩ := Int.eq_ofNat_of_zero_le hradius
    rw [hradius] at hnear
    have hdistance : origin.sector.distance system.sector ≤ radius :=
      Sector.distance_le_of_square_lt (h.placed hstored) (h.placed hsystem) hnear
    exact Query.mem_scored h hsystem hstation (by omega)

/-- A system at the lower edge of its sector and one at the upper edge of the next, with a station. -/
def Store.acrossZero : Store :=
  let zero : Binary64 := ⟨0⟩
  let report : StationReport :=
    ⟨20, "Solo Orbiter", none, none, none, none, true, false, some (.ofList [.vulture]), none⟩
  let s := (Store.empty.upsertSystem ⟨1, "Sol", ⟨0xC049000000000000⟩, zero, zero, false⟩).2
  let s := (s.upsertSystem ⟨2, "Altair", ⟨0x4048C00000000000⟩, zero, zero, false⟩).2
  (s.upsertStation 2 report 7).2

/-- The Vulture alone, which makes no full match. -/
def Query.vulture : Query := ⟨some .vulture, fun _ => none⟩

theorem Store.acrossZero_nearby_are_scored :
    acrossZero.Reachable ∧ Query.vulture.isEmpty = false ∧ ∃ (origin system : StarSystem) (station : Station),
      acrossZero.atlas.systemNamed? "sol" = some origin ∧ acrossZero.atlas.systems[2]? = some system ∧
      system.stations[20]? = some station ∧ origin.sector ≠ system.sector ∧
      origin.squareTo system < (100 * (1 : ℚ)) ^ 2 ∧
      Query.vulture.visited acrossZero.atlas origin 2 0 = 2 ∧
      (system, station) ∈ Query.vulture.scored acrossZero.atlas origin ⟨1, 5⟩ ∧
      ∃ r ≤ 1, system.sector ∈ origin.sector.shell r := by
  have hs : acrossZero.Reachable := .upsertStation _ _ _ (.upsertSystem _ (.upsertSystem _ .empty))
  have hq : Query.vulture.isEmpty = false := by decide
  have hclosed : (acrossZero.atlas.systemNamed? "sol").any (fun origin =>
      (acrossZero.atlas.systems[2]?).any fun system => (system.stations[20]?).isSome &&
        decide (origin.sector ≠ system.sector ∧ origin.squareTo system < (100 * (1 : ℚ)) ^ 2 ∧
          Query.vulture.visited acrossZero.atlas origin 2 0 = 2)) = true := by decide +kernel
  simp only [Option.any_eq_true, Bool.and_eq_true, Option.isSome_iff_exists, decide_eq_true_eq] at hclosed
  obtain ⟨origin, horigin, system, hsystem, ⟨station, hstation⟩, hsector, hnear, hvisited⟩ := hclosed
  obtain ⟨-, -, hshell, hscored⟩ := nearby_are_scored
  obtain ⟨originId, -, hstored⟩ := Option.bind_eq_some_iff.1 horigin
  have hplaced := hs.consistent.placed hsystem
  have hplaced_origin := hs.consistent.placed hstored
  refine ⟨hs, hq, origin, system, station, horigin, hsystem, hstation, hsector, hnear, hvisited, ?_, ?_⟩
  · have hsearch := hscored acrossZero Query.sampleSize ⟨1, 5⟩ "sol" origin .vulture hs horigin hq (by decide)
    exact hsearch.2 hvisited 2 20 system station hsystem hstation (by exact_mod_cast hnear)
  · refine hshell _ _ _ _ _ _ _ _ hplaced hplaced_origin 1 ?_
    rw [StarSystem.squareTo, sub_sq_comm origin.x.exact, sub_sq_comm origin.y.exact,
      sub_sq_comm origin.z.exact] at hnear
    exact_mod_cast hnear

end StationFinder
