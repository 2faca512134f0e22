import Mathlib.Data.List.ProdSigma
import Mathlib.Data.Set.Card
import Mathlib.Tactic.Ring
import StationFinder.Galaxy.Sector

/-!
# Shells of sectors

The shell of a radius around a sector holds the sectors at that distance (`Sector.mem_shell`), each of them once
(`Sector.nodup_shell`). Shells of different radii therefore have no sector in common, and those of the radii up to
a limit hold every sector within it once (`Sector.nodup_shells`, `Sector.mem_shells`).

So they hold what the cube of that limit holds, from the inside out, and a shell is as large as the cube of its radius
without the cube of the radius before. This is `Sector.shells_partition_cube`.
-/

namespace StationFinder.Sector

theorem mem_span {z : Int} {r : Nat} : z ∈ span r ↔ z.natAbs ≤ r := by
  simp only [span, List.mem_map, List.mem_range]
  constructor
  · rintro ⟨i, hi, rfl⟩
    omega
  · intro h
    exact ⟨(z + r).toNat, by omega, by omega⟩

theorem nodup_span (r : Nat) : (span r).Nodup := by
  refine List.nodup_range.map ?_
  intro i j h
  simp only at h
  omega

theorem offset_inj {s : Sector} {dx dy dz dx' dy' dz' : Int} :
    s.offset dx dy dz = s.offset dx' dy' dz' ↔ dx = dx' ∧ dy = dy' ∧ dz = dz' := by
  simp only [offset, mk.injEq]
  omega

/-- A sector is in a shell exactly at the distance of the shell. -/
theorem mem_shell {origin s : Sector} {r : Nat} : s ∈ origin.shell r ↔ origin.distance s = r := by
  simp only [shell, List.mem_flatMap, List.mem_filterMap, Option.ite_none_right_eq_some, Option.some.injEq]
  constructor
  · rintro ⟨dx, hx, dy, hy, dz, hz, hskin, rfl⟩
    rw [mem_span] at hx hy hz
    simp only [distance, offset]
    omega
  · intro h
    simp only [distance] at h
    refine ⟨s.x - origin.x, mem_span.2 (by omega), s.y - origin.y, mem_span.2 (by omega), s.z - origin.z,
      mem_span.2 (by omega), by omega, ?_⟩
    simp only [offset]
    cases s
    simp only [mk.injEq]
    omega

/-- A shell holds no sector twice. -/
theorem nodup_shell (origin : Sector) (r : Nat) : (origin.shell r).Nodup := by
  unfold shell
  refine List.nodup_flatMap.2 ⟨fun dx _ => List.nodup_flatMap.2 ⟨fun dy _ => ?_, ?_⟩, ?_⟩
  · refine (nodup_span r).filterMap ?_
    intro dz dz' s hs hs'
    simp only [Option.mem_def, Option.ite_none_right_eq_some, Option.some.injEq] at hs hs'
    exact (offset_inj.1 (hs.2.trans hs'.2.symm)).2.2
  · refine (nodup_span r).imp ?_
    intro dy dy' hne s hs hs'
    simp only [List.mem_filterMap, Option.ite_none_right_eq_some, Option.some.injEq] at hs hs'
    obtain ⟨dz, -, -, rfl⟩ := hs
    obtain ⟨dz', -, -, h⟩ := hs'
    exact hne (offset_inj.1 h).2.1.symm
  · refine (nodup_span r).imp ?_
    intro dx dx' hne s hs hs'
    simp only [List.mem_flatMap, List.mem_filterMap, Option.ite_none_right_eq_some, Option.some.injEq] at hs hs'
    obtain ⟨dy, -, dz, -, -, rfl⟩ := hs
    obtain ⟨dy', -, dz', -, -, h⟩ := hs'
    exact hne (offset_inj.1 h).1.symm

/-! ### Shells one after the other -/

/-- The sectors of the shells with radius below a limit, from the inside out. -/
def shells (origin : Sector) (n : Nat) : List Sector := (List.range n).flatMap origin.shell

theorem mem_shells {origin s : Sector} {n : Nat} : s ∈ origin.shells n ↔ origin.distance s < n := by
  simp [shells, mem_shell]

theorem nodup_shells (origin : Sector) (n : Nat) : (origin.shells n).Nodup := by
  refine List.nodup_flatMap.2 ⟨fun r _ => nodup_shell origin r, List.nodup_range.imp ?_⟩
  intro r r' hne s hs hs'
  exact hne ((mem_shell.1 hs).symm.trans (mem_shell.1 hs'))

theorem shells_succ (origin : Sector) (n : Nat) : origin.shells (n + 1) = origin.shells n ++ origin.shell n := by
  rw [shells, List.range_succ, List.flatMap_append, List.flatMap_singleton, shells]

/-- No sector comes before a nearer one. -/
theorem pairwise_distance_shells (origin : Sector) (n : Nat) :
    (origin.shells n).Pairwise fun s t => origin.distance s ≤ origin.distance t := by
  refine List.pairwise_flatMap.2 ⟨fun r _ => List.pairwise_of_forall_mem_list ?_, List.pairwise_lt_range.imp ?_⟩
  · intro s hs t ht
    rw [mem_shell.1 hs, mem_shell.1 ht]
  · intro r r' hlt s hs t ht
    rw [mem_shell.1 hs, mem_shell.1 ht]
    exact hlt.le

/-! ### Cubes -/

/-- The sectors of the cube that goes out from a sector by so many steps along each axis. -/
def cube (origin : Sector) (r : Nat) : List Sector :=
  (span r ×ˢ span r ×ˢ span r).map fun d => origin.offset d.1 d.2.1 d.2.2

theorem length_cube (origin : Sector) (r : Nat) : (origin.cube r).length = (2 * r + 1) ^ 3 := by
  simp only [cube, span, List.length_map, List.length_product, List.length_range]
  ring

theorem mem_cube {origin s : Sector} {r : Nat} : s ∈ origin.cube r ↔ origin.distance s ≤ r := by
  simp only [cube, List.mem_map, Prod.exists, List.mem_product, mem_span]
  constructor
  · rintro ⟨dx, dy, dz, ⟨hx, hy, hz⟩, rfl⟩
    simp only [distance, offset]
    omega
  · intro h
    simp only [distance] at h
    refine ⟨s.x - origin.x, s.y - origin.y, s.z - origin.z, by omega, ?_⟩
    simp only [offset]
    cases s
    simp only [mk.injEq]
    omega

theorem nodup_cube (origin : Sector) (r : Nat) : (origin.cube r).Nodup := by
  refine ((nodup_span r).product ((nodup_span r).product (nodup_span r))).map ?_
  rintro ⟨dx, dy, dz⟩ ⟨dx', dy', dz'⟩ h
  obtain ⟨rfl, rfl, rfl⟩ := offset_inj.1 h
  rfl

/-- The shells up to a radius hold what the cube of that radius holds. -/
theorem shells_perm_cube (origin : Sector) (r : Nat) : (origin.shells (r + 1)).Perm (origin.cube r) := by
  refine (List.perm_ext_iff_of_nodup (nodup_shells origin _) (nodup_cube origin r)).2 fun s => ?_
  rw [mem_shells, mem_cube, Nat.lt_succ_iff]

theorem length_shells (origin : Sector) (r : Nat) : (origin.shells (r + 1)).length = (2 * r + 1) ^ 3 :=
  (shells_perm_cube origin r).length_eq.trans (length_cube origin r)

theorem length_shell (origin : Sector) {r : Nat} (h : 1 ≤ r) :
    (origin.shell r).length = (2 * r + 1) ^ 3 - (2 * r - 1) ^ 3 := by
  obtain ⟨inner, rfl⟩ := Nat.exists_eq_add_of_le' h
  have hall := length_shells origin (inner + 1)
  rw [shells_succ, List.length_append, length_shells] at hall
  have hinner : 2 * (inner + 1) - 1 = 2 * inner + 1 := by omega
  rw [hinner, ← hall, Nat.add_sub_cancel_left]

/-- **Shells make up a cube.** A shell holds the sectors at its distance from the middle, each once. One after the other,
the shells up to a radius visit the sectors within that radius, as many as the cube of an edge has: each of them once,
none before a nearer one, and no others. A shell of positive radius is what its cube has beyond the next smaller
one. -/
theorem shells_partition_cube (origin : Sector) (radius : Nat) :
    let visited := (List.range (radius + 1)).flatMap origin.shell
    (∀ r, (origin.shell r).Nodup ∧ ∀ s, s ∈ origin.shell r ↔ origin.distance s = r) ∧
    {s | origin.distance s ≤ radius}.ncard = (2 * radius + 1) ^ 3 ∧ visited.length = (2 * radius + 1) ^ 3 ∧
    (∀ s, visited.count s = if origin.distance s ≤ radius then 1 else 0) ∧
    visited.Pairwise (fun s t => origin.distance s ≤ origin.distance t) ∧
    ∀ r, 1 ≤ r → (origin.shell r).length = (2 * r + 1) ^ 3 - (2 * r - 1) ^ 3 := by
  intro visited
  refine ⟨fun r => ⟨nodup_shell origin r, fun s => mem_shell⟩, ?_, length_shells origin radius, fun s => ?_,
    pairwise_distance_shells origin _, fun r => length_shell origin⟩
  · have hset : {s | origin.distance s ≤ radius} = ↑(origin.cube radius).toFinset := by
      ext s
      simp [mem_cube]
    rw [hset, Set.ncard_coe_finset, List.toFinset_card_of_nodup (nodup_cube origin radius), length_cube]
  · have hmem : s ∈ visited ↔ origin.distance s ≤ radius := mem_shells.trans Nat.lt_succ_iff
    exact (nodup_shells origin (radius + 1)).count.trans (if_congr hmem rfl rfl)

/-- Around a sector off the middle. -/
theorem offCentre_shells :
    let origin : Sector := ⟨3, -2, 1⟩
    1 ≤ 4 ∧ (origin.shell 4).length = 386 ∧ ((List.range 5).flatMap origin.shell).length = 729 ∧
      ((List.range 5).flatMap origin.shell).count ⟨7, -6, 5⟩ = 1 ∧
      ((List.range 5).flatMap origin.shell).count ⟨8, -2, 1⟩ = 0 := by
  intro origin
  obtain ⟨-, -, hall, hcount, -, hshell⟩ := shells_partition_cube origin 4
  exact ⟨by decide, hshell 4 (by decide), hall, hcount ⟨7, -6, 5⟩, hcount ⟨8, -2, 1⟩⟩

end StationFinder.Sector
