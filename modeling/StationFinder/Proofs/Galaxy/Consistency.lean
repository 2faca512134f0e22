import Mathlib.Algebra.GroupWithZero.Nat
import Mathlib.Data.List.Nodup
import Mathlib.Data.List.Perm.Basic
import StationFinder.Galaxy.Store

/-!
# Consistency of the atlas

The atlas says the same thing several times: which systems there are, under what names, in which sectors, and how
many stations they have. `Atlas.Consistent` says that these agree. It is the invariant of the store; this module
shows that each change which an operation makes to the atlas as a whole keeps it: a system that comes in
(`Consistent.enter`), one that goes out (`Consistent.withdraw`), and one that is put in the place of its former
self, under another name and in another sector if need be (`Consistent.revise`).
-/

namespace StationFinder

/-! ### Counting the stations of a map -/

/-- The number of stations of all systems in a map. -/
def stationTotal (m : Std.ExtTreeMap Nat StarSystem) : Nat := (m.toList.map fun e => e.2.stations.size).sum

theorem nodup_toList (m : Std.ExtTreeMap Nat StarSystem) : m.toList.Nodup := by
  refine Std.ExtTreeMap.distinct_keys_toList.imp ?_
  rintro a b h rfl
  simp at h

theorem toList_insert_perm (m : Std.ExtTreeMap Nat StarSystem) (id : Nat) (s : StarSystem) :
    (m.insert id s).toList.Perm ((id, s) :: (m.erase id).toList) := by
  have hnew : (id, s) ∉ (m.erase id).toList := by
    simp [Std.ExtTreeMap.mem_toList_iff_getElem?_eq_some]
  refine (List.perm_ext_iff_of_nodup (nodup_toList _) (List.nodup_cons.2 ⟨hnew, nodup_toList _⟩)).2 ?_
  rintro ⟨j, t⟩
  simp only [Std.ExtTreeMap.mem_toList_iff_getElem?_eq_some, Std.ExtTreeMap.getElem?_insert,
    Std.ExtTreeMap.getElem?_erase, List.mem_cons, Prod.mk.injEq, Nat.compare_eq_eq]
  by_cases h : id = j
  · subst h
    simp [eq_comm]
  · simp [h, Ne.symm h]

/-- A system put under an id adds its stations to those of the other ids. -/
theorem stationTotal_insert (m : Std.ExtTreeMap Nat StarSystem) (id : Nat) (s : StarSystem) :
    stationTotal (m.insert id s) = s.stations.size + stationTotal (m.erase id) := by
  simp [stationTotal, ((toList_insert_perm m id s).map _).sum_nat]

theorem insert_eq_self {β : Type} {m : Std.ExtTreeMap Nat β} {id : Nat} {s : β} (h : m[id]? = some s) :
    m.insert id s = m := by
  refine Std.ExtTreeMap.ext_getElem? fun j => ?_
  rw [Std.ExtTreeMap.getElem?_insert]
  split
  · next hj => rw [← Nat.compare_eq_eq.1 hj, h]
  · rfl

theorem erase_eq_self {m : Std.ExtTreeMap Nat StarSystem} {id : Nat} (h : m[id]? = none) : m.erase id = m := by
  refine Std.ExtTreeMap.ext_getElem? fun j => ?_
  rw [Std.ExtTreeMap.getElem?_erase]
  split
  · next hj => rw [← Nat.compare_eq_eq.1 hj, h]
  · rfl

/-- The stations of a stored system are counted, next to those of the other ids. -/
theorem stationTotal_of_stored {m : Std.ExtTreeMap Nat StarSystem} {id : Nat} {s : StarSystem}
    (h : m[id]? = some s) : stationTotal m = s.stations.size + stationTotal (m.erase id) := by
  rw [← stationTotal_insert, insert_eq_self h]

namespace Atlas

/-! ### Buckets -/

/-- The ids in a sector's bucket; none if the sector has no bucket. -/
def bucket (a : Atlas) (sector : Sector) : List Nat := a.sectors[sector]?.getD []

/-- No bucket is kept for a sector without systems. -/
def NoEmptyBucket (a : Atlas) : Prop :=
  ∀ (sector : Sector) (ids : List Nat), a.sectors[sector]? = some ids → ids ≠ []

theorem bucket_removeFromSector (a : Atlas) (sector sector' : Sector) (id : Nat) :
    (a.removeFromSector sector id).bucket sector' =
      if sector = sector' then (a.bucket sector).filter (· ≠ id) else a.bucket sector' := by
  simp only [bucket, removeFromSector, Std.ExtTreeMap.getElem?_alter, Std.LawfulEqCmp.compare_eq_iff_eq]
  split
  · cases a.sectors[sector]? with
    | none => rfl
    | some ids =>
      simp only [Option.map_some, Option.getD_some, Option.filter_some]
      split
      · rfl
      · next h => simpa using h
  · rfl

theorem bucket_addToSector (a : Atlas) (sector sector' : Sector) (id : Nat) :
    (a.addToSector sector id).bucket sector' =
      if sector = sector' then a.bucket sector ++ [id] else a.bucket sector' := by
  simp only [bucket, addToSector, Std.ExtTreeMap.getElem?_alter, Std.LawfulEqCmp.compare_eq_iff_eq]
  split <;> rfl

theorem NoEmptyBucket.removeFromSector {a : Atlas} (h : a.NoEmptyBucket) (sector : Sector) (id : Nat) :
    (a.removeFromSector sector id).NoEmptyBucket := by
  intro sector' ids hids
  simp only [Atlas.removeFromSector, Std.ExtTreeMap.getElem?_alter] at hids
  split at hids
  · have := Option.filter_eq_some_iff.1 hids
    simpa using this.2
  · exact h _ _ hids

theorem NoEmptyBucket.addToSector {a : Atlas} (h : a.NoEmptyBucket) (sector : Sector) (id : Nat) :
    (a.addToSector sector id).NoEmptyBucket := by
  intro sector' ids hids
  simp only [Atlas.addToSector, Std.ExtTreeMap.getElem?_alter] at hids
  split at hids
  · rw [← Option.some.inj hids]
    simp
  · exact h _ _ hids

theorem NoEmptyBucket.relocate {a : Atlas} (h : a.NoEmptyBucket) (source target : Sector) (id : Nat) :
    (a.relocate source target id).NoEmptyBucket := by
  unfold Atlas.relocate
  split
  · exact h
  · exact (h.removeFromSector source id).addToSector target id

theorem bucket_relocate_congr {a b : Atlas} (h : a.sectors = b.sectors) (source target sector : Sector) (id : Nat) :
    (a.relocate source target id).bucket sector = (b.relocate source target id).bucket sector := by
  unfold relocate
  split
  · simp only [bucket, h]
  · simp only [bucket, addToSector, removeFromSector, h]

@[simp] theorem systems_relocate (a : Atlas) (source target : Sector) (id : Nat) :
    (a.relocate source target id).systems = a.systems := by
  unfold relocate
  split <;> rfl

@[simp] theorem names_relocate (a : Atlas) (source target : Sector) (id : Nat) :
    (a.relocate source target id).names = a.names := by
  unfold relocate
  split <;> rfl

@[simp] theorem stationCount_relocate (a : Atlas) (source target : Sector) (id : Nat) :
    (a.relocate source target id).stationCount = a.stationCount := by
  unfold relocate
  split <;> rfl

/-! ### The invariant -/

/-- The parts of the atlas agree. -/
structure Consistent (a : Atlas) : Prop where
  /-- A system is kept under its own id. -/
  keyed : ∀ {id : Nat} {s : StarSystem}, a.systems[id]? = some s → s.id = id
  /-- The sector of a system is that of its place, which is in range. -/
  placed : ∀ {id : Nat} {s : StarSystem}, a.systems[id]? = some s → Sector.of? s.x s.y s.z = some s.sector
  /-- An id is in a bucket once. -/
  bucket_nodup : ∀ sector : Sector, (a.bucket sector).Nodup
  /-- A bucket holds the ids of the systems in its sector. -/
  mem_bucket : ∀ {sector : Sector} {id : Nat},
    id ∈ a.bucket sector ↔ ∃ s : StarSystem, a.systems[id]? = some s ∧ s.sector = sector
  noEmptyBucket : a.NoEmptyBucket
  /-- A name leads to a system of this name. -/
  named : ∀ {key : String} {id : Nat},
    a.names[key]? = some id → ∃ s : StarSystem, a.systems[id]? = some s ∧ s.key = key
  counted : a.stationCount = stationTotal a.systems

theorem consistent_empty : empty.Consistent where
  keyed h := by simp [empty] at h
  placed h := by simp [empty] at h
  bucket_nodup sector := by simp [bucket, empty]
  mem_bucket := by simp [bucket, empty]
  noEmptyBucket sector ids h := by simp [empty] at h
  named h := by simp [empty] at h
  counted := by
    simp only [empty, stationTotal]
    rw [Std.ExtTreeMap.toList_eq_nil_iff.2 rfl]
    rfl

namespace Consistent

variable {a : Atlas}

/-- A system's stations are among those counted. -/
theorem size_le_stationCount (h : a.Consistent) {id : Nat} {s : StarSystem} (hs : a.systems[id]? = some s) :
    s.stations.size ≤ a.stationCount := by
  rw [h.counted, stationTotal_of_stored hs]
  exact Nat.le_add_right _ _

/-- A stored system is in the bucket of its sector and in no other. -/
theorem mem_bucket_iff (h : a.Consistent) {id : Nat} {s : StarSystem} (hs : a.systems[id]? = some s)
    {sector : Sector} : id ∈ a.bucket sector ↔ s.sector = sector := by
  rw [h.mem_bucket, hs]
  simp

/-- Only stored systems are in buckets. -/
theorem not_mem_bucket (h : a.Consistent) {id : Nat} (hid : a.systems[id]? = none) (sector : Sector) :
    id ∉ a.bucket sector := by
  rw [h.mem_bucket, hid]
  simp

/-- A name that leads to a stored system is that system's own. -/
theorem key_of_named (h : a.Consistent) {id : Nat} {s : StarSystem} (hs : a.systems[id]? = some s) {key : String}
    (hkey : a.names[key]? = some id) : s.key = key := by
  obtain ⟨t, ht, hk⟩ := h.named hkey
  rw [hs, Option.some.injEq] at ht
  rw [ht, hk]

/-! ### A system comes in -/

theorem enter (h : a.Consistent) {s : StarSystem} (hnew : a.systems[s.id]? = none)
    (hplace : Sector.of? s.x s.y s.z = some s.sector) : (a.enter s).Consistent where
  keyed {id t} ht := by
    simp only [Atlas.enter, Std.ExtTreeMap.getElem?_insert, Nat.compare_eq_eq] at ht
    split at ht
    · next hid => rw [← Option.some.inj ht, hid]
    · exact h.keyed ht
  placed {id t} ht := by
    simp only [Atlas.enter, Std.ExtTreeMap.getElem?_insert] at ht
    split at ht
    · rw [← Option.some.inj ht]
      exact hplace
    · exact h.placed ht
  bucket_nodup sector := by
    rw [show (a.enter s).bucket sector = (a.addToSector s.sector s.id).bucket sector from rfl,
      bucket_addToSector]
    split
    · rw [← List.concat_eq_append]
      exact (h.bucket_nodup _).concat (h.not_mem_bucket hnew _)
    · exact h.bucket_nodup sector
  mem_bucket {sector id} := by
    rw [show (a.enter s).bucket sector = (a.addToSector s.sector s.id).bucket sector from rfl,
      bucket_addToSector]
    simp only [Atlas.enter, Std.ExtTreeMap.getElem?_insert, Nat.compare_eq_eq]
    by_cases hid : s.id = id
    · subst hid
      have := h.not_mem_bucket hnew sector
      by_cases hs : s.sector = sector <;> simp [hs, this]
    · rw [if_neg hid, ← h.mem_bucket]
      by_cases hs : s.sector = sector
      · simp [hs, Ne.symm hid]
      · simp [hs]
  noEmptyBucket := h.noEmptyBucket.addToSector s.sector s.id
  named {key id} hkey := by
    simp only [Atlas.enter, Std.ExtTreeMap.getElem?_insert, Std.LawfulEqCmp.compare_eq_iff_eq] at hkey ⊢
    split at hkey
    · next hk =>
      rw [← Option.some.inj hkey, if_pos rfl]
      exact ⟨s, rfl, hk⟩
    · obtain ⟨t, ht, hk⟩ := h.named hkey
      have hid : s.id ≠ id := by
        rintro rfl
        rw [hnew] at ht
        cases ht
      exact ⟨t, by rw [if_neg hid, ht], hk⟩
  counted := by
    simp only [Atlas.enter]
    rw [stationTotal_insert, erase_eq_self hnew, h.counted, Nat.add_comm]

/-! ### A system goes out -/

theorem withdraw (h : a.Consistent) {id : Nat} {s : StarSystem} (hs : a.systems[id]? = some s) :
    (a.withdraw s).Consistent where
  keyed {j t} ht := by
    simp only [Atlas.withdraw, Std.ExtTreeMap.getElem?_erase] at ht
    split at ht
    · cases ht
    · exact h.keyed ht
  placed {j t} ht := by
    simp only [Atlas.withdraw, Std.ExtTreeMap.getElem?_erase] at ht
    split at ht
    · cases ht
    · exact h.placed ht
  bucket_nodup sector := by
    rw [show (a.withdraw s).bucket sector = (a.removeFromSector s.sector s.id).bucket sector from rfl,
      bucket_removeFromSector]
    split
    · exact (h.bucket_nodup _).filter _
    · exact h.bucket_nodup sector
  mem_bucket {sector j} := by
    rw [show (a.withdraw s).bucket sector = (a.removeFromSector s.sector s.id).bucket sector from rfl,
      bucket_removeFromSector]
    simp only [Atlas.withdraw, Std.ExtTreeMap.getElem?_erase, Nat.compare_eq_eq, h.keyed hs]
    by_cases hj : id = j
    · subst hj
      have hmem : id ∈ a.bucket sector ↔ s.sector = sector := h.mem_bucket_iff hs
      by_cases hsec : s.sector = sector <;> simp [hsec, hmem]
    · rw [if_neg hj, ← h.mem_bucket]
      by_cases hsec : s.sector = sector
      · simp [hsec, Ne.symm hj]
      · simp [hsec]
  noEmptyBucket := h.noEmptyBucket.removeFromSector s.sector s.id
  named {key j} hkey := by
    simp only [Atlas.withdraw, Std.ExtTreeMap.getElem?_erase, Std.LawfulEqCmp.compare_eq_iff_eq] at hkey ⊢
    split at hkey
    · cases hkey
    · next hne =>
      obtain ⟨t, ht, hk⟩ := h.named hkey
      -- The withdrawn system's own name is gone, so a name that is left leads elsewhere.
      have hid : s.id ≠ j := by
        rintro rfl
        exact hne (h.key_of_named hs (h.keyed hs ▸ hkey))
      exact ⟨t, by rw [if_neg hid, ht], hk⟩
  counted := by
    simp only [Atlas.withdraw]
    rw [h.counted, stationTotal_of_stored hs, h.keyed hs, Nat.add_sub_cancel_left]

theorem not_stored_withdraw (a : Atlas) (s : StarSystem) : (a.withdraw s).systems[s.id]? = none := by
  simp [Atlas.withdraw]

/-! ### A system changes -/

/-- A system takes the place of its former self, in an atlas that has its names and buckets put right already. -/
theorem replaced (h : a.Consistent) {b : Atlas} {id : Nat} {s t : StarSystem} (hs : a.systems[id]? = some s)
    (hid : t.id = id) (hplace : Sector.of? t.x t.y t.z = some t.sector)
    (hsystems : b.systems = a.systems.insert id t)
    (hnodup : ∀ sector, (b.bucket sector).Nodup) (hempty : b.NoEmptyBucket)
    (hbucket : ∀ sector j, j ∈ b.bucket sector ↔ if id = j then t.sector = sector else j ∈ a.bucket sector)
    (hnames : ∀ {key j}, b.names[key]? = some j → if id = j then t.key = key else a.names[key]? = some j)
    (hcount : b.stationCount + s.stations.size = a.stationCount + t.stations.size) : b.Consistent where
  keyed {j u} hu := by
    rw [hsystems, Std.ExtTreeMap.getElem?_insert] at hu
    split at hu
    · next hj => rw [← Option.some.inj hu, hid, Nat.compare_eq_eq.1 hj]
    · exact h.keyed hu
  placed {j u} hu := by
    rw [hsystems, Std.ExtTreeMap.getElem?_insert] at hu
    split at hu
    · rw [← Option.some.inj hu]
      exact hplace
    · exact h.placed hu
  bucket_nodup := hnodup
  mem_bucket {sector j} := by
    rw [hbucket, hsystems, Std.ExtTreeMap.getElem?_insert]
    by_cases hj : id = j
    · simp [hj]
    · simp only [hj, if_false, Nat.compare_eq_eq, h.mem_bucket]
  noEmptyBucket := hempty
  named {key j} hkey := by
    have := hnames hkey
    rw [hsystems, Std.ExtTreeMap.getElem?_insert]
    by_cases hj : id = j
    · rw [if_pos hj] at this
      exact ⟨t, by simp [hj], this⟩
    · rw [if_neg hj] at this
      simpa only [hj, if_false, Nat.compare_eq_eq] using h.named this
  counted := by
    have h₁ := stationTotal_insert a.systems id t
    have h₂ := stationTotal_of_stored hs
    have h₃ := h.counted
    rw [hsystems]
    omega

/-- A system takes the place of its former self, with its name and sector unchanged. -/
theorem replace (h : a.Consistent) {id : Nat} {s t : StarSystem} (hs : a.systems[id]? = some s)
    (hid : t.id = id) (hplace : Sector.of? t.x t.y t.z = some t.sector) (hsector : t.sector = s.sector)
    (hkey : t.key = s.key) {n : Nat} (hn : n + s.stations.size = a.stationCount + t.stations.size) :
    ({ a.replace id t with stationCount := n } : Atlas).Consistent := by
  refine h.replaced hs hid hplace rfl h.bucket_nodup h.noEmptyBucket ?_ ?_ hn
  · intro sector j
    change j ∈ a.bucket sector ↔ _
    split
    · next hj => rw [← hj, h.mem_bucket_iff hs, hsector]
    · rfl
  · intro key j hj
    split
    · next hid =>
      rw [hkey]
      exact h.key_of_named hs (hid ▸ hj)
    · exact hj

/-- A system takes up a station, in the place of the one kept under the same id if there is one. -/
theorem putStation (h : a.Consistent) {id : Nat} {s : StarSystem} (hs : a.systems[id]? = some s) (key : Nat)
    (station : Station) :
    ({ a.replace id (s.withStation key station) with
      stationCount := if key ∈ s.stations then a.stationCount else a.stationCount + 1 } : Atlas).Consistent := by
  have hid := h.keyed hs
  have hplace := h.placed hs
  refine h.replace (t := s.withStation key station) hs hid hplace rfl rfl ?_
  simp only [StarSystem.withStation, Std.ExtTreeMap.size_insert, Std.ExtTreeMap.contains_iff_mem]
  split <;> omega

theorem mem_bucket_relocate (h : a.Consistent) {id : Nat} {s : StarSystem} (hs : a.systems[id]? = some s)
    (target sector : Sector) (j : Nat) :
    j ∈ (a.relocate s.sector target id).bucket sector ↔
      if id = j then target = sector else j ∈ a.bucket sector := by
  unfold relocate
  split
  · next ht =>
    split
    · next hj => rw [← hj, h.mem_bucket_iff hs, ht]
    · rfl
  · next ht =>
    rw [bucket_addToSector, bucket_removeFromSector, bucket_removeFromSector]
    rw [if_neg ht]
    by_cases hj : id = j
    · subst hj
      have hmem : id ∈ a.bucket sector ↔ s.sector = sector := h.mem_bucket_iff hs
      by_cases h₁ : target = sector <;> by_cases h₂ : s.sector = sector <;> simp [h₁, h₂, hmem]
    · by_cases h₁ : target = sector <;> by_cases h₂ : s.sector = sector <;> simp [h₁, h₂, hj, Ne.symm hj]

theorem bucket_nodup_relocate (h : a.Consistent) {id : Nat} {s : StarSystem} (hs : a.systems[id]? = some s)
    (target sector : Sector) : ((a.relocate s.sector target id).bucket sector).Nodup := by
  unfold relocate
  split
  · exact h.bucket_nodup sector
  · next ht =>
    have hnodup : ∀ sector', ((a.removeFromSector s.sector id).bucket sector').Nodup := by
      intro sector'
      rw [bucket_removeFromSector]
      split
      · exact (h.bucket_nodup _).filter _
      · exact h.bucket_nodup _
    rw [bucket_addToSector]
    split
    · rw [← List.concat_eq_append]
      refine (hnodup _).concat ?_
      rw [bucket_removeFromSector, if_neg ht, h.mem_bucket_iff hs]
      exact ht
    · exact hnodup _

theorem names_rename (h : a.Consistent) {id : Nat} {s : StarSystem} (hs : a.systems[id]? = some s)
    {new key : String} {j : Nat} (hj : (a.rename s.name new id).names[key]? = some j) :
    if id = j then Text.lower new = key else a.names[key]? = some j := by
  simp only [rename, Std.ExtTreeMap.getElem?_insert, Std.LawfulEqCmp.compare_eq_iff_eq] at hj
  split at hj
  · next hkey =>
    rw [if_pos (Option.some.inj hj)]
    exact hkey
  · have hold : a.names[key]? = some j := by
      split at hj
      · rw [Std.ExtTreeMap.getElem?_erase] at hj
        split at hj
        · cases hj
        · exact hj
      · exact hj
    split
    · next hid =>
      subst hid
      have hlower : Text.lower s.name = key := h.key_of_named hs hold
      simp [hlower, hold] at hj
    · exact hold

/-- A system takes the place of its former self, under its new name and in its new sector. -/
theorem revise (h : a.Consistent) {id : Nat} {s t : StarSystem} (hs : a.systems[id]? = some s) (hid : t.id = id)
    (hplace : Sector.of? t.x t.y t.z = some t.sector) (hsize : t.stations.size = s.stations.size) :
    (((if s.name ≠ t.name then a.rename s.name t.name id else a).relocate s.sector t.sector id).replace
      id t).Consistent := by
  generalize hb : (if s.name ≠ t.name then a.rename s.name t.name id else a) = b
  have hsystems : b.systems = a.systems := by rw [← hb]; split <;> rfl
  have hsectors : b.sectors = a.sectors := by rw [← hb]; split <;> rfl
  have hcount : b.stationCount = a.stationCount := by rw [← hb]; split <;> rfl
  have hnames {key : String} {j : Nat} (hj : b.names[key]? = some j) :
      if id = j then t.key = key else a.names[key]? = some j := by
    rw [← hb] at hj
    split at hj
    · exact h.names_rename hs hj
    · next hname =>
      split
      · next hid =>
        rw [StarSystem.key, ← not_not.1 hname]
        exact h.key_of_named hs (hid ▸ hj)
      · exact hj
  refine h.replaced hs hid hplace ?_ (fun sector => ?_) ?_ (fun sector j => ?_) ?_ ?_
  · simp only [Atlas.replace, systems_relocate, hsystems]
  · change ((b.relocate s.sector t.sector id).bucket sector).Nodup
    rw [bucket_relocate_congr hsectors]
    exact h.bucket_nodup_relocate hs t.sector sector
  · refine NoEmptyBucket.relocate (a := b) ?_ s.sector t.sector id
    unfold NoEmptyBucket
    rw [hsectors]
    exact h.noEmptyBucket
  · change j ∈ (b.relocate s.sector t.sector id).bucket sector ↔ _
    rw [bucket_relocate_congr hsectors]
    exact h.mem_bucket_relocate hs t.sector sector j
  · intro key j hj
    simp only [Atlas.replace, names_relocate] at hj
    exact hnames hj
  · simp only [Atlas.replace, stationCount_relocate, hcount, hsize]

end Consistent

end Atlas

end StationFinder
