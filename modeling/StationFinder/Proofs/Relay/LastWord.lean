import Mathlib.Data.List.Induction
import StationFinder.Proofs.Galaxy.Places
import StationFinder.Relay.Receiver

/-!
# The last word on a station

Frames come in any order, and many of them say nothing about a given station: they cannot be decoded, are of no
interest, or name another station or none. Those that do name it have the last word on it, each kind on its own matter
(`Receiver.last_word`): the last list of ships is what the station sells, and the last list of modules of a category is
what it carries of that category. Nothing else in the atlas changes, so what a frame names it names throughout.
-/

namespace StationFinder

/-! ### What one announcement does to one station -/

namespace Announcement

/-- The place of the station that an announcement is about, if its names mean one. -/
def place? (a : Atlas) : Announcement → Option Place
  | ships system station _ _ => a.placeNamed? system station
  | modules system station _ _ _ => a.placeNamed? system station
  | discarded => none

/-- The ships that an announcement lists. -/
def ships? : Announcement → Option ShipSet
  | ships _ _ known _ => some known
  | _ => none

/-- The modules that an announcement lists, by category. -/
def modules? : Announcement → Option Inventory
  | modules _ _ update _ _ => some update
  | _ => none

end Announcement

namespace Station

/-- A station after an announcement about it. -/
def informed (station : Station) (now : Nat) : Announcement → Station
  | .ships _ _ known _ => { station.withShips known with updatedAt := now }
  | .modules _ _ update _ _ => { station.withModules update with updatedAt := now }
  | .discarded => station

@[simp] theorem name_informed (station : Station) (now : Nat) (x : Announcement) :
    (station.informed now x).name = station.name := by
  cases x <;> rfl

/-- A station after a series of announcements about it, each with its time. -/
def informedAll (station : Station) (heard : List (Nat × Announcement)) : Station :=
  heard.foldl (fun station h => station.informed h.1 h.2) station

theorem informedAll_concat (station : Station) (heard : List (Nat × Announcement)) (h : Nat × Announcement) :
    station.informedAll (heard ++ [h]) = (station.informedAll heard).informed h.1 h.2 := by
  simp [informedAll]

theorem name_informedAll (station : Station) (heard : List (Nat × Announcement)) :
    (station.informedAll heard).name = station.name := by
  induction heard using List.reverseRecOn with
  | nil => rfl
  | append_singleton heard h ih => rw [informedAll_concat, name_informed, ih]

end Station

namespace Station

/-- The last list of ships stays, and so does the last list of modules of each category. -/
theorem informedAll_eq (station : Station) {heard : List (Nat × Announcement)}
    (hheard : ∀ h ∈ heard, h.2 ≠ .discarded) :
    station.informedAll heard =
      { station with
        ships := (heard.filterMap fun h => h.2.ships?).getLast?.or station.ships
        hasShipyard := station.hasShipyard || heard.any fun h => h.2.ships?.isSome
        inventory := .ofFun fun c =>
          (heard.filterMap fun h => h.2.modules?.bind (·.get c)).getLast?.or (station.inventory.get c)
        hasOutfitting := station.hasOutfitting || heard.any fun h => h.2.modules?.isSome
        updatedAt := (heard.map Prod.fst).getLast?.getD station.updatedAt } := by
  induction heard using List.reverseRecOn with
  | nil =>
    have hstock : Inventory.ofFun station.inventory.get = station.inventory := Inventory.ext fun c => by simp
    simp [informedAll, hstock]
  | append_singleton heard h ih =>
    rw [informedAll_concat, ih fun h' hh' => hheard h' (List.mem_append_left _ hh')]
    have hh : h.2 ≠ .discarded := hheard h (by simp)
    obtain ⟨now, x⟩ := h
    cases x with
    | ships system name known unknown =>
      simp [informed, withShips, Announcement.ships?, Announcement.modules?]
    | modules system name update unknown categories =>
      simp [informed, withModules, Announcement.ships?, Announcement.modules?, Inventory.updated, Option.or_assoc]
    | discarded => exact absurd rfl hh

end Station

/-- An announcement changes the station that it is about and nothing else in the atlas. -/
theorem Store.atlas_apply (s : Store) (now : Nat) (x : Announcement) :
    (s.apply now x).atlas = s.atlas.mapStations fun p station =>
      if x.place? s.atlas = some p then station.informed now x else station := by
  cases x with
  | ships system station known unknown => exact s.atlas_updateNamed system station now (·.withShips known)
  | modules system station update unknown categories =>
    exact s.atlas_updateNamed system station now (·.withModules update)
  | discarded => exact (Atlas.mapStations_eq_self _ fun _ _ => if_neg (by simp [Announcement.place?])).symm

/-- Announcements are about the same places after changes to stations that leave their names alone. -/
theorem Announcement.place?_mapStations {a : Atlas} {f : Place → Station → Station}
    (hf : ∀ p station, (f p station).name = station.name) (x : Announcement) :
    x.place? (a.mapStations f) = x.place? a := by
  cases x with
  | ships system station known unknown => exact Atlas.placeNamed?_mapStations hf system station
  | modules system station update unknown categories => exact Atlas.placeNamed?_mapStations hf system station
  | discarded => rfl

/-! ### What frames do to the atlas -/

namespace Receiver

/-- The announcements among some frames, each frame with its time of arrival, that are about the station at a place. -/
def heardAt (t : Tuning) (a : Atlas) (p : Place) (frames : List (Nat × ByteArray)) : List (Nat × Announcement) :=
  frames.filterMap fun frame =>
    match Frame.announcement t.catalog t.feed.maxFrameBytes frame.2 with
    | .ok x => if x.place? a = some p then some (frame.1, x) else none
    | .error _ => none

/-- Takes in a series of frames, each at its time of arrival. -/
def handleAll (r : Receiver) (t : Tuning) (frames : List (Nat × ByteArray)) : Receiver :=
  frames.foldl (fun r frame => (r.handleFrame t frame.1 frame.2).2) r

theorem handleAll_concat (r : Receiver) (t : Tuning) (frames : List (Nat × ByteArray)) (frame : Nat × ByteArray) :
    r.handleAll t (frames ++ [frame]) = ((r.handleAll t frames).handleFrame t frame.1 frame.2).2 := by
  simp [handleAll]

/-- After some frames each station has taken in what was announced about it, and nothing else has changed. -/
theorem atlas_handleAll (r : Receiver) (t : Tuning) (frames : List (Nat × ByteArray)) :
    (r.handleAll t frames).store.atlas =
      r.store.atlas.mapStations fun p station => station.informedAll (heardAt t r.store.atlas p frames) := by
  induction frames using List.reverseRecOn with
  | nil => exact (Atlas.mapStations_eq_self _ fun _ _ => rfl).symm
  | append_singleton frames frame ih =>
    have hsplit (p : Place) : heardAt t r.store.atlas p (frames ++ [frame]) =
        heardAt t r.store.atlas p frames ++ heardAt t r.store.atlas p [frame] := List.filterMap_append
    rw [handleAll_concat, handleFrame]
    cases hx : Frame.announcement t.catalog t.feed.maxFrameBytes frame.2 with
    | error fault =>
      have hnone (p : Place) : heardAt t r.store.atlas p [frame] = [] := by simp [heardAt, hx]
      simp only [hsplit, hnone, List.append_nil]
      exact ih
    | ok x =>
      dsimp only
      rw [Store.atlas_apply, ih, Atlas.mapStations_mapStations]
      congr 1
      funext p station
      rw [Announcement.place?_mapStations fun p station => station.name_informedAll _, hsplit]
      by_cases hplace : x.place? r.store.atlas = some p
      · have hone : heardAt t r.store.atlas p [frame] = [(frame.1, x)] := by simp [heardAt, hx, hplace]
        rw [if_pos hplace, hone, Station.informedAll_concat]
      · have hnone : heardAt t r.store.atlas p [frame] = [] := by simp [heardAt, hx, hplace]
        rw [if_neg hplace, hnone, List.append_nil]

theorem ne_discarded_of_mem_heardAt {t : Tuning} {a : Atlas} {p : Place} {frames : List (Nat × ByteArray)}
    {h : Nat × Announcement} (hh : h ∈ heardAt t a p frames) : h.2 ≠ .discarded := by
  obtain ⟨frame, -, hframe⟩ := List.mem_filterMap.1 hh
  split at hframe
  · next x hx =>
    rw [Option.ite_none_right_eq_some, Option.some.injEq] at hframe
    obtain ⟨hplace, rfl⟩ := hframe
    rintro rfl
    simp [Announcement.place?] at hplace
  · cases hframe

/-- **The last word on a station counts.** After any frames, of whatever kind and in whatever order, each station
sells the ships of the last list of ships that it was named in and, in each category, carries the modules of the last
list of modules that it was named in and that has the category; without such a list it keeps what it had. Its shipyard
or outfitting is there if it was there before or there was such a list, and its time stamp is that of the last frame
that named it. Nothing else has changed: not the rest of the station, the systems, the names, the sectors and the
count, and so names of systems and stations mean the stations that they meant before. -/
theorem last_word (r : Receiver) (t : Tuning) (frames : List (Nat × ByteArray)) :
    (∀ p : Place, (r.handleAll t frames).store.atlas.stationAt? p =
      (r.store.atlas.stationAt? p).map fun station =>
        let heard := heardAt t r.store.atlas p frames
        { station with
          ships := (heard.filterMap fun h => h.2.ships?).getLast?.or station.ships
          hasShipyard := station.hasShipyard || heard.any fun h => h.2.ships?.isSome
          inventory := .ofFun fun c =>
            (heard.filterMap fun h => h.2.modules?.bind (·.get c)).getLast?.or (station.inventory.get c)
          hasOutfitting := station.hasOutfitting || heard.any fun h => h.2.modules?.isSome
          updatedAt := (heard.map Prod.fst).getLast?.getD station.updatedAt }) ∧
    (∀ id : Nat, ((r.handleAll t frames).store.atlas.systems[id]?).map (fun s => { s with stations := ∅ }) =
      (r.store.atlas.systems[id]?).map fun s => { s with stations := ∅ }) ∧
    (r.handleAll t frames).store.atlas.names = r.store.atlas.names ∧
    (r.handleAll t frames).store.atlas.sectors = r.store.atlas.sectors ∧
    (r.handleAll t frames).store.atlas.stationCount = r.store.atlas.stationCount ∧
    ∀ systemName stationName : String, (r.handleAll t frames).store.atlas.placeNamed? systemName stationName =
      r.store.atlas.placeNamed? systemName stationName := by
  rw [atlas_handleAll]
  refine ⟨fun p => ?_, fun id => ?_, rfl, rfl, rfl,
    Atlas.placeNamed?_mapStations fun p station => station.name_informedAll _⟩
  · rw [Atlas.stationAt?_mapStations]
    congr 1
    funext station
    exact station.informedAll_eq fun h => ne_discarded_of_mem_heardAt
  · rw [Atlas.getElem?_systems_mapStations, Option.map_map]
    rfl

end Receiver

end StationFinder
