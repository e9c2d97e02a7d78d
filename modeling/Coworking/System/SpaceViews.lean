import Coworking.Services.Views
import Coworking.System.LayoutUpdate

/-!
# Views That Agree

A venue is shown in four places: on a card of the search and of the favorites, in its details, and
room by room.  Each is put together by queries of its own.

- `mem_listVenues`, `search_cards`: the cards of the search;
- `seatCount_eq_sum`: the workplaces of a card are those of the rooms;
- `views_agree`: what the views have in common, and when the two kinds of cards are the same;
- `layout_read_back`: a layout update is read back as it was asked for.
-/

namespace Coworking

open Foundation

variable {rt : Runtime} {db : ViewDatabase} {s s' : Store} {venueId roomId : Uuid}

/-! ## §1 Cards and details -/

/-- The card of a search that has looked at the given venues. -/
def searchCard (s : Store) (venueIds : List Uuid) (venue : Venue) : VenueListItem :=
  ⟨venue.id, venue.name, venue.address,
    sorted (getFeatureMap s (some venueIds) none venue.id), seatCount s venue.id⟩

theorem mem_listVenues {db : Database} {q location : Option String} {capacity : Option Int}
    {features : Option (List String)} {card : VenueListItem}
    (h : card ∈ listVenues rt db s q location capacity features) :
    ∃ venue ∈ s.venues, ∃ venueIds, venue.id ∈ venueIds ∧ card = searchCard s venueIds venue := by
  simp only [listVenues, List.mem_filterMap] at h
  obtain ⟨venue, hvenue, hcard⟩ := h
  refine ⟨venue, ?_, _, List.mem_map_of_mem hvenue, ?_⟩
  · exact (List.mem_filter.mp (db.venueOrder.mem_arrange.mp hvenue)).1
  · split at hcard
    · cases hcard
    · split at hcard
      · cases hcard
      · exact (Option.some.inj hcard).symm

/-- A search for nothing in particular has a card for every venue. -/
theorem search_cards (rt : Runtime) (db : Database) (s : Store) :
    listVenues rt db s none none none none =
      (db.venueOrder.arrange s.venues.rows).map
        (searchCard s ((db.venueOrder.arrange s.venues.rows).map (·.id))) := by
  have hall : s.venues.rows.filter (fun _ => true) = s.venues.rows :=
    List.filter_eq_self.mpr fun _ _ => rfl
  simp only [listVenues, Option.filter_none, Option.all_none, Bool.and_self, hall,
    Option.getD_none, List.map_nil, ne_eq, not_true_eq_false, false_and, if_false,
    Option.mem_def, reduceCtorEq, exists_false]
  exact congrFun List.filterMap_eq_map _

theorem getVenue_eq_ok {db : Database} {full : VenueFull} :
    getVenue db s venueId = .ok full ↔ ∃ venue, s.venue? venueId = some venue ∧ full =
      { id := venue.id
        name := venue.name
        address := venue.address
        timezone := venue.timezone
        location := ⟨none, none⟩
        features := sorted (getFeatureMap s (some [venueId]) none venue.id)
        rooms := (db.roomOrder.arrange (s.rooms.rows.filter (·.venueId = venueId))).map fun room =>
          ⟨room.id, room.name, room.allowFullRoomBooking, sorted (getFeatureMap s none
            (some ((db.roomOrder.arrange (s.rooms.rows.filter (·.venueId = venueId))).map (·.id)))
            room.id)⟩ } := by
  simp only [getVenue, bind_eq_ok, found_eq_ok, pure_eq_ok]
  exact exists_congr fun venue => and_congr_right fun _ => eq_comm

/-! ## §2 Workplaces -/

/-- The seats of a room that are in use. -/
def shownActiveSeats (db : ViewDatabase) (s : Store) (roomId : Uuid) : Nat :=
  match getSeatsByRoom db s roomId with
  | .ok seats => seats.countP (·.active)
  | .error _ => 0

theorem shownActiveSeats_eq {room : Room} (hroom : s.room? roomId = some room) :
    shownActiveSeats db s roomId =
      s.seats.rows.countP fun seat => seat.active && seat.roomId = roomId := by
  have hseats : getSeatsByRoom db s roomId = .ok _ :=
    getSeatsByRoom_eq_ok.mpr ⟨⟨room, hroom⟩, rfl⟩
  rw [shownActiveSeats, hseats]
  show List.countP _ (List.map _ _) = _
  rw [List.countP_map, (db.seatOrder.perm _).countP_eq, List.countP_filter]
  rfl

/-- **Workplaces.**  The count on a card, one query over all rooms, is the sum over the rooms of the
venue of the active seats that each of them lists. -/
theorem seatCount_eq_sum {db : ViewDatabase} {full : VenueFull}
    (h : getVenue db.toDatabase s venueId = .ok full) :
    seatCount s venueId = (full.rooms.map fun room => shownActiveSeats db s room.id).sum := by
  obtain ⟨venue, -, rfl⟩ := getVenue_eq_ok.mp h
  have hgroup : seatCount s venueId = _ := Table.countP_group s.rooms (·.venueId = venueId)
    (fun seat : Seat => seat.roomId) (fun seat => seat.active) s.seats.rows
  rw [hgroup, List.map_map]
  -- The rooms come in another order, and each counts its own seats.
  refine (((db.roomOrder.perm _).map _).sum_eq.trans ?_).symm
  congr 1
  apply List.map_congr_left
  intro room hroom
  have hget : s.room? room.id = some room := Table.get?_of_mem (List.mem_filter.mp hroom).1
  exact shownActiveSeats_eq hget

/-! ## §3 The two kinds of cards -/

theorem sorted_eq_iff {names names' : List String} :
    sorted names = sorted names' ↔ names.Perm names' := by
  constructor
  · intro h
    have hright : (sorted names').Perm names' := List.perm_insertionSort _ names'
    rw [← h] at hright
    exact (List.perm_insertionSort _ names).symm.trans hright
  · intro h
    exact List.Perm.eq_of_pairwise (fun a b _ _ hab hba => le_antisymm hab hba)
      (List.pairwise_insertionSort _ names) (List.pairwise_insertionSort _ names')
      ((List.perm_insertionSort _ names).trans (h.trans (List.perm_insertionSort _ names').symm))

/-- The names of the features that are linked to a venue together with a room. -/
def sharedNames (s : Store) (venueId : Uuid) : List String :=
  (s.featureLinks.rows.filter fun link =>
    link.venueId = some venueId ∧ link.roomId ≠ none).filterMap fun link =>
      (s.features.get? link.featureId).map (·.name)

/-- A card of the favorites has these besides those of the search. -/
theorem linkedNames_perm (s : Store) (venueId : Uuid) :
    (linkedNames s venueId).Perm (((s.featureLinks.rows.filter fun link =>
      link.venueId = some venueId ∧ link.roomId = none).filterMap fun link =>
        (s.features.get? link.featureId).map (·.name)) ++ sharedNames s venueId) := by
  have hlinked : linkedNames s venueId =
      (s.featureLinks.rows.filter fun link => link.venueId = some venueId).filterMap fun link =>
        (s.features.get? link.featureId).map (·.name) := by
    rw [linkedNames, List.filterMap_filter]
    apply List.filterMap_congr
    intro link _
    by_cases hid : link.venueId = some venueId <;> simp [hid]
  rw [hlinked, sharedNames, ← List.filterMap_append]
  apply List.Perm.filterMap
  have hsplit := List.filter_append_perm (fun link : FeatureLink => link.roomId = none)
    (s.featureLinks.rows.filter fun link => link.venueId = some venueId)
  rw [List.filter_filter, List.filter_filter] at hsplit
  refine hsplit.symm.trans (List.Perm.of_eq ?_)
  congr 1
  · exact List.filter_congr fun link _ => by simp [Bool.and_comm]
  · exact List.filter_congr fun link _ => by simp [Bool.and_comm]

/-- The two cards of a venue are the same when no feature is linked to it together with a room. -/
theorem card_eq_iff (hapart : RoomsApart s)
    (hfeatures : ∀ link ∈ s.featureLinks, (s.features.get? link.featureId).isSome)
    (hstored : venueId ∈ s.venues.keys) {venueIds : List Uuid} (hvenue : venueId ∈ venueIds) :
    sorted (getFeatureMap s (some venueIds) none venueId) =
        sorted (venueFeatureMap s venueIds venueId) ↔
      ∀ link ∈ s.featureLinks, link.venueId = some venueId → link.roomId = none := by
  rw [sorted_eq_iff, getFeatureMap_venue hapart hstored hvenue, venueFeatureMap_eq hvenue]
  constructor
  · intro hperm link hlink hid
    -- Nothing is left for the names that only one of the cards has.
    have hlength := (hperm.trans (linkedNames_perm s venueId)).length_eq
    rw [List.length_append] at hlength
    have hnil : sharedNames s venueId = [] := List.length_eq_zero_iff.mp (by omega)
    by_contra hroom
    have hnone := List.filterMap_eq_nil_iff.mp hnil link (List.mem_filter.mpr
      ⟨hlink, by simp [hid, hroom]⟩)
    have hsome := hfeatures link hlink
    rw [Option.map_eq_none_iff] at hnone
    rw [hnone] at hsome
    exact absurd hsome (by decide)
  · intro hrooms
    have hnil : sharedNames s venueId = [] := by
      rw [sharedNames, List.filter_eq_nil_iff.mpr]
      · rfl
      · intro link hlink h
        simp only [decide_eq_true_eq] at h
        exact h.2 (hrooms link hlink h.1)
    have hperm := linkedNames_perm s venueId
    rw [hnil, List.append_nil] at hperm
    exact hperm.symm

/-- **The views agree.**  Let every link be to a feature that exists, and no room have the id of a
venue.  Whatever is searched for, a card shows what the details of its venue show, and as many
workplaces as the rooms listed there have active seats; the list of the rooms of the venue is the
one of these details, and the details of each of the rooms show what the list shows.  And the cards
of the favorites are those of the search, for all venues, if and only if no feature is linked to a
venue together with a room. -/
theorem views_agree (hapart : RoomsApart s)
    (hfeatures : ∀ link ∈ s.featureLinks, (s.features.get? link.featureId).isSome) :
    (∀ q location capacity features,
      ∀ card ∈ listVenues rt db.toDatabase s q location capacity features,
        ∃ full, getVenue db.toDatabase s card.id = .ok full ∧
          getRoomsByVenue db.toDatabase s card.id = .ok full.rooms ∧ full.name = card.name ∧
          full.address = card.address ∧ full.features = card.features ∧
          card.availableWorkplaces = (full.rooms.map fun room => shownActiveSeats db s room.id).sum ∧
          ∀ room ∈ full.rooms, ∃ details, getRoom db s room.id = .ok details ∧
            details.name = room.name ∧
            details.allowFullRoomBooking = room.allowFullRoomBooking ∧
            details.features = room.features) ∧
    (listVenues rt db.toDatabase s none none none none =
        buildVenueListItems s (db.venueOrder.arrange s.venues.rows) ↔
      ∀ link ∈ s.featureLinks, ∀ venue ∈ s.venues, link.venueId = some venue.id →
        link.roomId = none) := by
  constructor
  · intro q location capacity features card hcard
    obtain ⟨venue, hvenue, venueIds, hmem, rfl⟩ := mem_listVenues hcard
    have hget : s.venue? venue.id = some venue := Table.get?_of_mem hvenue
    have hstored : venue.id ∈ s.venues.keys := Table.mem_keys.mpr ⟨venue, hvenue, rfl⟩
    have hfull : getVenue db.toDatabase s venue.id = .ok _ :=
      getVenue_eq_ok.mpr ⟨venue, hget, rfl⟩
    have hrooms : getRoomsByVenue db.toDatabase s venue.id = .ok _ :=
      (getRoomsByVenue_eq db.toDatabase s venue.id).trans (congrArg _ hfull)
    refine ⟨_, hfull, hrooms, rfl, rfl, ?_, seatCount_eq_sum hfull, ?_⟩
    · show sorted _ = sorted _
      rw [getFeatureMap_venue hapart hstored (List.mem_singleton_self _),
        getFeatureMap_venue hapart hstored hmem]
    · intro brief hbrief
      obtain ⟨room, hroom, rfl⟩ := List.mem_map.mp hbrief
      have hrow : room ∈ s.rooms :=
        (List.mem_filter.mp (db.roomOrder.mem_arrange.mp hroom)).1
      refine ⟨_, getRoom_eq_ok.mpr ⟨room, Table.get?_of_mem hrow, rfl⟩, rfl, rfl, ?_⟩
      show sorted _ = sorted _
      rw [getFeatureMap_room (List.mem_map_of_mem hroom)]
  · have hstored : ∀ venue ∈ db.venueOrder.arrange s.venues.rows, venue.id ∈ s.venues.keys :=
      fun venue hvenue => Table.mem_keys.mpr ⟨venue, db.venueOrder.mem_arrange.mp hvenue, rfl⟩
    rw [search_cards, buildVenueListItems, List.map_inj_left]
    -- Venue by venue.
    constructor
    · intro hcards link hlink venue hvenue hid
      have hrow := db.venueOrder.mem_arrange.mpr hvenue
      have hcard := congrArg VenueListItem.features (hcards venue hrow)
      exact (card_eq_iff hapart hfeatures (hstored venue hrow) (List.mem_map_of_mem hrow)).mp hcard
        link hlink hid
    · intro hrooms venue hrow
      have hvenue := db.venueOrder.mem_arrange.mp hrow
      rw [searchCard, (card_eq_iff hapart hfeatures (hstored venue hrow)
        (List.mem_map_of_mem hrow)).mpr fun link hlink => hrooms link hlink venue hvenue]

/-- A feature that the small venue shares with its room. -/
def sharedFeature : Store :=
  { smallStore with
    features := ⟨[⟨1, "wifi", "WiFi"⟩], by decide⟩
    featureLinks := ⟨[⟨1, 1, some 1, some 2⟩], by decide⟩ }

/-- The favorites show it for the venue, and the search does not. -/
theorem views_agree_shared :
    listVenues .plain ViewDatabase.plain.toDatabase sharedFeature none none none none ≠
      buildVenueListItems sharedFeature
        (ViewDatabase.plain.venueOrder.arrange sharedFeature.venues.rows) := by
  have hapart : RoomsApart sharedFeature := by
    intro link hlink id hid
    obtain rfl := List.mem_singleton.mp hlink
    obtain rfl := Option.some.inj hid
    decide
  have hfeatures : ∀ link ∈ sharedFeature.featureLinks,
      (sharedFeature.features.get? link.featureId).isSome := by
    intro link hlink
    obtain rfl := List.mem_singleton.mp hlink
    rfl
  intro hcards
  have hrooms := (views_agree hapart hfeatures).2.mp hcards
  exact absurd (hrooms _ List.mem_cons_self _ List.mem_cons_self rfl) (by decide)

/-! ## §4 Reading a layout back -/

/-- The values a seat is shown with. -/
def SeatBrief.values (seat : SeatBrief) : SeatValues :=
  ⟨seat.label, seat.gridX, seat.gridY, seat.seatType, seat.attributes, seat.active⟩

/-- What the payload makes of a seat that is shown: the last entry with its id counts. -/
def SeatBrief.update (payload : RoomLayoutUpdate) (seat : SeatBrief) : SeatBrief :=
  match payload.lastEntry seat.id with
  | some entry => ⟨seat.id, entry.label, entry.gridX, entry.gridY, entry.seatType, entry.attributes,
      entry.active⟩
  | none => seat

theorem brief_seatAfter {payload : RoomLayoutUpdate} {seat : Seat} (h : seat.roomId = roomId) :
    (seatAfter roomId payload seat).brief = seat.brief.update payload := by
  have hentry : payload.lastEntry seat.brief.id = payload.lastEntry seat.id := rfl
  unfold seatAfter SeatBrief.update
  rw [if_pos h, hentry]
  cases payload.lastEntry seat.id with
  | none => rfl
  | some entry => rfl

/-- The seats of a room after the update. -/
theorem LayoutRealised.roomSeats {payload : RoomLayoutUpdate}
    (h : LayoutRealised s s' roomId payload) : ∃ added : List Seat,
      s'.seats.rows.filter (·.roomId = roomId) =
        (s.seats.rows.filter (·.roomId = roomId)).map (seatAfter roomId payload) ++ added ∧
      (added.map Seat.values).Perm ((newEntries s roomId payload).map RoomLayoutSeatInput.values) ∧
      (∀ seat ∈ added, seat.id ∉ s.seats.keys) ∧ (added.map (·.id)).Nodup := by
  obtain ⟨added, hrows, hvalues, hadded⟩ := h.seats
  have hsub : (added.map (·.id)).Sublist (s'.seats.rows.map (·.id)) := by
    rw [hrows, List.map_append]
    exact List.sublist_append_right _ _
  refine ⟨added, ?_, hvalues, fun seat hseat => (hadded seat hseat).2,
    s'.seats.keysNodup.sublist hsub⟩
  rw [hrows, List.filter_append, List.filter_map]
  congr 1
  · congr 1
    apply List.filter_congr
    intro seat _
    simp [seatAfter_roomId]
  · apply List.filter_eq_self.mpr
    intro seat hseat
    simp [(hadded seat hseat).1]

/-- Those of the other rooms. -/
theorem LayoutRealised.otherSeats {payload : RoomLayoutUpdate} {other : Uuid}
    (h : LayoutRealised s s' roomId payload) (hne : other ≠ roomId) :
    s'.seats.rows.filter (·.roomId = other) = s.seats.rows.filter (·.roomId = other) := by
  obtain ⟨added, hrows, -, hadded⟩ := h.seats
  have hnone : added.filter (·.roomId = other) = [] := by
    apply List.filter_eq_nil_iff.mpr
    intro seat hseat
    simp [(hadded seat hseat).1, hne.symm]
  rw [hrows, List.filter_append, hnone, List.append_nil, List.filter_map]
  have hfilter : s.seats.rows.filter ((fun seat => decide (seat.roomId = other)) ∘
      seatAfter roomId payload) = s.seats.rows.filter (·.roomId = other) := by
    apply List.filter_congr
    intro seat _
    simp [seatAfter_roomId]
  rw [hfilter]
  -- A seat of another room is left as it is.
  refine (List.map_congr_left fun seat hseat => ?_).trans (List.map_id' _)
  have hroom : seat.roomId = other := of_decide_eq_true (List.mem_filter.mp hseat).2
  rw [seatAfter, if_neg (hroom ▸ hne)]

/-- The rest of what the details of a room are made of. -/
theorem updateRoomLayout_room {payload : RoomLayoutUpdate}
    (h : updateRoomLayout rt s roomId payload = .ok s') :
    (∃ room, s.room? roomId = some room ∧ s'.room? roomId = some { room with
      allowFullRoomBooking := payload.allowFullRoomBooking.getD room.allowFullRoomBooking }) ∧
    (∀ other, other ≠ roomId → s'.room? other = s.room? other) ∧
    ∀ id, getFeatureMap s' none (some [id]) id = getFeatureMap s none (some [id]) id := by
  obtain ⟨room, hroom, seats, -, rfl⟩ := updateRoomLayout_writes.mp h
  have hrow : s.rooms.get? roomId = some room := hroom
  refine ⟨⟨room, hroom, ?_⟩, fun other hne => ?_, fun id => rfl⟩
  · rw [Store.room?, Table.get?_modify, hrow, Option.map_some, if_pos rfl]
  · rw [Store.room?, Table.get?_modify]
    simp [hne, Store.room?]

/-- **A layout is read back as it was written.**  Where a layout update goes through, in whatever
order its rows are written, the details of the room show afterwards what they showed before with the
payload applied: the same name, features and grid, the flag of the payload if it has one, each seat
with the values of the last entry for it, and a new seat with an id of its own for each entry that
is for none of them, all in the order of their labels.  The details of every other room are as before. -/
theorem layout_read_back (db : ViewDatabase) {payload : RoomLayoutUpdate}
    (h : updateRoomLayout rt s roomId payload = .ok s') :
    ∃ before after added, getRoom db s roomId = .ok before ∧ getRoom db s' roomId = .ok after ∧
      after.name = before.name ∧ after.features = before.features ∧
      after.gridWidth = before.gridWidth ∧ after.gridHeight = before.gridHeight ∧
      after.allowFullRoomBooking =
        payload.allowFullRoomBooking.getD before.allowFullRoomBooking ∧
      after.seats.Perm (before.seats.map (SeatBrief.update payload) ++ added) ∧
      (added.map SeatBrief.values).Perm ((payload.seats.filter fun entry =>
        ∀ seat ∈ before.seats, entry.id ≠ some seat.id).map RoomLayoutSeatInput.values) ∧
      (∀ seat ∈ added, seat.id ∉ s.seats.keys) ∧ (added.map (·.id)).Nodup ∧
      after.seats.Pairwise (fun a b => db.collates a.label b.label) ∧
      ∀ other, other ≠ roomId → getRoom db s' other = getRoom db s other := by
  have hrealised := layoutRealised_of_ok h
  obtain ⟨⟨room, hroom, hroom'⟩, hrooms, hmap⟩ := updateRoomLayout_room h
  obtain ⟨added, hseats, hvalues, hfresh, hdistinct⟩ := hrealised.roomSeats
  have hrows : ∀ rows : List Seat, ((db.seatOrder.arrange rows).map Seat.brief).Perm
      (rows.map Seat.brief) := fun rows => (db.seatOrder.perm rows).map _
  refine ⟨_, _, added.map Seat.brief, getRoom_eq_ok.mpr ⟨room, hroom, rfl⟩,
    getRoom_eq_ok.mpr ⟨_, hroom', rfl⟩, rfl, congrArg sorted (hmap roomId), rfl, rfl, rfl, ?_, ?_,
    ?_, ?_, ?_, ?_⟩
  · -- The old seats, written over, and then the added ones.
    refine (hrows _).trans ?_
    rw [hseats, List.map_append]
    refine List.Perm.append_right _ ?_
    have hafter : ((s.seats.rows.filter (·.roomId = roomId)).map (seatAfter roomId payload)).map
        Seat.brief = ((s.seats.rows.filter (·.roomId = roomId)).map Seat.brief).map
          (SeatBrief.update payload) := by
      rw [List.map_map, List.map_map]
      apply List.map_congr_left
      intro seat hseat
      exact brief_seatAfter (of_decide_eq_true (List.mem_filter.mp hseat).2)
    rw [hafter]
    exact ((hrows _).map _).symm
  · -- Which entries are for none of the old seats can be told from what `get_room` has shown.
    have hentries : newEntries s roomId payload = payload.seats.filter fun entry =>
        ∀ seat ∈ (db.seatOrder.arrange (s.seats.rows.filter (·.roomId = roomId))).map Seat.brief,
          entry.id ≠ some seat.id := by
      apply List.filter_congr
      intro entry _
      simp only [roomSeatIds, Coworking.roomSeats, List.forall_mem_map, db.seatOrder.mem_arrange]
      rfl
    rw [← hentries, List.map_map]
    exact hvalues
  · intro brief hbrief
    obtain ⟨seat, hseat, rfl⟩ := List.mem_map.mp hbrief
    exact hfresh seat hseat
  · rw [List.map_map]
    exact hdistinct
  · exact List.pairwise_map.mpr (db.seatOrder.sorted _)
  · intro other hne
    simp only [getRoom, getSeatsByRoom, hrooms other hne, hrealised.otherSeats hne, hmap]

/-- The small room with a new name for one seat and a third seat. -/
theorem layout_read_back_refit :
    ∃ s' before after added, updateRoomLayout .plain smallStore 2 refit = .ok s' ∧
      getRoom .plain smallStore 2 = .ok before ∧ getRoom .plain s' 2 = .ok after ∧
      after.seats.Perm (before.seats.map (SeatBrief.update refit) ++ added) := by
  have hok : updateRoomLayout .plain smallStore 2 refit = .ok _ := rfl
  obtain ⟨before, after, added, hbefore, hafter, -, -, -, -, -, hseats, -⟩ :=
    layout_read_back .plain hok
  exact ⟨_, before, after, added, hok, hbefore, hafter, hseats⟩

end Coworking
