import Coworking.Services.Space

/-!
# Views of the Space

The readers of `space.py` next to `get_venue` and `list_venues`, and the cards of `favorite.py`,
which are built by a query of their own.  The grid of a room and the icons of features are not
modelled: nothing computes with them.

- `getRoomsByVenue`, `getSeatsByRoom`, `getRoom`: a venue's rooms and a room's seats;
- `buildVenueListItems`: the cards of `favorite.py`;
- `getFeatureMap_room`, `getFeatureMap_venue`: one entry of a feature map, whatever else is in it.
-/

namespace Coworking

open Foundation

/-- A database with the order that only the views ask for. -/
structure ViewDatabase extends Database where
  /-- `ORDER BY seats.label`. -/
  seatOrder : RowOrder Seat fun a b => collates a.label b.label

/-- A database that lists seats as it lists rooms. -/
noncomputable def ViewDatabase.plain : ViewDatabase where
  toDatabase := .plain
  seatOrder := .by (fun a b : Seat => a.label ≤ b.label) (fun _ _ _ hab hbc => hab.trans hbc)
    fun _ _ => le_total _ _

/-! ## §1 Readers -/

/-- `get_rooms_by_venue`. -/
def getRoomsByVenue (db : Database) (s : Store) (venueId : Uuid) :
    Except ServiceError (List RoomBrief) := do
  let _venue ← found (s.venue? venueId) (.spaceNotFound "Venue not found.")
  let rooms := db.roomOrder.arrange (s.rooms.rows.filter (·.venueId = venueId))
  let roomFeatureMap := getFeatureMap s none (some (rooms.map (·.id)))
  pure (rooms.map fun room =>
    ⟨room.id, room.name, room.allowFullRoomBooking, sorted (roomFeatureMap room.id)⟩)

structure SeatBrief where
  id : Uuid
  label : String
  gridX : Int
  gridY : Int
  seatType : Option String
  attributes : Option String
  active : Bool
  deriving DecidableEq

/-- `SeatBrief` of a row. -/
def Seat.brief (seat : Seat) : SeatBrief :=
  ⟨seat.id, seat.label, seat.gridX, seat.gridY, seat.seatType, seat.attributes, seat.active⟩

/-- `get_seats_by_room`. -/
def getSeatsByRoom (db : ViewDatabase) (s : Store) (roomId : Uuid) :
    Except ServiceError (List SeatBrief) := do
  let _room ← found (s.room? roomId) (.spaceNotFound "Room not found.")
  pure ((db.seatOrder.arrange (s.seats.rows.filter (·.roomId = roomId))).map Seat.brief)

structure RoomFull where
  id : Uuid
  name : String
  allowFullRoomBooking : Bool
  features : List String
  gridWidth : Option Int
  gridHeight : Option Int
  seats : List SeatBrief
  deriving DecidableEq

/-- `get_room`. -/
def getRoom (db : ViewDatabase) (s : Store) (roomId : Uuid) : Except ServiceError RoomFull := do
  let room ← found (s.room? roomId) (.spaceNotFound "Room not found.")
  let seats ← getSeatsByRoom db s roomId
  let roomFeatureMap := getFeatureMap s none (some [room.id])
  pure ⟨room.id, room.name, room.allowFullRoomBooking, sorted (roomFeatureMap room.id),
    room.gridWidth, room.gridHeight, seats⟩

/-- The `feature_map` of `_build_venue_list_items`, which is keyed by the venue alone: what
`.get(str(id), [])` reads off it. -/
def venueFeatureMap (s : Store) (venueIds : List Uuid) (id : Uuid) : List String :=
  ((featureRows s (some venueIds) none).filter fun row => row.1.venueId = some id).map
    fun row => row.2.name

/-- `_build_venue_list_items`. -/
def buildVenueListItems (s : Store) (venues : List Venue) : List VenueListItem :=
  let featureMap := venueFeatureMap s (venues.map (·.id))
  venues.map fun venue =>
    ⟨venue.id, venue.name, venue.address, sorted (featureMap venue.id), seatCount s venue.id⟩

/-! ## §2 Specifications -/

variable {db : ViewDatabase} {s : Store} {roomId venueId : Uuid}

/-- The list of rooms is the one that the details of the venue have. -/
theorem getRoomsByVenue_eq (db : Database) (s : Store) (venueId : Uuid) :
    getRoomsByVenue db s venueId = VenueFull.rooms <$> getVenue db s venueId := by
  unfold getRoomsByVenue getVenue
  cases s.venue? venueId with
  | none => rfl
  | some venue => rfl

theorem getSeatsByRoom_eq_ok {seats : List SeatBrief} :
    getSeatsByRoom db s roomId = .ok seats ↔ (∃ room, s.room? roomId = some room) ∧
      (db.seatOrder.arrange (s.seats.rows.filter (·.roomId = roomId))).map Seat.brief = seats := by
  simp only [getSeatsByRoom, bind_eq_ok, found_eq_ok, pure_eq_ok, exists_and_right]

theorem getRoom_eq_ok {full : RoomFull} :
    getRoom db s roomId = .ok full ↔ ∃ room, s.room? roomId = some room ∧ full =
      { id := roomId
        name := room.name
        allowFullRoomBooking := room.allowFullRoomBooking
        features := sorted (getFeatureMap s none (some [roomId]) roomId)
        gridWidth := room.gridWidth
        gridHeight := room.gridHeight
        seats :=
          (db.seatOrder.arrange (s.seats.rows.filter (·.roomId = roomId))).map Seat.brief } := by
  simp only [getRoom, bind_eq_ok, found_eq_ok, getSeatsByRoom_eq_ok, pure_eq_ok]
  constructor
  · rintro ⟨room, hroom, _, ⟨-, rfl⟩, rfl⟩
    rw [Store.room?_id hroom]
    exact ⟨room, hroom, rfl⟩
  · rintro ⟨room, hroom, rfl⟩
    refine ⟨room, hroom, _, ⟨⟨room, hroom⟩, rfl⟩, ?_⟩
    rw [Store.room?_id hroom]

/-! ### Feature maps -/

/-- The names under one key of a feature map, link by link. -/
theorem getFeatureMap_eq (s : Store) (venueIds roomIds : Option (List Uuid)) (id : Uuid) :
    getFeatureMap s venueIds roomIds id =
      (s.featureLinks.rows.filter fun link =>
        (venueIds.all (sqlIn link.venueId) && roomIds.all (sqlIn link.roomId)) &&
          (link.roomId <|> link.venueId) = some id).filterMap fun link =>
        (s.features.get? link.featureId).map (·.name) := by
  unfold getFeatureMap featureRows
  rw [List.filter_filterMap, List.map_filterMap, List.filterMap_filter, List.filterMap_filter]
  apply List.filterMap_congr
  intro link _
  cases s.features.get? link.featureId with
  | none => simp
  | some feature =>
    simp only [Option.map_some, Option.filter_some]
    generalize (link.roomId <|> link.venueId) = key
    by_cases hkey : key = some id
    · simp [hkey]
    · simp [hkey]

/-- What a map of several rooms has for one of them is what its own map has. -/
theorem getFeatureMap_room {roomIds : List Uuid} (hroom : roomId ∈ roomIds) :
    getFeatureMap s none (some roomIds) roomId = getFeatureMap s none (some [roomId]) roomId := by
  rw [getFeatureMap_eq, getFeatureMap_eq]
  congr 1
  apply List.filter_congr
  intro link _
  cases hlink : link.roomId with
  | none => simp [sqlIn]
  | some id =>
    by_cases hid : id = roomId
    · simp [sqlIn, hid, hroom]
    · simp [hid]

/-- No feature is linked to a room that has the id of a venue. -/
def RoomsApart (s : Store) : Prop :=
  ∀ link ∈ s.featureLinks, ∀ id, link.roomId = some id → id ∉ s.venues.keys

/-- Then a map of several venues has for one of them the features that are linked to the venue and
to no room. -/
theorem getFeatureMap_venue (hapart : RoomsApart s) (hstored : venueId ∈ s.venues.keys)
    {venueIds : List Uuid} (hvenue : venueId ∈ venueIds) :
    getFeatureMap s (some venueIds) none venueId =
      (s.featureLinks.rows.filter fun link =>
        link.venueId = some venueId ∧ link.roomId = none).filterMap fun link =>
        (s.features.get? link.featureId).map (·.name) := by
  rw [getFeatureMap_eq]
  congr 1
  apply List.filter_congr
  intro link hlink
  cases hroom : link.roomId with
  | some id =>
    have hne : id ≠ venueId := fun he => hapart link hlink id hroom (he ▸ hstored)
    simp [hne]
  | none =>
    cases hid : link.venueId with
    | none => simp
    | some id =>
      by_cases he : id = venueId
      · simp [sqlIn, he, hvenue]
      · simp [he]

/-- The map of `favorite.py` has all features that are linked to the venue. -/
theorem venueFeatureMap_eq {venueIds : List Uuid} (hvenue : venueId ∈ venueIds) :
    venueFeatureMap s venueIds venueId = linkedNames s venueId := by
  unfold venueFeatureMap featureRows linkedNames
  rw [List.filter_filterMap, List.map_filterMap, List.filterMap_filter]
  apply List.filterMap_congr
  intro link _
  by_cases hid : link.venueId = some venueId
  · cases s.features.get? link.featureId <;> simp [hid, sqlIn, hvenue]
  · cases s.features.get? link.featureId <;> simp [hid]

end Coworking
