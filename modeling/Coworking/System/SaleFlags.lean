import Coworking.System.Operation

/-!
# The Flags of Seats and Rooms

`update_room_layout` keeps two flags: whether a seat is active and whether a room may be booked as
a whole.  The services that sell slots read the rows that carry them, and neither flag.

- `Store.setFlags`: the store with other flags;
- `resolveResource_setFlags`, `loadConflicts_setFlags`: what the services read is the same;
- `sale_flags_ignored`: so is what they do and answer;
- `withdrawn_resources_sold`: a seat and a room taken out of sale are sold.
-/

namespace Coworking

open Foundation

variable {rt : Runtime} {c : Call} {s : Store} {active allowFull : Uuid → Bool}

/-! ## §1 Other flags -/

/-- `seat.active = …`. -/
def Seat.setActive (active : Uuid → Bool) (seat : Seat) : Seat :=
  { seat with active := active seat.id }

/-- `room.allow_full_room_booking = …`. -/
def Room.setAllowFull (allowFull : Uuid → Bool) (room : Room) : Room :=
  { room with allowFullRoomBooking := allowFull room.id }

/-- The seat and room tables with other flags. -/
def Store.setFlags (s : Store) (active allowFull : Uuid → Bool) : Store :=
  { s with
    seats := s.seats.mapRows (Seat.setActive active) fun _ => rfl
    rooms := s.rooms.mapRows (Room.setAllowFull allowFull) fun _ => rfl }

theorem seat?_setFlags (id : Uuid) :
    (s.setFlags active allowFull).seat? id = (s.seat? id).map (Seat.setActive active) := by
  show (s.seats.mapRows (Seat.setActive active) fun _ => rfl).get? id = _
  exact Table.get?_mapRows id

theorem room?_setFlags (id : Uuid) :
    (s.setFlags active allowFull).room? id = (s.room? id).map (Room.setAllowFull allowFull) := by
  show (s.rooms.mapRows (Room.setAllowFull allowFull) fun _ => rfl).get? id = _
  exact Table.get?_mapRows id

/-- Looking up a rewritten row and going on with columns that were not rewritten. -/
theorem found_map_bind {α β ε : Type} {o : Option α} {f : α → α} {e : ε} {k : α → Except ε β}
    (hk : ∀ a, k (f a) = k a) : (found (o.map f) e >>= k) = (found o e >>= k) := by
  cases o with
  | none => rfl
  | some a => exact hk a

/-! ## §2 What the services read -/

/-- **Resolution** reads the way up the tree. -/
theorem resolveResource_setFlags (level : BookingLevel) (seatId roomId venueId : Option Uuid) :
    resolveResource (s.setFlags active allowFull) level seatId roomId venueId =
      resolveResource s level seatId roomId venueId := by
  cases level with
  | seat =>
    rcases seatId with _ | seatId
    · rfl
    · rcases roomId with _ | _ <;> rcases venueId with _ | _ <;> try rfl
      -- What follows the lookup reads the seat's room and the room's venue.
      simp only [resolveResource, seat?_setFlags]
      refine (found_map_bind (f := Seat.setActive active) fun seat => rfl).trans
        (bind_congr fun seat => ?_)
      rw [room?_setFlags]
      exact found_map_bind (f := Room.setAllowFull allowFull) fun room => rfl
  | room =>
    rcases roomId with _ | roomId
    · rfl
    · rcases seatId with _ | _ <;> rcases venueId with _ | _ <;> try rfl
      simp only [resolveResource, room?_setFlags]
      exact found_map_bind (f := Room.setAllowFull allowFull) fun room => rfl
  | venue => rfl

/-- **The conflict query** picks seats by their room and rooms by their venue. -/
theorem conflictFilter_setFlags (ctx : ResourceContext) (slot : Slot) :
    conflictFilter (s.setFlags active allowFull) ctx slot = conflictFilter s ctx slot := by
  simp only [conflictFilter, Store.setFlags, Table.mapRows, List.filter_map, List.map_map,
    Function.comp_def]
  rfl

theorem loadConflicts_setFlags (now : Instant) (ctx : ResourceContext) (start stop : Instant) :
    loadConflicts now (s.setFlags active allowFull) ctx start stop =
      loadConflicts now s ctx start stop := by
  simp only [loadConflicts, conflictFilter_setFlags]
  rfl

theorem resolveBookingRule_setFlags (rows : RowChoice) (ctx : ResourceContext) :
    resolveBookingRule rows (s.setFlags active allowFull) ctx = resolveBookingRule rows s ctx := rfl

theorem resolveOperatingHours_setFlags (ctx : ResourceContext) (targetDate : Date) :
    resolveOperatingHours (s.setFlags active allowFull) ctx targetDate =
      resolveOperatingHours s ctx targetDate := rfl

theorem bookingOf?_setFlags (id userId : Uuid) :
    (s.setFlags active allowFull).bookingOf? id userId = s.bookingOf? id userId := rfl

theorem validateBookingWindow_setFlags (ctx : ResourceContext) (start stop : Instant) :
    validateBookingWindow rt c (s.setFlags active allowFull) ctx start stop =
      validateBookingWindow rt c s ctx start stop := rfl

theorem validateHoldId_setFlags (holdId : Option Uuid) (start stop : Instant)
    (ctx : ResourceContext) :
    validateHoldId c (s.setFlags active allowFull) holdId start stop ctx =
      validateHoldId c s holdId start stop ctx := rfl

/-! ## §3 What they do -/

/-- The outcome of a call, its store under other flags. -/
def underFlags {α : Type} (active allowFull : Uuid → Bool)
    (outcome : Except ServiceError (Store × α)) : Except ServiceError (Store × α) :=
  (fun r => (r.1.setFlags active allowFull, r.2)) <$> outcome

theorem createHold_setFlags (payload : HoldCreateRequest) :
    createHold rt c (s.setFlags active allowFull) payload =
      underFlags active allowFull (createHold rt c s payload) := by
  have hcheck : checkHold rt c (s.setFlags active allowFull) payload =
      checkHold rt c s payload := by
    simp only [checkHold, resolveResource_setFlags, resolveBookingRule_setFlags,
      resolveOperatingHours_setFlags, loadConflicts_setFlags]
    rfl
  unfold createHold underFlags
  rw [hcheck]
  cases checkHold rt c s payload <;> rfl

theorem createBooking_setFlags (payload : BookingCreateRequest) :
    createBooking rt c (s.setFlags active allowFull) payload =
      underFlags active allowFull (createBooking rt c s payload) := by
  have hcheck : checkBooking rt c (s.setFlags active allowFull) payload =
      checkBooking rt c s payload := by
    simp only [checkBooking, resolveResource_setFlags, validateBookingWindow_setFlags,
      validateHoldId_setFlags, loadConflicts_setFlags]
  unfold createBooking underFlags
  rw [hcheck]
  cases checkBooking rt c s payload <;> rfl

theorem rescheduleBooking_setFlags (bookingId : Uuid) (payload : BookingWindowUpdateRequest) :
    rescheduleBooking rt c (s.setFlags active allowFull) bookingId payload =
      (·.setFlags active allowFull) <$> rescheduleBooking rt c s bookingId payload := by
  have hcheck : checkReschedule rt c (s.setFlags active allowFull) bookingId payload =
      checkReschedule rt c s bookingId payload := by
    simp only [checkReschedule, bookingOf?_setFlags, resolveResource_setFlags,
      validateBookingWindow_setFlags, loadConflicts_setFlags]
  unfold rescheduleBooking
  rw [hcheck]
  cases checkReschedule rt c s bookingId payload <;> rfl

theorem repeatBooking_setFlags (bookingId : Uuid) (payload : BookingWindowUpdateRequest) :
    repeatBooking rt c (s.setFlags active allowFull) bookingId payload =
      underFlags active allowFull (repeatBooking rt c s bookingId payload) := by
  unfold repeatBooking
  rw [bookingOf?_setFlags]
  cases s.bookingOf? bookingId c.user with
  | none => rfl
  | some source => exact createBooking_setFlags _

theorem getAvailability_setFlags (level : BookingLevel) (seatId roomId venueId : Option Uuid)
    (targetDate : Date) (durationMinutes : Int) :
    getAvailability rt c (s.setFlags active allowFull) level seatId roomId venueId targetDate
        durationMinutes =
      getAvailability rt c s level seatId roomId venueId targetDate durationMinutes := by
  simp only [getAvailability, resolveResource_setFlags, resolveBookingRule_setFlags,
    resolveOperatingHours_setFlags, loadConflicts_setFlags]
  rfl

/-- **The flags take nothing out of sale.**  Whatever the seats' `active` and the rooms'
`allow_full_room_booking` are set to: each of the four calls that sell slots ends in the same error
or writes the same row, and the grid of a day is the same. -/
theorem sale_flags_ignored (rt : Runtime) (c : Call) (s : Store) (active allowFull : Uuid → Bool) :
    (∀ payload, createHold rt c (s.setFlags active allowFull) payload =
      underFlags active allowFull (createHold rt c s payload)) ∧
    (∀ payload, createBooking rt c (s.setFlags active allowFull) payload =
      underFlags active allowFull (createBooking rt c s payload)) ∧
    (∀ bookingId payload, rescheduleBooking rt c (s.setFlags active allowFull) bookingId payload =
      (·.setFlags active allowFull) <$> rescheduleBooking rt c s bookingId payload) ∧
    (∀ bookingId payload, repeatBooking rt c (s.setFlags active allowFull) bookingId payload =
      underFlags active allowFull (repeatBooking rt c s bookingId payload)) ∧
    ∀ level seatId roomId venueId targetDate durationMinutes,
      getAvailability rt c (s.setFlags active allowFull) level seatId roomId venueId targetDate
          durationMinutes =
        getAvailability rt c s level seatId roomId venueId targetDate durationMinutes :=
  ⟨createHold_setFlags, createBooking_setFlags, rescheduleBooking_setFlags, repeatBooking_setFlags,
    getAvailability_setFlags⟩

/-- Seat `A1` is made inactive, and its room no longer allows to be booked as a whole. -/
def withdrawal : Event :=
  ⟨.plain 1 0, .updateRoomLayout 2 ⟨some false, [⟨some 3, "A1", 0, 0, none, none, false⟩]⟩⟩

/-- The room of the seat, from ten to eleven. -/
def wholeRoom : BookingCreateRequest :=
  ⟨.room, none, some 2, none, none, .ofInstant (minutes 600), .ofInstant (minutes 660)⟩

/-- After that user 7 can hold the seat and can book the room, and the seat is listed as
available. -/
theorem withdrawn_resources_sold :
    Run (SerialStep .plain) ⟨0, smallStore⟩ [withdrawal]
        ⟨0, replay .plain smallStore [withdrawal]⟩ ∧
      ((replay .plain smallStore [withdrawal]).seat? 3).map (·.active) = some false ∧
      ((replay .plain smallStore [withdrawal]).room? 2).map (·.allowFullRoomBooking) = some false ∧
      Returns (createHold .plain (.plain 7 1) (replay .plain smallStore [withdrawal]) smallHold) ∧
      Returns (createBooking .plain (.plain 7 1) (replay .plain smallStore [withdrawal])
        wholeRoom) ∧
      ∃ resp slot, getAvailability .plain (.plain 7 1) (replay .plain smallStore [withdrawal]) .seat
        (some 3) none none 0 60 = .ok resp ∧ slot ∈ resp.timeSlots ∧ slot.available :=
  ⟨(by decide : InOrder 0 [withdrawal]).run smallStore, by decide, by decide, by decide, by decide,
    _, ⟨minutes 600, minutes 660, true, some 3⟩, rfl, mem_slotLoop.mpr ⟨10, by decide, by decide⟩,
    rfl⟩

end Coworking
