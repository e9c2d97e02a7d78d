import Coworking.System.HoldLifeCycle

/-!
# Stored Resources

A resource is stored in three nullable columns: `create_hold` and `create_booking` write them from
the resolved context, `_resource_kwargs_for_level` and `repeat_booking` read them back to resolve
the row again.

- `repeatKwargs_eq`: the two readers ask with the same ids;
- `Slot.Decodes.roundTrips`: a row that decodes to itself lies in the space tree, and both
  readers get back its own resource;
- `stored_resources_round_trip`: so it is for every row, in every state a serial run reaches.
-/

namespace Coworking

open Foundation

/-! ## §1 Reading a row back -/

/-- The seat, room and venue ids in the request that `repeat_booking` builds from a row. -/
def repeatKwargs (slot : Slot) : Option Uuid × Option Uuid × Option Uuid :=
  (if slot.level = .seat then slot.seatId else none,
    if slot.level = .room then slot.roomId else none,
    if slot.level = .venue then slot.venueId else none)

/-- The request that `repeat_booking` builds. -/
def Booking.repeatRequest (source : Booking) (window : BookingWindowUpdateRequest) :
    BookingCreateRequest :=
  let kwargs := repeatKwargs source.toSlot
  { level := source.level
    seatId := kwargs.1
    roomId := kwargs.2.1
    venueId := kwargs.2.2
    holdId := none
    startTime := window.startTime
    endTime := window.endTime }

theorem repeatKwargs_eq (slot : Slot) : repeatKwargs slot = resourceKwargsForLevel slot := by
  cases hlevel : slot.level <;> simp [repeatKwargs, resourceKwargsForLevel, hlevel]

/-- The owner who repeats a booking creates one with that request. -/
theorem repeatBooking_eq {rt : Runtime} {c : Call} {s : Store} {b : Booking}
    {window : BookingWindowUpdateRequest} (howned : s.bookingOf? b.id c.user = some b) :
    repeatBooking rt c s b.id window = createBooking rt c s (b.repeatRequest window) := by
  simp only [repeatBooking, howned]
  rfl

/-! ## §2 Rows in the space tree -/

/-- The columns a row of each level has set, and where in the tree they lie. -/
def Slot.InTree (s : Store) (slot : Slot) : Prop :=
  match slot.level with
  | .seat => ∃ seatId roomId venueId, slot.seatId = some seatId ∧ slot.roomId = some roomId ∧
      slot.venueId = some venueId ∧ s.Parent (.seat seatId) (.room roomId) ∧
      s.Parent (.room roomId) (.venue venueId)
  | .room => ∃ roomId venueId, slot.seatId = none ∧ slot.roomId = some roomId ∧
      slot.venueId = some venueId ∧ s.Parent (.room roomId) (.venue venueId)
  | .venue => slot.seatId = none ∧ slot.roomId = none ∧ slot.venueId.isSome

/-- The context is for exactly the level, venue, room and seat of the row. -/
structure ResourceContext.Of (ctx : ResourceContext) (slot : Slot) : Prop where
  level : ctx.level = slot.level
  venueId : some ctx.venueId = slot.venueId
  roomId : ctx.roomId = slot.roomId
  seatId : ctx.seatId = slot.seatId

/-- Resolving by these ids gives back the row's own resource. -/
def Slot.ReadBy (s : Store) (slot : Slot) (kwargs : Option Uuid × Option Uuid × Option Uuid) :
    Prop :=
  ∃ ctx, resolveResource s slot.level kwargs.1 kwargs.2.1 kwargs.2.2 = .ok ctx ∧ ctx.Of slot

/-- A row that lies in the tree and that both readers resolve to its own resource. -/
structure Slot.RoundTrips (s : Store) (slot : Slot) : Prop where
  inTree : slot.InTree s
  decoded : slot.ReadBy s (resourceKwargsForLevel slot)
  repeated : slot.ReadBy s (repeatKwargs slot)

variable {rt : Runtime} {s : Store} {level : BookingLevel} {seatId roomId venueId : Option Uuid}
  {ctx : ResourceContext}

theorem ResourceContext.of_slot (ctx : ResourceContext) (userId : Uuid) (start stop : Instant) :
    ctx.Of (ctx.slot userId start stop) where
  level := rfl
  venueId := rfl
  roomId := rfl
  seatId := rfl

/-- A row written for a resolved resource lies where the resolution went. -/
theorem Resolves.slot_inTree (h : Resolves s level seatId roomId venueId ctx) (userId : Uuid)
    (start stop : Instant) : (ctx.slot userId start stop).InTree s := by
  cases h with
  | @seat id seat room venue hseat hroom hvenue =>
    have hseatRoom : s.Parent (.seat seat.id) (.room room.id) := by
      rw [Store.room?_id hroom]
      exact .seat (Store.seat?_id hseat ▸ hseat)
    have hroomVenue : s.Parent (.room room.id) (.venue venue.id) := by
      rw [Store.venue?_id hvenue]
      exact .room (Store.room?_id hroom ▸ hroom)
    exact ⟨seat.id, room.id, venue.id, rfl, rfl, rfl, hseatRoom, hroomVenue⟩
  | @room id room venue hroom hvenue =>
    have hroomVenue : s.Parent (.room room.id) (.venue venue.id) := by
      rw [Store.venue?_id hvenue]
      exact .room (Store.room?_id hroom ▸ hroom)
    exact ⟨room.id, venue.id, rfl, rfl, rfl, hroomVenue⟩
  | venue => exact ⟨rfl, rfl, rfl⟩

/-- **One row.** -/
theorem Slot.Decodes.roundTrips {slot : Slot} (h : slot.Decodes s) : slot.RoundTrips s := by
  obtain ⟨ctx, hres, hslot⟩ := h
  have hof : ctx.Of slot := by
    rw [hslot]
    exact ctx.of_slot _ _ _
  have hread : slot.ReadBy s (resourceKwargsForLevel slot) :=
    ⟨ctx, resolveResource_eq_ok.mpr hres, hof⟩
  refine ⟨?_, hread, (repeatKwargs_eq slot).symm ▸ hread⟩
  rw [hslot]
  exact hres.slot_inTree _ _ _

/-! ## §3 Every row of a reached state -/

/-- A booking that its owner repeats is booked again for its own resource. -/
structure Booking.RoundTrips (rt : Runtime) (s : Store) (b : Booking) : Prop where
  slot : b.toSlot.RoundTrips s
  request : ∀ (c : Call) (window : BookingWindowUpdateRequest), c.user = b.userId →
    repeatBooking rt c s b.id window = createBooking rt c s (b.repeatRequest window)

/-- **Stored resources decode to themselves.**  In every state that a serial run reaches from a
store without holds and bookings, every booking and every hold has set exactly the columns of its
level, along the tree as it then is; `_resource_kwargs_for_level` and `repeat_booking` resolve it
to its own level, venue, room and seat. -/
theorem stored_resources_round_trip {x y : State} {es : List Event} (hempty : Unreserved x.store)
    (hrun : Run (SerialStep rt) x es y) :
    (∀ b ∈ y.store.bookings, b.RoundTrips rt y.store) ∧
      ∀ h ∈ y.store.holds, h.toSlot.RoundTrips y.store := by
  have hsound : Sound y.store := hempty.sound.run hrun
  constructor
  · intro b hmem
    refine ⟨(hsound.bookings b hmem).roundTrips, fun c window huser => repeatBooking_eq ?_⟩
    exact Store.bookingOf?_eq_some.mpr ⟨Table.get?_of_mem hmem, huser.symm⟩
  · intro h hmem
    exact (hsound.holds h hmem).roundTrips

/-- User 7 holds seat `A1` and books it. -/
theorem stored_resources_round_trip_smallRun :
    (∀ b ∈ (replay .plain smallStore smallEvents).bookings,
      b.RoundTrips .plain (replay .plain smallStore smallEvents)) ∧
    ∀ h ∈ (replay .plain smallStore smallEvents).holds,
      h.toSlot.RoundTrips (replay .plain smallStore smallEvents) :=
  stored_resources_round_trip smallStore_unreserved smallRun

end Coworking
