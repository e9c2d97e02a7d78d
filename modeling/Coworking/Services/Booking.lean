import Coworking.Services.Hold
import Coworking.Services.Notification

/-!
# Bookings

Like holds, `create_booking`, `reschedule_booking` and `cancel_booking` are split where
they stop reading: a `check…` function returns what is about to be written and a
`commit…` function writes it.

An `UPDATE` carries the columns whose value differs from the loaded row, which is what a
`BookingPatch` records; applied to the row it was computed from, it sets every column.

## Specifications

- `validateBookingWindow_eq_ok`: the window checks of a booking are those of a hold;
- `checkBooking_eq_ok`, `checkReschedule_eq_ok`, `checkCancel_eq_ok`: acceptance.
-/

namespace Coworking

open Foundation

/-! ## §1 Column writes -/

/-- The value to write for a column, when it differs from the loaded one. -/
def dirty {α : Type} [DecidableEq α] (loaded new : α) : Option α :=
  if loaded = new then none else some new

@[simp] theorem dirty_getD {α : Type} [DecidableEq α] (loaded new : α) :
    (dirty loaded new).getD loaded = new := by
  by_cases h : loaded = new <;> simp [dirty, h]

/-- Over a later row, the write takes effect unless it was left out and the column has changed. -/
theorem dirty_getD_of {α : Type} [DecidableEq α] {loaded new current : α}
    (h : new = loaded → current = loaded) : (dirty loaded new).getD current = new := by
  by_cases hne : loaded = new
  · rw [dirty, if_pos hne, Option.getD_none, h hne.symm, hne]
  · rw [dirty, if_neg hne, Option.getD_some]

theorem dirty_eq_some {α : Type} [DecidableEq α] {loaded new x : α} :
    dirty loaded new = some x ↔ loaded ≠ new ∧ new = x := by
  by_cases h : loaded = new <;> simp [dirty, h]

/-- The `SET` clause of an `UPDATE bookings`. -/
structure BookingPatch where
  startTime : Option Instant := none
  endTime : Option Instant := none
  status : Option BookingStatus := none
  cancelledAt : Option Instant := none
  deriving DecidableEq

/-- The row after the `UPDATE`. -/
def BookingPatch.apply (p : BookingPatch) (b : Booking) : Booking :=
  { b with
    startTime := p.startTime.getD b.startTime
    endTime := p.endTime.getD b.endTime
    status := p.status.getD b.status
    cancelledAt := p.cancelledAt <|> b.cancelledAt }

theorem BookingPatch.apply_key (p : BookingPatch) (b : Booking) :
    Keyed.key (p.apply b) = Keyed.key b := rfl

@[simp] theorem BookingPatch.apply_status (p : BookingPatch) (b : Booking) :
    (p.apply b).status = p.status.getD b.status := rfl

@[simp] theorem BookingPatch.apply_endTime (p : BookingPatch) (b : Booking) :
    (p.apply b).endTime = p.endTime.getD b.endTime := rfl

/-- A patch without a window leaves the claim of the row alone. -/
theorem BookingPatch.apply_toSlot {p : BookingPatch} (hstart : p.startTime = none)
    (hstop : p.endTime = none) (b : Booking) : (p.apply b).toSlot = b.toSlot := by
  simp [BookingPatch.apply, hstart, hstop]

/-- A write to one booking and the notification that goes with it. -/
structure BookingUpdate where
  bookingId : Uuid
  userId : Uuid
  patch : BookingPatch
  templateCode : String
  deriving DecidableEq

/-- `UPDATE bookings SET … WHERE id`. -/
def Store.updateBooking (s : Store) (id : Uuid) (patch : BookingPatch) : Store :=
  { s with bookings := s.bookings.modify id patch.apply patch.apply_key }

/-- The flush and commit of `reschedule_booking` and `cancel_booking`. -/
def commitBookingUpdate (now : Instant) (s : Store) (u : BookingUpdate) : Store :=
  createNotificationRecord now (s.updateBooking u.bookingId u.patch) u.userId u.templateCode
    [("bookingId", .id u.bookingId)]

/-! ## §2 Validation -/

/-- `_resource_kwargs_for_level`: the seat, room and venue ids a row is resolved by. -/
def resourceKwargsForLevel (slot : Slot) : Option Uuid × Option Uuid × Option Uuid :=
  match slot.level with
  | .seat => (slot.seatId, none, none)
  | .room => (none, slot.roomId, none)
  | .venue => (none, none, slot.venueId)

/-- Does a rule ask for payment? -/
def requiresPayment : Option BookingRule → Bool
  | some rule => rule.requiresPayment
  | none => false

/-- `_validate_booking_window`. -/
def validateBookingWindow (rt : Runtime) (c : Call) (s : Store) (ctx : ResourceContext)
    (startTime endTime : Instant) : Except ServiceError (Int × Int × Bool) := do
  let now := c.now 0
  raiseIf (endTime ≤ startTime)
    (.availabilityValidation "endTime must be greater than startTime.")
  raiseIf (startTime ≤ now) (.availabilityValidation "startTime must be in the future.")
  let durationMinutes := wholeMinutes (endTime - startTime)
  let bookingRule := resolveBookingRule c.rows s ctx
  raiseIf (∃ rule ∈ bookingRule, durationMinutes < rule.minDurationMinutes)
    (.availabilityValidation "Requested interval is below the minimum allowed duration.")
  raiseIf (∃ rule ∈ bookingRule, rule.maxDurationMinutes < durationMinutes)
    (.availabilityValidation "Requested interval exceeds the maximum allowed duration.")
  raiseIf (∃ rule ∈ bookingRule, now + days rule.maxAdvanceDays < startTime)
    (.availabilityValidation "Requested interval exceeds the maximum advance booking window.")
  let resourceTz ← found (rt.zoneInfo ctx.timezone) (.zoneInfo ctx.timezone)
  let localStart := resourceTz.toWall startTime
  let localEnd := resourceTz.toWall endTime
  raiseIf (localStart.date ≠ localEnd.date)
    (.availabilityValidation "Requested interval must fit within a single local day.")
  let operatingHours ← found (resolveOperatingHours s ctx localStart.date)
    (.availabilityValidation "Resource is closed for the selected date.")
  let openAt := combine localStart.date operatingHours.1
  let closeAt := combine localStart.date operatingHours.2
  raiseIf (localStart < openAt ∨ closeAt < localEnd)
    (.availabilityValidation "Requested interval is outside operating hours.")
  pure (durationMinutes, 0, requiresPayment bookingRule)

/-- `_validate_hold`. -/
def validateHold (c : Call) (s : Store) (holdId : Uuid) (startTime endTime : Instant)
    (ctx : ResourceContext) : Except ServiceError Hold := do
  let hold ← found (s.holdOf? holdId c.user)
    (.availabilityValidation "Valid holdId is required.")
  let now := c.now 1
  raiseIf (hold.status ≠ .pending ∨ hold.expiresAt ≤ now)
    (.availabilityValidation "Hold is no longer active.")
  raiseIf (hold.level ≠ ctx.level)
    (.availabilityValidation "Hold level does not match the requested booking level.")
  raiseIf (hold.venueId ≠ some ctx.venueId ∨ hold.roomId ≠ ctx.roomId ∨ hold.seatId ≠ ctx.seatId ∨
      hold.startTime ≠ startTime ∨ hold.endTime ≠ endTime)
    (.availabilityValidation "Hold does not match the requested booking interval.")
  pure hold

/-- The `if payload.holdId is not None` of `create_booking`. -/
def validateHoldId (c : Call) (s : Store) (holdId : Option Uuid) (startTime endTime : Instant)
    (ctx : ResourceContext) : Except ServiceError (Option Hold) :=
  match holdId with
  | some holdId => do
    let hold ← validateHold c s holdId startTime endTime ctx
    pure (some hold)
  | none => pure none

/-! ## §3 Creating a booking -/

/-- A booking before its insert draws an id. -/
structure BookingDraft where
  slot : Slot
  holdId : Option Uuid
  status : BookingStatus
  priceAmountCents : Int
  priceCurrency : String
  deriving DecidableEq

/-- The status a booking takes under a rule. -/
def initialStatus (needsPayment : Bool) : BookingStatus :=
  if needsPayment then .pending else .confirmed

/-- `create_booking` up to `session.add`. -/
def checkBooking (rt : Runtime) (c : Call) (s : Store) (payload : BookingCreateRequest) :
    Except ServiceError BookingDraft := do
  let startTime ← ensureUtc payload.startTime "startTime"
  let endTime ← ensureUtc payload.endTime "endTime"
  let ctx ← resolveResource s payload.level payload.seatId payload.roomId payload.venueId
  let window ← validateBookingWindow rt c s ctx startTime endTime
  let hold ← validateHoldId c s payload.holdId startTime endTime ctx
  let conflicts := loadConflicts (c.now 2) s ctx startTime endTime
  -- The hold that the booking redeems is the only record that may overlap it.
  raiseIf (∃ b ∈ conflicts.1, overlaps startTime endTime b.startTime b.endTime)
    (.bookingConflict "Requested slot is not available.")
  let blockingHolds := conflicts.2.filter fun item => some item.id ≠ hold.map (·.id)
  raiseIf (∃ h ∈ blockingHolds, overlaps startTime endTime h.startTime h.endTime)
    (.bookingConflict "Requested slot is already on hold.")
  pure
    { slot := ctx.slot c.user startTime endTime
      holdId := hold.map (·.id)
      status := initialStatus window.2.2
      priceAmountCents := window.2.1
      priceCurrency := "RUB" }

/-- The row a booking insert writes. -/
def BookingDraft.row (d : BookingDraft) (id : Uuid) : Booking :=
  { d.slot with
    id
    holdId := d.holdId
    status := d.status
    priceAmountCents := d.priceAmountCents
    priceCurrency := d.priceCurrency
    cancelledAt := none }

theorem BookingDraft.row_fresh (d : BookingDraft) (rt : Runtime) (t : Table Booking) :
    Keyed.key (d.row (rt.fresh t)) ∉ t.keys := rt.fresh_notMem t

/-- The wire name of a level. -/
def BookingLevel.value : BookingLevel → String
  | .seat => "seat"
  | .room => "room"
  | .venue => "venue"

/-- `hold.status = HoldStatus.CONVERTED`, when the booking came with a hold. -/
def convertHold (holds : Table Hold) : Option Uuid → Table Hold
  | some holdId => holds.modify holdId (Hold.setStatus .converted) (Hold.setStatus_key .converted)
  | none => holds

/-- `create_booking` from `session.add` on. -/
def commitBooking (rt : Runtime) (now : Instant) (s : Store) (d : BookingDraft) :
    Store × Booking :=
  let booking := d.row (rt.fresh s.bookings)
  (createNotificationRecord now
    { s with
      bookings := s.bookings.insert booking (d.row_fresh rt s.bookings)
      holds := convertHold s.holds d.holdId }
    d.slot.userId "booking_created"
    [("bookingId", .id booking.id), ("level", .text booking.level.value)], booking)

@[simp] theorem commitBooking_bookings (rt : Runtime) (now : Instant) (s : Store)
    (d : BookingDraft) : (commitBooking rt now s d).1.bookings =
      s.bookings.insert (d.row (rt.fresh s.bookings)) (d.row_fresh rt s.bookings) := rfl

/-- `create_booking`. -/
def createBooking (rt : Runtime) (c : Call) (s : Store) (payload : BookingCreateRequest) :
    Except ServiceError (Store × Booking) := do
  let draft ← checkBooking rt c s payload
  pure (commitBooking rt (c.now 3) s draft)

/-! ## §4 Moving, repeating and cancelling a booking -/

/-- `reschedule_booking` up to its writes. -/
def checkReschedule (rt : Runtime) (c : Call) (s : Store) (bookingId : Uuid)
    (payload : BookingWindowUpdateRequest) : Except ServiceError BookingUpdate := do
  let booking ← found (s.bookingOf? bookingId c.user) (.bookingNotFound "Booking not found.")
  raiseIf (booking.status ≠ .pending ∧ booking.status ≠ .confirmed)
    (.availabilityValidation "Booking cannot be rescheduled in its current state.")
  let startTime ← ensureUtc payload.startTime "startTime"
  let endTime ← ensureUtc payload.endTime "endTime"
  let kwargs := resourceKwargsForLevel booking.toSlot
  let ctx ← resolveResource s booking.level kwargs.1 kwargs.2.1 kwargs.2.2
  let window ← validateBookingWindow rt c s ctx startTime endTime
  -- The booking does not stand in its own way.
  let conflicts := loadConflicts (c.now 2) s ctx startTime endTime
  let blockingBookings := conflicts.1.filter fun item => item.id ≠ booking.id
  raiseIf (∃ b ∈ blockingBookings, overlaps startTime endTime b.startTime b.endTime)
    (.bookingConflict "Requested slot is not available.")
  raiseIf (∃ h ∈ conflicts.2, overlaps startTime endTime h.startTime h.endTime)
    (.bookingConflict "Requested slot is already on hold.")
  -- The status starts over: a confirmed booking is pending again if the rule asks for payment.
  pure
    { bookingId
      userId := c.user
      patch :=
        { startTime := dirty booking.startTime startTime
          endTime := dirty booking.endTime endTime
          status := dirty booking.status (initialStatus window.2.2) }
      templateCode := "booking_rescheduled" }

/-- `reschedule_booking`. -/
def rescheduleBooking (rt : Runtime) (c : Call) (s : Store) (bookingId : Uuid)
    (payload : BookingWindowUpdateRequest) : Except ServiceError Store := do
  let update ← checkReschedule rt c s bookingId payload
  pure (commitBookingUpdate (c.now 3) s update)

/-- `repeat_booking`. -/
def repeatBooking (rt : Runtime) (c : Call) (s : Store) (bookingId : Uuid)
    (payload : BookingWindowUpdateRequest) : Except ServiceError (Store × Booking) := do
  let source ← found (s.bookingOf? bookingId c.user) (.bookingNotFound "Booking not found.")
  -- The row carries the room and venue of a seat too; a request may name only the seat.
  createBooking rt c s
    { level := source.level
      seatId := if source.level = .seat then source.seatId else none
      roomId := if source.level = .room then source.roomId else none
      venueId := if source.level = .venue then source.venueId else none
      holdId := none
      startTime := payload.startTime
      endTime := payload.endTime }

/-- `cancel_booking` up to its writes; a booking that is already cancelled gets none. -/
def checkCancel (c : Call) (s : Store) (bookingId : Uuid) :
    Except ServiceError (Option BookingUpdate) := do
  let booking ← found (s.bookingOf? bookingId c.user) (.bookingNotFound "Booking not found.")
  if booking.status = .cancelled then pure none
  else pure (some
    { bookingId
      userId := c.user
      patch := { status := dirty booking.status .cancelled, cancelledAt := some (c.now 0) }
      templateCode := "booking_cancelled" })

/-- `cancel_booking`. -/
def cancelBooking (c : Call) (s : Store) (bookingId : Uuid) : Except ServiceError Store := do
  match ← checkCancel c s bookingId with
  | some update => pure (commitBookingUpdate (c.now 1) s update)
  | none => pure s

/-! ## §5 Specifications -/

variable {rt : Runtime} {c : Call} {s : Store}

/-- The window checks of a booking are those of a hold. -/
theorem validateBookingWindow_eq_ok {ctx : ResourceContext} {start stop : Instant}
    {r : Int × Int × Bool} :
    validateBookingWindow rt c s ctx start stop = .ok r ↔
      Admissible rt c.rows s ctx (c.now 0) start stop ∧
      r = (wholeMinutes (stop - start), 0, requiresPayment (resolveBookingRule c.rows s ctx)) := by
  simp only [validateBookingWindow, bind_eq_ok, raiseIf_eq_ok, found_eq_ok, pure_eq_ok,
    exists_const]
  constructor
  · intro hok
    rcases hok with ⟨hord, hfut, hmin, hmax, hadv, tz, htz, hday, hours, hhours, hopen, rfl⟩
    exact ⟨⟨not_le.mp hord, not_le.mp hfut, rule_guards.mp ⟨hmin, hmax, hadv⟩,
      tz, htz, hours_guards.mp ⟨hday, hours, hhours, hopen⟩⟩, rfl⟩
  · intro hspec
    rcases hspec with ⟨hadm, rfl⟩
    obtain ⟨hmin, hmax, hadv⟩ := rule_guards.mpr hadm.rule
    obtain ⟨tz, htz, hin⟩ := hadm.hours
    obtain ⟨hday, hours, hhours, hopen⟩ := hours_guards.mpr hin
    exact ⟨not_le.mpr hadm.ordered, not_le.mpr hadm.future, hmin, hmax, hadv, tz, htz, hday, hours,
      hhours, hopen, rfl⟩

/-- The shared columns of a hold are those of a resource, user and window. -/
structure HoldMatches (c : Call) (s : Store) (ctx : ResourceContext) (start stop : Instant)
    (h : Hold) : Prop where
  owned : s.holdOf? h.id c.user = some h
  live : h.live (c.now 1)
  slot : h.toSlot = ctx.slot c.user start stop

theorem validateHold_eq_ok {ctx : ResourceContext} {start stop : Instant} {holdId : Uuid}
    {h : Hold} :
    validateHold c s holdId start stop ctx = .ok h ↔
      h.id = holdId ∧ HoldMatches c s ctx start stop h := by
  simp only [validateHold, bind_eq_ok, raiseIf_eq_ok, found_eq_ok, pure_eq_ok, exists_const,
    not_or, not_not, not_le, ne_eq]
  constructor
  · intro hok
    rcases hok with ⟨x, hx, ⟨hpend, hexp⟩, hlevel, ⟨hvenue, hroom, hseat, hstart, hstop⟩, rfl⟩
    obtain ⟨hget, huser⟩ := Store.holdOf?_eq_some.mp hx
    have hid : x.id = holdId := Table.key_of_get? hget
    refine ⟨hid, hid ▸ hx, ⟨by rw [hpend]; rfl, hexp⟩, ?_⟩
    -- Owner, level, resource and window were compared one by one: together they are the slot.
    rcases x with ⟨⟨u, l, v, r, st, a, z⟩, i, stt, ex⟩
    simp_all [ResourceContext.slot]
  · intro hspec
    rcases hspec with ⟨rfl, howned, hlive, hslot⟩
    refine ⟨h, howned, ⟨hlive.status, hlive.2⟩, ?_, ⟨?_, ?_, ?_, ?_, ?_⟩, rfl⟩ <;>
      rw [hslot] <;> rfl

theorem validateHoldId_eq_ok {ctx : ResourceContext} {start stop : Instant}
    {holdId : Option Uuid} {r : Option Hold} :
    validateHoldId c s holdId start stop ctx = .ok r ↔
      r.map (·.id) = holdId ∧ ∀ h, r = some h → HoldMatches c s ctx start stop h := by
  cases holdId with
  | none =>
    simp only [validateHoldId, pure_eq_ok, Option.map_eq_none_iff]
    exact ⟨fun h => h ▸ ⟨rfl, fun _ hh => nomatch hh⟩, fun h => h.1.symm⟩
  | some id =>
    simp only [validateHoldId, bind_eq_ok, pure_eq_ok, validateHold_eq_ok, Option.map_eq_some_iff]
    constructor
    · rintro ⟨h, ⟨hid, hmatch⟩, rfl⟩
      exact ⟨⟨h, rfl, hid⟩, fun _ he => Option.some.inj he ▸ hmatch⟩
    · rintro ⟨⟨h, rfl, hid⟩, hmatch⟩
      exact ⟨h, ⟨hid, hmatch h rfl⟩, rfl⟩

/-- The conflict guards with an exempted hold let through exactly a window unclaimed by others. -/
theorem conflict_guards_ownHold {now : Instant} {ctx : ResourceContext} {start stop : Instant}
    {own : Option Uuid} :
    (¬ (∃ b ∈ (loadConflicts now s ctx start stop).1, overlaps start stop b.startTime b.endTime) ∧
      ¬ (∃ h ∈ (loadConflicts now s ctx start stop).2.filter fun item => some item.id ≠ own,
        overlaps start stop h.startTime h.endTime)) ↔
    Unclaimed now s ctx start stop none own :=
  guards_iff_unclaimed (by simp) (by simp)

/-- The conflict guards with an exempted booking let through exactly a window unclaimed by
others. -/
theorem conflict_guards_ownBooking {now : Instant} {ctx : ResourceContext} {start stop : Instant}
    {own : Uuid} :
    (¬ (∃ b ∈ (loadConflicts now s ctx start stop).1.filter fun item => item.id ≠ own,
        overlaps start stop b.startTime b.endTime) ∧
      ¬ (∃ h ∈ (loadConflicts now s ctx start stop).2,
        overlaps start stop h.startTime h.endTime)) ↔
    Unclaimed now s ctx start stop (some own) none :=
  guards_iff_unclaimed (by simp) (by simp)

/-- **Acceptance of a booking.** -/
theorem checkBooking_eq_ok {payload : BookingCreateRequest} {d : BookingDraft} :
    checkBooking rt c s payload = .ok d ↔ ∃ start stop ctx,
      payload.startTime.instant? = some start ∧ payload.endTime.instant? = some stop ∧
      Resolves s payload.level payload.seatId payload.roomId payload.venueId ctx ∧
      Admissible rt c.rows s ctx (c.now 0) start stop ∧
      (∀ id, payload.holdId = some id → ∃ h, h.id = id ∧ HoldMatches c s ctx start stop h) ∧
      Unclaimed (c.now 2) s ctx start stop none payload.holdId ∧
      d =
        { slot := ctx.slot c.user start stop
          holdId := payload.holdId
          status := initialStatus (requiresPayment (resolveBookingRule c.rows s ctx))
          priceAmountCents := 0
          priceCurrency := "RUB" } := by
  simp only [checkBooking, bind_eq_ok, raiseIf_eq_ok, pure_eq_ok, ensureUtc_eq_ok,
    resolveResource_eq_ok, validateBookingWindow_eq_ok, validateHoldId_eq_ok, exists_const]
  constructor
  · intro hok
    rcases hok with ⟨start, hstart, stop, hstop, ctx, hres, w, ⟨hadm, rfl⟩, hold, ⟨hid, hmatch⟩,
      hb, hh, rfl⟩
    rw [hid] at hh
    refine ⟨start, stop, ctx, hstart, hstop, hres, hadm, fun id hsome => ?_,
      conflict_guards_ownHold.mp ⟨hb, hh⟩, by rw [hid]⟩
    obtain ⟨h, rfl, rfl⟩ := Option.map_eq_some_iff.mp (hid.trans hsome)
    exact ⟨h, rfl, hmatch h rfl⟩
  · intro hspec
    rcases hspec with ⟨start, stop, ctx, hstart, hstop, hres, hadm, hhold, hfree, rfl⟩
    obtain ⟨hb, hh⟩ := conflict_guards_ownHold.mpr hfree
    -- The hold the guards load, if the request names one.
    obtain ⟨hold, hid, hmatch⟩ : ∃ hold : Option Hold, hold.map (·.id) = payload.holdId ∧
        ∀ h, hold = some h → HoldMatches c s ctx start stop h := by
      cases hsome : payload.holdId with
      | none => exact ⟨none, rfl, by simp⟩
      | some id =>
        obtain ⟨h, rfl, hmatch⟩ := hhold id hsome
        exact ⟨some h, rfl, fun _ he => Option.some.inj he ▸ hmatch⟩
    refine ⟨start, hstart, stop, hstop, ctx, hres, _, ⟨hadm, rfl⟩, hold, ⟨hid, hmatch⟩, hb, ?_, ?_⟩
    · rw [hid]
      exact hh
    · rw [hid]

theorem createBooking_eq_ok {payload : BookingCreateRequest} {r : Store × Booking} :
    createBooking rt c s payload = .ok r ↔
      ∃ d, checkBooking rt c s payload = .ok d ∧ commitBooking rt (c.now 3) s d = r := by
  simp only [createBooking, bind_eq_ok, pure_eq_ok]

/-- **Acceptance of a move.** -/
theorem checkReschedule_eq_ok {bookingId : Uuid} {payload : BookingWindowUpdateRequest}
    {u : BookingUpdate} :
    checkReschedule rt c s bookingId payload = .ok u ↔ ∃ booking start stop ctx,
      s.bookingOf? bookingId c.user = some booking ∧
      (booking.status = .pending ∨ booking.status = .confirmed) ∧
      payload.startTime.instant? = some start ∧ payload.endTime.instant? = some stop ∧
      Resolves s booking.level (resourceKwargsForLevel booking.toSlot).1
        (resourceKwargsForLevel booking.toSlot).2.1 (resourceKwargsForLevel booking.toSlot).2.2 ctx ∧
      Admissible rt c.rows s ctx (c.now 0) start stop ∧
      Unclaimed (c.now 2) s ctx start stop (some booking.id) none ∧
      u =
        { bookingId
          userId := c.user
          patch :=
            { startTime := dirty booking.startTime start
              endTime := dirty booking.endTime stop
              status := dirty booking.status
                (initialStatus (requiresPayment (resolveBookingRule c.rows s ctx))) }
          templateCode := "booking_rescheduled" } := by
  simp only [checkReschedule, bind_eq_ok, raiseIf_eq_ok, found_eq_ok, pure_eq_ok, ensureUtc_eq_ok,
    resolveResource_eq_ok, validateBookingWindow_eq_ok, exists_const]
  constructor
  · intro hok
    rcases hok with ⟨b, hb, hstatus, start, hstart, stop, hstop, ctx, hres, w, ⟨hadm, rfl⟩, hbk,
      hhd, rfl⟩
    refine ⟨b, start, stop, ctx, hb, ?_, hstart, hstop, hres, hadm,
      conflict_guards_ownBooking.mp ⟨hbk, hhd⟩, rfl⟩
    rw [not_and_or, not_not, not_not] at hstatus
    exact hstatus
  · intro hspec
    rcases hspec with ⟨b, start, stop, ctx, hb, hstatus, hstart, hstop, hres, hadm, hfree, rfl⟩
    obtain ⟨hbk, hhd⟩ := conflict_guards_ownBooking.mpr hfree
    refine ⟨b, hb, ?_, start, hstart, stop, hstop, ctx, hres, _, ⟨hadm, rfl⟩, hbk, hhd, rfl⟩
    rw [not_and_or, not_not, not_not]
    exact hstatus

theorem rescheduleBooking_eq_ok {s' : Store} {bookingId : Uuid}
    {payload : BookingWindowUpdateRequest} :
    rescheduleBooking rt c s bookingId payload = .ok s' ↔
      ∃ u, checkReschedule rt c s bookingId payload = .ok u ∧
        commitBookingUpdate (c.now 3) s u = s' := by
  simp only [rescheduleBooking, bind_eq_ok, pure_eq_ok]

/-- **Acceptance of a cancellation.** -/
theorem checkCancel_eq_ok {bookingId : Uuid} {r : Option BookingUpdate} :
    checkCancel c s bookingId = .ok r ↔ ∃ booking, s.bookingOf? bookingId c.user = some booking ∧
      r = if booking.status = .cancelled then none else some
        { bookingId
          userId := c.user
          patch := { status := dirty booking.status .cancelled, cancelledAt := some (c.now 0) }
          templateCode := "booking_cancelled" } := by
  simp only [checkCancel, bind_eq_ok, found_eq_ok]
  refine exists_congr fun b => and_congr_right fun _ => ?_
  by_cases hs : b.status = .cancelled
  · rw [if_pos hs, if_pos hs, pure_eq_ok, eq_comm]
  · rw [if_neg hs, if_neg hs, pure_eq_ok, eq_comm]

theorem cancelBooking_eq_ok {s' : Store} {bookingId : Uuid} :
    cancelBooking c s bookingId = .ok s' ↔ ∃ r, checkCancel c s bookingId = .ok r ∧
      s' = match r with
        | some u => commitBookingUpdate (c.now 1) s u
        | none => s := by
  simp only [cancelBooking, bind_eq_ok]
  refine exists_congr fun r => and_congr_right fun _ => ?_
  cases r with
  | none => exact (pure_eq_ok _ _).trans eq_comm
  | some u => exact (pure_eq_ok _ _).trans eq_comm

theorem repeatBooking_eq_ok {r : Store × Booking} {bookingId : Uuid}
    {payload : BookingWindowUpdateRequest} :
    repeatBooking rt c s bookingId payload = .ok r ↔
      ∃ source, s.bookingOf? bookingId c.user = some source ∧
      createBooking rt c s
        { level := source.level
          seatId := if source.level = .seat then source.seatId else none
          roomId := if source.level = .room then source.roomId else none
          venueId := if source.level = .venue then source.venueId else none
          holdId := none
          startTime := payload.startTime
          endTime := payload.endTime } = .ok r := by
  simp only [repeatBooking, bind_eq_ok, found_eq_ok]

end Coworking
