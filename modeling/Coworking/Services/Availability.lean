import Coworking.Core.Runtime
import Coworking.Foundation.Calendar
import Coworking.Services.Errors

/-!
# Availability

Resolution of a request to a resource, the rule and the opening hours that apply to it,
the query for conflicting records, and the grid of slots of a day.

## Specifications

- `resolveResource_eq_ok`: a request resolves exactly along the seat, room, venue chain;
- `mem_loadConflicts_bookings`, `mem_loadConflicts_holds`: what the conflict query returns;
- `Admissible`: the conditions on a window that holds and bookings both check.
-/

namespace Coworking

open Foundation

/-! ## §1 Constants -/

/-- `DEFAULT_OPEN_TIME`. -/
def defaultOpenTime : LocalTime := ⟨0, by decide, by decide⟩

/-- `DEFAULT_CLOSE_TIME`: 23:59. -/
def defaultCloseTime : LocalTime := ⟨minutes (23 * 60 + 59), by decide, by decide⟩

/-- `BLOCKING_BOOKING_STATUSES`. -/
def BookingStatus.blocking : BookingStatus → Bool
  | .pending | .confirmed | .checkedIn => true
  | .cancelled | .expired | .noShow | .completed => false

/-- `BLOCKING_HOLD_STATUSES`. -/
def HoldStatus.blocking : HoldStatus → Bool
  | .pending => true
  | .cancelled | .expired | .converted => false

/-- `_overlaps`. -/
abbrev overlaps (slotStart slotEnd rangeStart rangeEnd : Instant) : Prop :=
  Overlaps slotStart slotEnd rangeStart rangeEnd

/-! ## §2 Resources -/

/-- The columns a context of the given level has set. -/
def ResourceShape (level : BookingLevel) (roomId seatId : Option Uuid) : Prop :=
  match level with
  | .seat => roomId.isSome ∧ seatId.isSome
  | .room => roomId.isSome ∧ seatId = none
  | .venue => roomId = none ∧ seatId = none

/-- A resolved resource.  `shape` is what `_load_conflicts` asserts. -/
structure ResourceContext where
  level : BookingLevel
  venueId : Uuid
  roomId : Option Uuid
  seatId : Option Uuid
  timezone : String
  shape : ResourceShape level roomId seatId

/-- A venue has no room, and every other resource has one. -/
theorem ResourceContext.roomId_cases (ctx : ResourceContext) :
    ctx.level = .venue ∧ ctx.roomId = none ∨
      ctx.level ≠ .venue ∧ ∃ roomId, ctx.roomId = some roomId := by
  have hshape := ctx.shape
  cases hlevel : ctx.level with
  | venue =>
    rw [hlevel] at hshape
    exact .inl ⟨rfl, hshape.1⟩
  | room | seat =>
    rw [hlevel] at hshape
    exact .inr ⟨by decide, Option.isSome_iff_exists.mp hshape.1⟩

/-- `_resolve_resource`. -/
def resolveResource (s : Store) (level : BookingLevel) (seatId roomId venueId : Option Uuid) :
    Except ServiceError ResourceContext :=
  match level with
  | .seat =>
    match seatId, roomId, venueId with
    | some seatId, none, none => do
      let seat ← found (s.seat? seatId) (.availabilityNotFound "Seat not found.")
      let room ← found (s.room? seat.roomId) (.availabilityNotFound "Seat hierarchy is broken.")
      let venue ← found (s.venue? room.venueId) (.availabilityNotFound "Seat hierarchy is broken.")
      pure ⟨.seat, venue.id, some room.id, some seat.id, venue.timezone, ⟨rfl, rfl⟩⟩
    | _, _, _ =>
      .error (.availabilityValidation "For level=seat you must provide only seatId.")
  | .room =>
    match roomId, seatId, venueId with
    | some roomId, none, none => do
      let room ← found (s.room? roomId) (.availabilityNotFound "Room not found.")
      let venue ← found (s.venue? room.venueId) (.availabilityNotFound "Room hierarchy is broken.")
      pure ⟨.room, venue.id, some room.id, none, venue.timezone, ⟨rfl, rfl⟩⟩
    | _, _, _ =>
      .error (.availabilityValidation "For level=room you must provide only roomId.")
  | .venue =>
    match venueId, seatId, roomId with
    | some venueId, none, none => do
      let venue ← found (s.venue? venueId) (.availabilityNotFound "Venue not found.")
      pure ⟨.venue, venue.id, none, none, venue.timezone, ⟨rfl, rfl⟩⟩
    | _, _, _ =>
      .error (.availabilityValidation "For level=venue you must provide only venueId.")

/-- The contexts a request resolves to: one constructor for each level. -/
inductive Resolves (s : Store) :
    BookingLevel → Option Uuid → Option Uuid → Option Uuid → ResourceContext → Prop
  | seat {id : Uuid} {seat : Seat} {room : Room} {venue : Venue} :
      s.seat? id = some seat → s.room? seat.roomId = some room →
      s.venue? room.venueId = some venue →
      Resolves s .seat (some id) none none
        ⟨.seat, venue.id, some room.id, some seat.id, venue.timezone, ⟨rfl, rfl⟩⟩
  | room {id : Uuid} {room : Room} {venue : Venue} :
      s.room? id = some room → s.venue? room.venueId = some venue →
      Resolves s .room none (some id) none
        ⟨.room, venue.id, some room.id, none, venue.timezone, ⟨rfl, rfl⟩⟩
  | venue {id : Uuid} {venue : Venue} :
      s.venue? id = some venue →
      Resolves s .venue none none (some id)
        ⟨.venue, venue.id, none, none, venue.timezone, ⟨rfl, rfl⟩⟩

/-- `_resolve_resource` returns exactly along the seat, room, venue chain. -/
theorem resolveResource_eq_ok {s : Store} {level : BookingLevel}
    {seatId roomId venueId : Option Uuid} {ctx : ResourceContext} :
    resolveResource s level seatId roomId venueId = .ok ctx ↔
      Resolves s level seatId roomId venueId ctx := by
  constructor
  · intro h
    -- Of the combinations of ids, one for each level does not raise at once.
    cases level <;> rcases seatId with _ | seatId <;> rcases roomId with _ | roomId <;>
      rcases venueId with _ | venueId <;>
      simp only [resolveResource, bind_eq_ok, found_eq_ok, pure_eq_ok, reduceCtorEq] at h
    case seat.some.none.none =>
      rcases h with ⟨seat, hseat, room, hroom, venue, hvenue, rfl⟩
      exact .seat hseat hroom hvenue
    case room.none.some.none =>
      rcases h with ⟨room, hroom, venue, hvenue, rfl⟩
      exact .room hroom hvenue
    case venue.none.none.some =>
      rcases h with ⟨venue, hvenue, rfl⟩
      exact .venue hvenue
  · intro h
    cases h with
    | seat hseat hroom hvenue =>
      simp only [resolveResource, bind_eq_ok, found_eq_ok, pure_eq_ok]
      exact ⟨_, hseat, _, hroom, _, hvenue, rfl⟩
    | room hroom hvenue =>
      simp only [resolveResource, bind_eq_ok, found_eq_ok, pure_eq_ok]
      exact ⟨_, hroom, _, hvenue, rfl⟩
    | venue hvenue =>
      simp only [resolveResource, bind_eq_ok, found_eq_ok, pure_eq_ok]
      exact ⟨_, hvenue, rfl⟩

/-! ## §3 Rules and hours -/

/-- `_resolve_booking_rule`. -/
def resolveBookingRule (rows : RowChoice) (s : Store) (ctx : ResourceContext) :
    Option BookingRule :=
  -- A seat has no rule of its own; the rule of its room goes before that of the venue.
  let roomRule :=
    match ctx.level, ctx.roomId with
    | .seat, some roomId => rows.pick (s.bookingRules.rows.filter (·.roomId = some roomId))
    | .room, some roomId => rows.pick (s.bookingRules.rows.filter (·.roomId = some roomId))
    | _, _ => none
  match roomRule with
  | some rule => some rule
  | none => rows.pick (s.bookingRules.rows.filter (·.venueId = some ctx.venueId))

/-- The enforced rule is one of the stored rules. -/
theorem mem_of_resolveBookingRule {rows : RowChoice} {s : Store} {ctx : ResourceContext}
    {rule : BookingRule} (h : resolveBookingRule rows s ctx = some rule) :
    rule ∈ s.bookingRules := by
  have hmem : ∀ p : BookingRule → Bool, rows.pick (s.bookingRules.rows.filter p) = some rule →
      rule ∈ s.bookingRules := fun p hp => (List.mem_filter.mp (rows.pick_mem hp)).1
  simp only [resolveBookingRule] at h
  split at h
  -- The room has a rule: it is one of those the query filtered out.
  next rule' hroom =>
    obtain rfl := Option.some.inj h
    split at hroom
    · exact hmem _ hroom
    · exact hmem _ hroom
    · cases hroom
  · exact hmem _ h

/-- A venue with a rule always has one enforced. -/
theorem resolveBookingRule_isSome {rows : RowChoice} {s : Store} {ctx : ResourceContext}
    {rule : BookingRule} (hmem : rule ∈ s.bookingRules) (hv : rule.venueId = some ctx.venueId) :
    (resolveBookingRule rows s ctx).isSome := by
  simp only [resolveBookingRule]
  split
  · rfl
  · exact rows.pick_isSome (List.ne_nil_of_mem (List.mem_filter.mpr ⟨hmem, by simpa using hv⟩))

/-- `_resolve_operating_hours`; `none` on a closed day. -/
def resolveOperatingHours (s : Store) (ctx : ResourceContext) (targetDate : Date) :
    Option (LocalTime × LocalTime) :=
  match ctx.roomId with
  -- Only rooms have hours; a booking of the whole venue looks at none of them.
  | none => some (defaultOpenTime, defaultCloseTime)
  | some roomId =>
    match s.roomHours.get? (roomId, targetDate.weekday) with
    | none => some (defaultOpenTime, defaultCloseTime)
    | some roomHour =>
      if roomHour.isClosed then none
      else some (roomHour.startLocalTime.getD defaultOpenTime,
        roomHour.endLocalTime.getD defaultCloseTime)

/-! ## §4 Conflicts -/

/-- `column = value` in SQL: never true when a side is `NULL`. -/
def sqlEq (column value : Option Uuid) : Bool :=
  match column, value with
  | some x, some y => x = y
  | _, _ => false

/-- `column IN (values)`. -/
def sqlIn (column : Option Uuid) (values : List Uuid) : Bool :=
  match column with
  | some x => x ∈ values
  | none => false

section Sql

variable {column value : Option Uuid}

theorem sqlEq_some {x : Uuid} : sqlEq column (some x) = decide (column = some x) := by
  cases column <;> simp [sqlEq]

theorem sqlEq_none : sqlEq column none = false := by
  cases column <;> rfl

theorem sqlEq_eq_true : sqlEq column value = true ↔ ∃ x, column = some x ∧ value = some x := by
  cases value <;> simp [sqlEq_some, sqlEq_none]

theorem sqlIn_eq_true {values : List Uuid} :
    sqlIn column values = true ↔ ∃ x ∈ values, column = some x := by
  cases column <;> simp [sqlIn]

end Sql

/-- `booking_filter` and `hold_filter`: the two read the same columns. -/
def conflictFilter (s : Store) (ctx : ResourceContext) (slot : Slot) : Bool :=
  match ctx.level with
  -- Rows of every level carry their venue, so each filter matches all rows of the venue.
  | .seat =>
    sqlEq slot.seatId ctx.seatId || sqlEq slot.roomId ctx.roomId ||
      sqlEq slot.venueId (some ctx.venueId)
  | .room =>
    let seatIds := (s.seats.rows.filter fun seat => some seat.roomId = ctx.roomId).map (·.id)
    sqlEq slot.roomId ctx.roomId || sqlEq slot.venueId (some ctx.venueId) ||
      sqlIn slot.seatId seatIds
  | .venue =>
    let roomIds := (s.rooms.rows.filter fun room => room.venueId = ctx.venueId).map (·.id)
    let seatIds := (s.seats.rows.filter fun seat => seat.roomId ∈ roomIds).map (·.id)
    sqlEq slot.venueId (some ctx.venueId) || sqlIn slot.roomId roomIds ||
      sqlIn slot.seatId seatIds

/-- Every level's filter matches the rows of the same venue. -/
theorem conflictFilter_of_venueId {s : Store} {ctx : ResourceContext} {slot : Slot}
    (h : slot.venueId = some ctx.venueId) : conflictFilter s ctx slot := by
  cases hlevel : ctx.level <;> simp [conflictFilter, hlevel, sqlEq_some, h]

/-- `_load_conflicts`; `now` is its own reading of the clock. -/
def loadConflicts (now : Instant) (s : Store) (ctx : ResourceContext)
    (rangeStart rangeEnd : Instant) : List Booking × List Hold :=
  (s.bookings.rows.filter fun b =>
      b.status.blocking ∧ b.startTime < rangeEnd ∧ rangeStart < b.endTime ∧
        conflictFilter s ctx b.toSlot,
   s.holds.rows.filter fun h =>
      h.status.blocking ∧ now < h.expiresAt ∧ h.startTime < rangeEnd ∧ rangeStart < h.endTime ∧
        conflictFilter s ctx h.toSlot)

/-- A hold that blocks at the instant `now`. -/
def Hold.live (h : Hold) (now : Instant) : Prop := h.status.blocking ∧ now < h.expiresAt

instance (h : Hold) (now : Instant) : Decidable (h.live now) :=
  inferInstanceAs (Decidable (_ ∧ _))

theorem Hold.live.status {h : Hold} {now : Instant} (hl : h.live now) : h.status = .pending := by
  have hb := hl.1
  cases hs : h.status <;> simp_all [HoldStatus.blocking]

theorem Hold.live.mono {h : Hold} {now now' : Instant} (hl : h.live now') (hle : now ≤ now') :
    h.live now := ⟨hl.1, hle.trans_lt hl.2⟩

variable {now : Instant} {s : Store} {ctx : ResourceContext} {start stop : Instant}

theorem mem_loadConflicts_bookings {b : Booking} :
    b ∈ (loadConflicts now s ctx start stop).1 ↔
      b ∈ s.bookings ∧ b.status.blocking ∧ overlaps start stop b.startTime b.endTime ∧
        conflictFilter s ctx b.toSlot := by
  simp only [loadConflicts, List.mem_filter, decide_eq_true_eq, Table.mem_def, Overlaps]
  tauto

theorem mem_loadConflicts_holds {h : Hold} :
    h ∈ (loadConflicts now s ctx start stop).2 ↔
      h ∈ s.holds ∧ h.live now ∧ overlaps start stop h.startTime h.endTime ∧
        conflictFilter s ctx h.toSlot := by
  simp only [loadConflicts, List.mem_filter, decide_eq_true_eq, Table.mem_def, Overlaps, Hold.live]
  tauto

/-! ## §5 Admissible windows -/

/-- What a booking rule asks of a window. -/
structure RuleAdmits (rule : BookingRule) (now start stop : Instant) : Prop where
  minDuration : rule.minDurationMinutes ≤ wholeMinutes (stop - start)
  maxDuration : wholeMinutes (stop - start) ≤ rule.maxDurationMinutes
  maxAdvance : start ≤ now + days rule.maxAdvanceDays

/-- What the opening hours ask of a window, on the local clock. -/
structure HoursAdmit (s : Store) (ctx : ResourceContext) (tz : Zone) (start stop : Instant) :
    Prop where
  sameDay : Wall.date (tz.toWall start) = Wall.date (tz.toWall stop)
  isOpen : ∃ hours, resolveOperatingHours s ctx (Wall.date (tz.toWall start)) = some hours ∧
    combine (Wall.date (tz.toWall start)) hours.1 ≤ tz.toWall start ∧
    tz.toWall stop ≤ combine (Wall.date (tz.toWall start)) hours.2

/-- The conditions on a window that `create_hold` and `_validate_booking_window` both check. -/
structure Admissible (rt : Runtime) (rows : RowChoice) (s : Store) (ctx : ResourceContext)
    (now start stop : Instant) : Prop where
  ordered : start < stop
  future : now < start
  rule : ∀ rule, resolveBookingRule rows s ctx = some rule → RuleAdmits rule now start stop
  hours : ∃ tz, rt.zoneInfo ctx.timezone = some tz ∧ HoursAdmit s ctx tz start stop

/-- Nothing in the store that conflicts with the resource overlaps the window, apart from
the booking `ownBooking` and the hold `ownHold`. -/
structure Unclaimed (now : Instant) (s : Store) (ctx : ResourceContext) (start stop : Instant)
    (ownBooking ownHold : Option Uuid) : Prop where
  bookings : ∀ b ∈ s.bookings, b.status.blocking → overlaps start stop b.startTime b.endTime →
    conflictFilter s ctx b.toSlot → some b.id = ownBooking
  holds : ∀ h ∈ s.holds, h.live now → overlaps start stop h.startTime h.endTime →
    conflictFilter s ctx h.toSlot → some h.id = ownHold

/-- A pair of conflict guards that leaves out an own booking and an own hold lets through exactly
a window that nothing else claims. -/
theorem guards_iff_unclaimed {ownBooking ownHold : Option Uuid} {bookings : List Booking}
    {holds : List Hold}
    (hbookings : ∀ b, b ∈ bookings ↔
      b ∈ (loadConflicts now s ctx start stop).1 ∧ some b.id ≠ ownBooking)
    (hholds : ∀ h, h ∈ holds ↔ h ∈ (loadConflicts now s ctx start stop).2 ∧ some h.id ≠ ownHold) :
    (¬ (∃ b ∈ bookings, overlaps start stop b.startTime b.endTime) ∧
      ¬ (∃ h ∈ holds, overlaps start stop h.startTime h.endTime)) ↔
    Unclaimed now s ctx start stop ownBooking ownHold := by
  constructor
  · intro ⟨hb, hh⟩
    refine ⟨fun b hmem hblocking hov hfilter => ?_, fun h hmem hlive hov hfilter => ?_⟩
    · by_contra hne
      have hload : b ∈ (loadConflicts now s ctx start stop).1 :=
        mem_loadConflicts_bookings.mpr ⟨hmem, hblocking, hov, hfilter⟩
      exact hb ⟨b, (hbookings b).mpr ⟨hload, hne⟩, hov⟩
    · by_contra hne
      have hload := mem_loadConflicts_holds.mpr ⟨hmem, hlive, hov, hfilter⟩
      exact hh ⟨h, (hholds h).mpr ⟨hload, hne⟩, hov⟩
  · intro hfree
    refine ⟨fun ⟨b, hb, _⟩ => ?_, fun ⟨h, hh, _⟩ => ?_⟩
    · rcases (hbookings b).mp hb with ⟨hload, hne⟩
      rcases mem_loadConflicts_bookings.mp hload with ⟨hmem, hblocking, hov, hfilter⟩
      exact hne (hfree.bookings b hmem hblocking hov hfilter)
    · rcases (hholds h).mp hh with ⟨hload, hne⟩
      rcases mem_loadConflicts_holds.mp hload with ⟨hmem, hlive, hov, hfilter⟩
      exact hne (hfree.holds h hmem hlive hov hfilter)

/-- An admissible window stays admissible while the clock moves towards it. -/
theorem Admissible.later {rt : Runtime} {rows : RowChoice} {now now' : Instant}
    (h : Admissible rt rows s ctx now start stop) (hle : now ≤ now') (hlt : now' < start) :
    Admissible rt rows s ctx now' start stop where
  ordered := h.ordered
  future := hlt
  rule := fun rule hrule =>
    { minDuration := (h.rule rule hrule).minDuration
      maxDuration := (h.rule rule hrule).maxDuration
      maxAdvance := (h.rule rule hrule).maxAdvance.trans (Int.add_le_add_right hle _) }
  hours := h.hours

/-! ## §6 The grid of a day -/

structure AvailabilitySlot where
  startTime : Instant
  endTime : Instant
  available : Bool
  seatId : Option Uuid
  deriving DecidableEq

structure AvailabilityResponse where
  date : Date
  timeSlots : List AvailabilitySlot
  deriving DecidableEq

/-- The slot the `while` loop of `get_availability` appends at the local time `currentLocal`. -/
def slotAt (tz : Zone) (bookings : List Booking) (holds : List Hold) (seatId : Option Uuid)
    (duration : Int) (currentLocal : Wall) : AvailabilitySlot :=
  let slotStartUtc := tz.toUtc currentLocal
  let slotEndUtc := tz.toUtc (currentLocal + duration)
  let isBlocked : Bool :=
    (∃ b ∈ bookings, overlaps slotStartUtc slotEndUtc b.startTime b.endTime) ∨
      (∃ h ∈ holds, overlaps slotStartUtc slotEndUtc h.startTime h.endTime)
  ⟨slotStartUtc, slotEndUtc, !isBlocked, seatId⟩

/-- The `while` loop of `get_availability`. -/
def slotLoop (tz : Zone) (bookings : List Booking) (holds : List Hold) (seatId : Option Uuid)
    (duration : Int) (hpos : 0 < duration) (slotEndLimit currentLocal : Int) :
    List AvailabilitySlot :=
  if _h : currentLocal + duration ≤ slotEndLimit then
    slotAt tz bookings holds seatId duration currentLocal ::
      slotLoop tz bookings holds seatId duration hpos slotEndLimit (currentLocal + duration)
  else []
termination_by (slotEndLimit - currentLocal).toNat
decreasing_by omega

/-- `get_availability`. -/
def getAvailability (rt : Runtime) (c : Call) (s : Store) (level : BookingLevel)
    (seatId roomId venueId : Option Uuid) (targetDate : Date) (durationMinutes : Int) :
    Except ServiceError AvailabilityResponse :=
  if hshort : durationMinutes < 15 then
    .error (.availabilityValidation "durationMinutes must be at least 15.")
  else do
    let ctx ← resolveResource s level seatId roomId venueId
    let bookingRule := resolveBookingRule c.rows s ctx
    raiseIf (∃ rule ∈ bookingRule, durationMinutes < rule.minDurationMinutes)
      (.availabilityValidation "durationMinutes is below the minimum allowed duration.")
    raiseIf (∃ rule ∈ bookingRule, rule.maxDurationMinutes < durationMinutes)
      (.availabilityValidation "durationMinutes exceeds the maximum allowed duration.")
    match resolveOperatingHours s ctx targetDate with
    -- A closed day is answered without slots, where holds and bookings raise.
    | none => pure ⟨targetDate, []⟩
    | some (openTime, closeTime) => do
      let tz ← found (rt.zoneInfo ctx.timezone) (.zoneInfo ctx.timezone)
      let localStart := combine targetDate openTime
      let slotEndLimit := combine targetDate closeTime
      let duration := minutes durationMinutes
      if slotEndLimit < localStart + duration then pure ⟨targetDate, []⟩
      else
        -- One query for the whole day; each slot is then compared with what it returned.
        let utcRangeStart := tz.toUtc localStart
        let utcRangeEnd := tz.toUtc slotEndLimit
        let conflicts := loadConflicts (c.now 0) s ctx utcRangeStart utcRangeEnd
        have hpos : 0 < minutes durationMinutes :=
          Int.mul_pos (by omega) microsPerMinute_pos
        pure ⟨targetDate, slotLoop tz conflicts.1 conflicts.2
          (if ctx.level = .seat then ctx.seatId else none) duration hpos slotEndLimit localStart⟩

/-! ## §7 What is on the grid -/

/-- The loop appends as many slots as the duration goes into the time left, one after the other. -/
theorem slotLoop_eq {tz : Zone} {bookings : List Booking} {holds : List Hold}
    {seatId : Option Uuid} {duration : Int} (hpos : 0 < duration)
    {slotEndLimit currentLocal : Int} :
    slotLoop tz bookings holds seatId duration hpos slotEndLimit currentLocal =
      (List.range ((slotEndLimit - currentLocal) / duration).toNat).map fun k : Nat =>
        slotAt tz bookings holds seatId duration (currentLocal + k * duration) := by
  fun_induction slotLoop tz bookings holds seatId duration hpos slotEndLimit currentLocal with
  | case1 w hfits ih =>
    -- After the pass one duration less is left, so one slot less is to come.
    have hquot :
        (slotEndLimit - w) / duration = (slotEndLimit - (w + duration)) / duration + 1 := by
      rw [← Int.add_mul_ediv_right _ _ hpos.ne']
      congr 1
      omega
    have hleft : 0 ≤ (slotEndLimit - (w + duration)) / duration :=
      Int.ediv_nonneg (by omega) hpos.le
    have hnext : ∀ k : Nat, w + ((k + 1 : Nat) : Int) * duration = w + duration + k * duration := by
      intro k
      rw [Int.natCast_succ, Int.add_mul, Int.one_mul]
      omega
    rw [ih, hquot, Int.toNat_add hleft (by decide), Int.toNat_one, List.range_succ_eq_map,
      List.map_cons, List.map_map]
    simp only [Int.natCast_zero, Int.zero_mul, Int.add_zero, Function.comp_def, Nat.succ_eq_add_one,
      hnext]
  | case2 w hfull =>
    have hnone : (slotEndLimit - w) / duration < 1 := Int.ediv_lt_of_lt_mul hpos (by omega)
    rw [Int.toNat_eq_zero.mpr (by omega), List.range_zero, List.map_nil]

/-- The loop appends a slot at every multiple of the duration that still fits. -/
theorem mem_slotLoop {tz : Zone} {bookings : List Booking} {holds : List Hold}
    {seatId : Option Uuid} {duration : Int} {hpos : 0 < duration} {slotEndLimit currentLocal : Int}
    {slot : AvailabilitySlot} :
    slot ∈ slotLoop tz bookings holds seatId duration hpos slotEndLimit currentLocal ↔
      ∃ k : Nat, currentLocal + k * duration + duration ≤ slotEndLimit ∧
        slot = slotAt tz bookings holds seatId duration (currentLocal + k * duration) := by
  have hfits : ∀ k : Nat, k < ((slotEndLimit - currentLocal) / duration).toNat ↔
      currentLocal + k * duration + duration ≤ slotEndLimit := by
    intro k
    rw [Int.lt_toNat, Int.lt_iff_add_one_le, Int.le_ediv_iff_mul_le hpos, Int.add_mul, Int.one_mul]
    omega
  simp only [slotLoop_eq, List.mem_map, List.mem_range, hfits, eq_comm]

/-- The duration is one that `get_availability` accepts for the resource. -/
structure AcceptedDuration (rows : RowChoice) (s : Store) (ctx : ResourceContext)
    (durationMinutes : Int) : Prop where
  long : 15 ≤ durationMinutes
  rule : ∀ rule, resolveBookingRule rows s ctx = some rule →
    rule.minDurationMinutes ≤ durationMinutes ∧ durationMinutes ≤ rule.maxDurationMinutes

theorem AcceptedDuration.minutes_pos {rows : RowChoice} {durationMinutes : Int}
    (h : AcceptedDuration rows s ctx durationMinutes) : 0 < minutes durationMinutes := by
  have hlong := h.long
  exact Int.mul_pos (by omega) microsPerMinute_pos

/-- The duration guards let through exactly what is accepted. -/
theorem duration_guards {rows : RowChoice} {durationMinutes : Int} :
    (15 ≤ durationMinutes ∧
      (¬ ∃ rule ∈ resolveBookingRule rows s ctx, durationMinutes < rule.minDurationMinutes) ∧
      ¬ ∃ rule ∈ resolveBookingRule rows s ctx, rule.maxDurationMinutes < durationMinutes) ↔
    AcceptedDuration rows s ctx durationMinutes := by
  constructor
  · rintro ⟨hlong, hmin, hmax⟩
    exact ⟨hlong, fun rule hrule => ⟨not_lt.mp fun h => hmin ⟨rule, hrule, h⟩,
      not_lt.mp fun h => hmax ⟨rule, hrule, h⟩⟩⟩
  · intro h
    exact ⟨h.long, fun ⟨rule, hrule, hlt⟩ => absurd (h.rule rule hrule).1 (not_le.mpr hlt),
      fun ⟨rule, hrule, hlt⟩ => absurd (h.rule rule hrule).2 (not_le.mpr hlt)⟩

/-- The slots of a day with opening hours. -/
def daySlots (tz : Zone) (now : Instant) (s : Store) (ctx : ResourceContext) (targetDate : Date)
    (hours : LocalTime × LocalTime) (durationMinutes : Int) : List AvailabilitySlot :=
  let localStart := combine targetDate hours.1
  let slotEndLimit := combine targetDate hours.2
  let conflicts := loadConflicts now s ctx (tz.toUtc localStart) (tz.toUtc slotEndLimit)
  (List.range ((slotEndLimit - localStart) / minutes durationMinutes).toNat).map fun k : Nat =>
    slotAt tz conflicts.1 conflicts.2 (if ctx.level = .seat then ctx.seatId else none)
      (minutes durationMinutes) (localStart + k * minutes durationMinutes)

theorem mem_daySlots {tz : Zone} {targetDate : Date} {hours : LocalTime × LocalTime}
    {durationMinutes : Int} {slot : AvailabilitySlot} (hpos : 0 < minutes durationMinutes) :
    slot ∈ daySlots tz now s ctx targetDate hours durationMinutes ↔
      ∃ k : Nat, combine targetDate hours.1 + k * minutes durationMinutes +
          minutes durationMinutes ≤ combine targetDate hours.2 ∧
        slot = slotAt tz
          (loadConflicts now s ctx (tz.toUtc (combine targetDate hours.1))
            (tz.toUtc (combine targetDate hours.2))).1
          (loadConflicts now s ctx (tz.toUtc (combine targetDate hours.1))
            (tz.toUtc (combine targetDate hours.2))).2
          (if ctx.level = .seat then ctx.seatId else none) (minutes durationMinutes)
          (combine targetDate hours.1 + k * minutes durationMinutes) := by
  rw [daySlots, ← slotLoop_eq hpos]
  exact mem_slotLoop

/-- A day that is shorter than the duration has no slots. -/
theorem daySlots_eq_nil {tz : Zone} {targetDate : Date} {hours : LocalTime × LocalTime}
    {durationMinutes : Int} (hpos : 0 < minutes durationMinutes)
    (h : combine targetDate hours.2 < combine targetDate hours.1 + minutes durationMinutes) :
    daySlots tz now s ctx targetDate hours durationMinutes = [] := by
  have hnone : (combine targetDate hours.2 - combine targetDate hours.1) /
      minutes durationMinutes < 1 := by
    refine Int.ediv_lt_of_lt_mul hpos ?_
    rw [Int.one_mul]
    exact Int.sub_left_lt_of_lt_add h
  rw [daySlots, Int.toNat_eq_zero.mpr (Int.le_of_lt_add_one hnone), List.range_zero, List.map_nil]

/-- **What `get_availability` answers.** -/
theorem getAvailability_eq_ok {rt : Runtime} {c : Call} {level : BookingLevel}
    {seatId roomId venueId : Option Uuid} {targetDate : Date} {durationMinutes : Int}
    {resp : AvailabilityResponse} :
    getAvailability rt c s level seatId roomId venueId targetDate durationMinutes = .ok resp ↔
      ∃ ctx, Resolves s level seatId roomId venueId ctx ∧
        AcceptedDuration c.rows s ctx durationMinutes ∧
        ((resolveOperatingHours s ctx targetDate = none ∧ ⟨targetDate, []⟩ = resp) ∨
          ∃ hours tz, resolveOperatingHours s ctx targetDate = some hours ∧
            rt.zoneInfo ctx.timezone = some tz ∧
            ⟨targetDate, daySlots tz (c.now 0) s ctx targetDate hours durationMinutes⟩ = resp) := by
  unfold getAvailability
  split
  next hshort =>
    -- Less than a quarter of an hour is refused before anything is looked up.
    simp only [reduceCtorEq, false_iff]
    rintro ⟨ctx, -, hacc, -⟩
    exact absurd hacc.long (by omega)
  next hlong =>
    simp only [bind_eq_ok, raiseIf_eq_ok, resolveResource_eq_ok, exists_const]
    refine exists_congr fun ctx => and_congr_right fun hres => ?_
    have hpos : 0 < minutes durationMinutes := Int.mul_pos (by omega) microsPerMinute_pos
    rw [← duration_guards, and_iff_right (show 15 ≤ durationMinutes by omega), and_assoc]
    refine and_congr_right fun hmin => and_congr_right fun hmax => ?_
    cases hhours : resolveOperatingHours s ctx targetDate with
    | none => simp [pure_eq_ok]
    | some hours =>
      simp only [bind_eq_ok, found_eq_ok, reduceCtorEq, false_and, false_or, Option.some.injEq,
        exists_and_left, exists_eq_left']
      refine exists_congr fun tz => and_congr_right fun htz => ?_
      split
      next hfull => rw [pure_eq_ok, daySlots_eq_nil hpos hfull]
      next =>
        rw [pure_eq_ok]
        exact iff_of_eq (congrArg (fun slots => (⟨targetDate, slots⟩ : AvailabilityResponse) = resp)
          (slotLoop_eq _))

/-- How a slot got on the grid of a day: at the local time `w`, within the opening hours. -/
structure Offered (rt : Runtime) (rows : RowChoice) (now : Instant) (s : Store)
    (ctx : ResourceContext) (targetDate : Date) (durationMinutes : Int)
    (hours : LocalTime × LocalTime) (tz : Zone) (w : Wall) (slot : AvailabilitySlot) : Prop where
  duration : 15 ≤ durationMinutes
  rule : ∀ rule, resolveBookingRule rows s ctx = some rule →
    rule.minDurationMinutes ≤ durationMinutes ∧ durationMinutes ≤ rule.maxDurationMinutes
  operatingHours : resolveOperatingHours s ctx targetDate = some hours
  zone : rt.zoneInfo ctx.timezone = some tz
  opens : combine targetDate hours.1 ≤ w
  closes : w + minutes durationMinutes ≤ combine targetDate hours.2
  start : slot.startTime = tz.toUtc w
  stop : slot.endTime = tz.toUtc (w + minutes durationMinutes)
  available : slot.available ↔
    (∀ b ∈ (loadConflicts now s ctx (tz.toUtc (combine targetDate hours.1))
        (tz.toUtc (combine targetDate hours.2))).1,
      ¬ overlaps slot.startTime slot.endTime b.startTime b.endTime) ∧
    ∀ h ∈ (loadConflicts now s ctx (tz.toUtc (combine targetDate hours.1))
        (tz.toUtc (combine targetDate hours.2))).2,
      ¬ overlaps slot.startTime slot.endTime h.startTime h.endTime

/-- **The slots of `get_availability`.** -/
theorem offered_of_mem {rt : Runtime} {c : Call} {level : BookingLevel}
    {seatId roomId venueId : Option Uuid} {targetDate : Date} {durationMinutes : Int}
    {resp : AvailabilityResponse} {slot : AvailabilitySlot}
    (hget : getAvailability rt c s level seatId roomId venueId targetDate durationMinutes =
      .ok resp)
    (hslot : slot ∈ resp.timeSlots) :
    ∃ ctx hours tz w, Resolves s level seatId roomId venueId ctx ∧
      Offered rt c.rows (c.now 0) s ctx targetDate durationMinutes hours tz w slot := by
  obtain ⟨ctx, hres, hacc, hday⟩ := getAvailability_eq_ok.mp hget
  rcases hday with ⟨-, rfl⟩ | ⟨hours, tz, hhours, htz, rfl⟩
  · cases hslot
  · have hpos := hacc.minutes_pos
    obtain ⟨k, hfits, rfl⟩ := (mem_daySlots hpos).mp hslot
    have hk : 0 ≤ (k : Int) * minutes durationMinutes :=
      Int.mul_nonneg (Int.natCast_nonneg k) hpos.le
    refine ⟨ctx, hours, tz, combine targetDate hours.1 + k * minutes durationMinutes, hres, ?_⟩
    exact
      { duration := hacc.long
        rule := hacc.rule
        operatingHours := hhours
        zone := htz
        opens := le_add_of_nonneg_right hk
        closes := hfits
        start := rfl
        stop := rfl
        available := by simp [slotAt] }

end Coworking
