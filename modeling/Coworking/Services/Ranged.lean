import Coworking.Core.DateRange
import Coworking.Services.Analytics
import Coworking.Services.Booking

/-!
# The Services on Python's Calendar

`list_bookings`, `get_occupancy_analytics`, `get_availability`, `create_hold`, `create_booking` and
`reschedule_booking` again, each addition to a date or datetime and each conversion between zones
as an operation that overflows at the ends of the calendar.  Each does what its counterpart without
those ends does, unless one of its results is out of range:

- `overflowsUnless_listBookings`, `overflowsUnless_getOccupancyAnalytics`;
- `overflowsUnless_getAvailability`, by the grid of the day (`GridInCalendar`);
- `overflowsUnless_createHold`, by the window of the request (`HoldInCalendar`);
- `overflowsUnless_createBooking`, `overflowsUnless_rescheduleBooking`, by the window they validate
  (`BookingInCalendar`).
-/

namespace Coworking

open Foundation

/-! ## §1 Periods of dates -/

/-- `list_bookings`. -/
def Ranged.listBookings (db : Database) (c : Call) (s : Store) (status : Option BookingStatus)
    (dateFrom dateTo : Option Date) (query : PageQuery) :
    Checked ServiceError (ListResponse BookingListItem) :=
  match dateTo with
  | some date => do
    let next ← Ranged.nextDate date
    pure (answer db.bookingOrder serializeBookingListItem
      (s.bookings.rows.filter fun b =>
        b.ListedBy c.user status dateFrom none ∧ b.startTime < utcMidnight next) query)
  | none => pure (Coworking.listBookings db c s status dateFrom none query)

/-- `get_occupancy_analytics`: of its arithmetic, only the end of the period is a date. -/
def Ranged.getOccupancyAnalytics (s : Store) (startDate endDate : Date) :
    Checked ServiceError OccupancyAnalyticsResponse := do
  let _next ← Ranged.nextDate endDate
  pure (Coworking.getOccupancyAnalytics s startDate endDate)

theorem overflowsUnless_listBookings {db : Database} {c : Call} {s : Store}
    {status : Option BookingStatus} {dateFrom dateTo : Option Date} {query : PageQuery} :
    OverflowsUnless (∀ date ∈ dateTo, Date.InCalendar (date + 1))
      (Ranged.listBookings db c s status dateFrom dateTo query)
      (pure (Coworking.listBookings db c s status dateFrom dateTo query)) := by
  cases dateTo with
  | none => exact (OverflowsUnless.pure _).congr (by simp)
  | some date =>
    have hrows : ∀ b : Booking,
        (b.ListedBy c.user status dateFrom none ∧ b.startTime < utcMidnight (date + 1)) ↔
          b.ListedBy c.user status dateFrom (some date) := by
      simp [Booking.ListedBy, and_assoc]
    refine OverflowsUnless.congr (.checked_pure ?_) (by simp)
    simp only [Coworking.listBookings, hrows]

theorem overflowsUnless_getOccupancyAnalytics {s : Store} {startDate endDate : Date} :
    OverflowsUnless (Date.InCalendar (endDate + 1))
      (Ranged.getOccupancyAnalytics s startDate endDate)
      (pure (Coworking.getOccupancyAnalytics s startDate endDate)) :=
  .checked_pure rfl

/-! ## §2 The grid of a day -/

/-! ### Points a duration apart -/

private theorem point_zero (w duration : Int) : w + ((0 : Nat) : Int) * duration = w := by simp

private theorem point_one (w duration : Int) :
    w + ((0 + 1 : Nat) : Int) * duration = w + duration := by simp

private theorem point_succ (w duration : Int) (k : Nat) :
    w + ((k + 1 : Nat) : Int) * duration = w + duration + k * duration := by
  rw [Int.natCast_succ, Int.add_mul, Int.one_mul]
  omega

private theorem point_mono {w duration : Int} (hpos : 0 < duration) {k l : Nat} (hkl : k ≤ l) :
    w + k * duration ≤ w + l * duration :=
  Int.add_le_add_left (Int.mul_le_mul_of_nonneg_right (Int.ofNat_le.mpr hkl) hpos.le) w

private theorem le_point {w duration : Int} (hpos : 0 < duration) (k : Nat) :
    w ≤ w + k * duration :=
  (point_zero w duration).symm.trans_le (point_mono hpos (Nat.zero_le k))

/-! ### The loop -/

/-- The `while` loop of `get_availability`. -/
def Ranged.slotLoop (tz : Zone) (bookings : List Booking) (holds : List Hold)
    (seatId : Option Uuid) (duration : Int) (hpos : 0 < duration)
    (slotEndLimit currentLocal : Int) : Checked ServiceError (List AvailabilitySlot) := do
  -- The end of the slot is computed before it is known to fit.
  let _slotEnd ← Ranged.add currentLocal duration
  if _h : currentLocal + duration ≤ slotEndLimit then
    let _slotStartUtc ← Ranged.toUtc tz currentLocal
    let _slotEndUtc ← Ranged.toUtc tz (currentLocal + duration)
    let slots ← Ranged.slotLoop tz bookings holds seatId duration hpos slotEndLimit
      (currentLocal + duration)
    pure (slotAt tz bookings holds seatId duration currentLocal :: slots)
  else pure []
termination_by (slotEndLimit - currentLocal).toNat
decreasing_by omega

/-- What the loop computes from `w` on: ends of slots, up to the first that does not fit, and the
ends of each slot that does in UTC. -/
structure LoopInCalendar (tz : Zone) (duration slotEndLimit w : Int) : Prop where
  ends : ∀ k : Nat, k = 0 ∨ w + k * duration ≤ slotEndLimit →
    InCalendar (w + (k + 1 : Nat) * duration)
  utc : ∀ k : Nat, w + (k + 1 : Nat) * duration ≤ slotEndLimit →
    InCalendar (tz.toUtc (w + k * duration)) ∧ InCalendar (tz.toUtc (w + (k + 1 : Nat) * duration))

/-- One pass. -/
theorem loopInCalendar_iff {tz : Zone} {duration slotEndLimit w : Int} (hpos : 0 < duration) :
    LoopInCalendar tz duration slotEndLimit w ↔ InCalendar (w + duration) ∧
      (w + duration ≤ slotEndLimit → InCalendar (tz.toUtc w) ∧
        InCalendar (tz.toUtc (w + duration)) ∧
        LoopInCalendar tz duration slotEndLimit (w + duration)) := by
  constructor
  · intro h
    have hend := h.ends 0 (.inl rfl)
    rw [point_one] at hend
    refine ⟨hend, fun hfits => ?_⟩
    obtain ⟨hstart, hstop⟩ := h.utc 0 ((point_one w duration).trans_le hfits)
    rw [point_zero] at hstart
    rw [point_one] at hstop
    -- Pass `k` of the rest is pass `k + 1` of the whole loop.
    refine ⟨hstart, hstop, fun k hk => ?_, fun k hk => ?_⟩
    · rw [← point_succ w duration (k + 1)]
      refine h.ends (k + 1) (.inr ?_)
      rw [point_succ]
      rcases hk with rfl | hk
      · simpa using hfits
      · exact hk
    · rw [← point_succ w duration (k + 1), ← point_succ w duration k]
      exact h.utc (k + 1) ((point_succ w duration (k + 1)).trans_le hk)
  · rintro ⟨hend, hrest⟩
    -- The first end is that of this pass; the later ones are those of the rest.
    refine ⟨fun k hk => ?_, fun k hk => ?_⟩
    · cases k with
      | zero => rwa [point_one]
      | succ k =>
        rw [point_succ] at hk ⊢
        have hk := hk.resolve_left (Nat.succ_ne_zero k)
        exact (hrest ((le_point hpos k).trans hk)).2.2.ends k (.inr hk)
    · cases k with
      | zero =>
        rw [point_one] at hk ⊢
        rw [point_zero]
        exact ⟨(hrest hk).1, (hrest hk).2.1⟩
      | succ k =>
        rw [point_succ] at hk
        rw [point_succ, point_succ]
        exact (hrest ((le_point hpos (k + 1)).trans hk)).2.2.utc k hk

/-- **The loop.** -/
theorem overflowsUnless_slotLoop {tz : Zone} {bookings : List Booking} {holds : List Hold}
    {seatId : Option Uuid} {duration : Int} (hpos : 0 < duration) {slotEndLimit w : Int} :
    OverflowsUnless (LoopInCalendar tz duration slotEndLimit w)
      (Ranged.slotLoop tz bookings holds seatId duration hpos slotEndLimit w)
      (pure (Coworking.slotLoop tz bookings holds seatId duration hpos slotEndLimit w)) := by
  fun_induction Coworking.slotLoop tz bookings holds seatId duration hpos slotEndLimit w with
  | case1 w hfits ih =>
    rw [Ranged.slotLoop]
    refine OverflowsUnless.congr (.checked_bind ?_) (loopInCalendar_iff hpos)
    rw [dif_pos hfits]
    refine OverflowsUnless.congr ?_ (forall_prop_of_true hfits)
    refine .checked_bind (.checked_bind ?_)
    exact ih.bind_pure fun slots => slotAt tz bookings holds seatId duration w :: slots
  | case2 w hfull =>
    rw [Ranged.slotLoop]
    refine OverflowsUnless.congr (.checked_bind ?_) (loopInCalendar_iff hpos)
    rw [dif_neg hfull]
    exact (OverflowsUnless.pure []).congr (by simp [hfull])

/-! ### The day -/

theorem minutes_pos_of_not_short {durationMinutes : Int} (h : ¬ durationMinutes < 15) :
    0 < minutes durationMinutes :=
  Int.mul_pos (by omega) microsPerMinute_pos

/-- `get_availability`. -/
def Ranged.getAvailability (rt : Runtime) (c : Call) (s : Store) (level : BookingLevel)
    (seatId roomId venueId : Option Uuid) (targetDate : Date) (durationMinutes : Int) :
    Checked ServiceError AvailabilityResponse :=
  if hshort : durationMinutes < 15 then
    lift (.error (.availabilityValidation "durationMinutes must be at least 15."))
  else do
    let ctx ← lift (resolveResource s level seatId roomId venueId)
    let bookingRule := resolveBookingRule c.rows s ctx
    lift (raiseIf (∃ rule ∈ bookingRule, durationMinutes < rule.minDurationMinutes)
      (.availabilityValidation "durationMinutes is below the minimum allowed duration."))
    lift (raiseIf (∃ rule ∈ bookingRule, rule.maxDurationMinutes < durationMinutes)
      (.availabilityValidation "durationMinutes exceeds the maximum allowed duration."))
    match resolveOperatingHours s ctx targetDate with
    | none => pure ⟨targetDate, []⟩
    | some (openTime, closeTime) => do
      let tz ← lift (found (rt.zoneInfo ctx.timezone) (.zoneInfo ctx.timezone))
      let localStart := combine targetDate openTime
      let slotEndLimit := combine targetDate closeTime
      let duration ← Ranged.timedelta (minutes durationMinutes)
      let firstEnd ← Ranged.add localStart duration
      if slotEndLimit < firstEnd then pure ⟨targetDate, []⟩
      else do
        let utcRangeStart ← Ranged.toUtc tz localStart
        let utcRangeEnd ← Ranged.toUtc tz slotEndLimit
        let conflicts := loadConflicts (c.now 0) s ctx utcRangeStart utcRangeEnd
        have hpos := minutes_pos_of_not_short hshort
        let slots ← Ranged.slotLoop tz conflicts.1 conflicts.2
          (if ctx.level = .seat then ctx.seatId else none) (minutes durationMinutes) hpos
          slotEndLimit localStart
        pure ⟨targetDate, slots⟩

/-- What `get_availability` computes on a day with opening hours: ends of slots, up to the first
that does not fit; and in UTC, if a slot fits, closing and the points of the grid until then. -/
structure GridInCalendar (tz : Zone) (targetDate : Date) (hours : LocalTime × LocalTime)
    (durationMinutes : Int) : Prop where
  ends : ∀ k : Nat,
    k = 0 ∨ combine targetDate hours.1 + k * minutes durationMinutes ≤ combine targetDate hours.2 →
    InCalendar (combine targetDate hours.1 + (k + 1 : Nat) * minutes durationMinutes)
  utc : combine targetDate hours.1 + minutes durationMinutes ≤ combine targetDate hours.2 →
    InCalendar (tz.toUtc (combine targetDate hours.2)) ∧
    ∀ k : Nat,
      combine targetDate hours.1 + k * minutes durationMinutes ≤ combine targetDate hours.2 →
      InCalendar (tz.toUtc (combine targetDate hours.1 + k * minutes durationMinutes))

/-- The grid, in the order in which it is computed. -/
theorem gridInCalendar_iff {tz : Zone} {targetDate : Date} {hours : LocalTime × LocalTime}
    {durationMinutes : Int} (hpos : 0 < minutes durationMinutes) :
    GridInCalendar tz targetDate hours durationMinutes ↔
      InCalendar (combine targetDate hours.1 + minutes durationMinutes) ∧
      (combine targetDate hours.1 + minutes durationMinutes ≤ combine targetDate hours.2 →
        InCalendar (tz.toUtc (combine targetDate hours.1)) ∧
        InCalendar (tz.toUtc (combine targetDate hours.2)) ∧
        LoopInCalendar tz (minutes durationMinutes) (combine targetDate hours.2)
          (combine targetDate hours.1)) := by
  constructor
  · intro h
    refine ⟨point_one _ _ ▸ h.ends 0 (.inl rfl), fun hfits => ?_⟩
    obtain ⟨hclose, hgrid⟩ := h.utc hfits
    have hopen := hgrid 0 ((point_mono hpos (Nat.zero_le 1)).trans ((point_one _ _).trans_le hfits))
    rw [point_zero] at hopen
    exact ⟨hopen, hclose, h.ends, fun k hk =>
      ⟨hgrid k ((point_mono hpos k.le_succ).trans hk), hgrid (k + 1) hk⟩⟩
  · rintro ⟨hend, hrest⟩
    refine ⟨fun k hk => ?_, fun hfits => ?_⟩
    · rcases hk with rfl | hk
      · exact (point_one _ _).symm ▸ hend
      · cases k with
        | zero => exact (point_one _ _).symm ▸ hend
        | succ k =>
          have hfits := (point_mono hpos (Nat.le_add_left 1 k)).trans hk
          exact (hrest (point_one _ _ ▸ hfits)).2.2.ends (k + 1) (.inr hk)
    · obtain ⟨hopen, hclose, hloop⟩ := hrest hfits
      refine ⟨hclose, fun k hk => ?_⟩
      cases k with
      | zero => exact (point_zero _ _).symm ▸ hopen
      | succ k => exact (hloop.utc k hk).2

/-- Far from the ends of the calendar, the grid is in it. -/
theorem gridInCalendar_of_farFromEnds {tz : Zone} {targetDate : Date}
    {hours : LocalTime × LocalTime} {durationMinutes : Int} (hdate : targetDate.FarFromEnds)
    (htz : tz.WithinADay) (hpos : 0 < minutes durationMinutes)
    (hduration : minutes durationMinutes ≤ century) :
    GridInCalendar tz targetDate hours durationMinutes := by
  obtain ⟨hmin, hmax⟩ := hdate.bounds
  have hlong := microsPerDay_lt_century
  have hopen : @Eq Int (combine targetDate hours.1) (days targetDate + hours.1.micros) := rfl
  have hclose : @Eq Int (combine targetDate hours.2) (days targetDate + hours.2.micros) := rfl
  have hopen₀ := hours.1.nonneg
  have hclose₀ := hours.2.nonneg
  have hclose₁ := hours.2.lt_day
  -- Up to closing, a time of the day is within a day of midnight, and so is its offset.
  have hutc : ∀ w : Int, days targetDate ≤ w → w ≤ combine targetDate hours.2 →
      InCalendar (tz.toUtc w) := by
    intro w hlow hhigh
    obtain ⟨hback, hahead⟩ := htz w
    rw [inCalendar_iff, Zone.toUtc, days_succ]
    constructor
    · omega
    · omega
  refine ⟨fun k hk => ?_, fun hfits => ⟨?_, fun k hk => ?_⟩⟩
  · have hpoint : 0 ≤ (k : Int) * minutes durationMinutes :=
      Int.mul_nonneg (Int.natCast_nonneg k) hpos.le
    have hnext : combine targetDate hours.1 + ((k + 1 : Nat) : Int) * minutes durationMinutes =
        combine targetDate hours.1 + k * minutes durationMinutes + minutes durationMinutes := by
      rw [Int.natCast_succ, Int.add_mul, Int.one_mul, Int.add_assoc]
    rw [inCalendar_iff, hnext, days_succ]
    have hstart : @LT.lt Int _ (combine targetDate hours.1 + k * minutes durationMinutes)
        (days targetDate + microsPerDay) := by
      rcases hk with rfl | hk
      · have hopen₁ := hours.1.lt_day
        rw [point_zero]
        omega
      · have hnight : @LT.lt Int _ (combine targetDate hours.2) (days targetDate + microsPerDay) := by
          omega
        exact hk.trans_lt hnight
    constructor
    · omega
    · omega
  · exact hutc _ (by omega) le_rfl
  · have hpoint := le_point hpos k (w := combine targetDate hours.1)
    exact hutc _ (by omega) hk

theorem overflowsUnless_getAvailability {rt : Runtime} {c : Call} {s : Store}
    {level : BookingLevel} {seatId roomId venueId : Option Uuid} {targetDate : Date}
    {durationMinutes : Int} (hdate : targetDate.InCalendar) :
    OverflowsUnless
      (∀ ctx hours tz, Resolves s level seatId roomId venueId ctx →
        AcceptedDuration c.rows s ctx durationMinutes →
        resolveOperatingHours s ctx targetDate = some hours → rt.zoneInfo ctx.timezone = some tz →
        GridInCalendar tz targetDate hours durationMinutes)
      (Ranged.getAvailability rt c s level seatId roomId venueId targetDate durationMinutes)
      (Coworking.getAvailability rt c s level seatId roomId venueId targetDate
        durationMinutes) := by
  unfold Ranged.getAvailability Coworking.getAvailability
  split
  next hshort =>
    refine (OverflowsUnless.of_lift _).congr (iff_true_intro fun ctx _ _ _ hacc => ?_)
    exact absurd hacc.long (by omega)
  next hlong =>
    have hpos := minutes_pos_of_not_short hlong
    refine OverflowsUnless.congr (.lift_bind fun ctx _ => .guard_bind fun _ => .guard_bind
      (D := ∀ hours tz, resolveOperatingHours s ctx targetDate = some hours →
        rt.zoneInfo ctx.timezone = some tz → GridInCalendar tz targetDate hours durationMinutes)
      fun _ => ?_) ?_
    · cases resolveOperatingHours s ctx targetDate with
      | none => exact (OverflowsUnless.pure _).congr (by simp)
      | some hours =>
        refine OverflowsUnless.congr (.found_bind
          (D := fun tz => GridInCalendar tz targetDate hours durationMinutes) fun tz _ => ?_)
          ⟨fun h tz htz => h hours tz rfl htz, fun h hours' tz hsame htz => ?_⟩
        rotate_left
        · obtain rfl := Option.some.inj hsame
          exact h tz htz
        have hopen : InCalendar (combine targetDate hours.1) := inCalendar_combine.mpr hdate
        -- The end of the first slot is in the calendar only if the duration is a `timedelta`.
        refine OverflowsUnless.congr (.checked_bind (.checked_bind ?_))
          ((gridInCalendar_iff hpos).trans
            (and_iff_right_of_imp fun h => deltaInRange_of_add hopen h.1).symm)
        dsimp only
        by_cases hfull : combine targetDate hours.2 <
            combine targetDate hours.1 + minutes durationMinutes
        · rw [if_pos hfull, if_pos hfull]
          refine (OverflowsUnless.pure _).congr (iff_true_intro fun hfits => ?_)
          exact absurd hfits (not_le.mpr hfull)
        · rw [if_neg hfull, if_neg hfull]
          refine OverflowsUnless.congr (.checked_bind (.checked_bind ?_))
            (forall_prop_of_true (not_lt.mp hfull))
          exact (overflowsUnless_slotLoop hpos).bind_pure (AvailabilityResponse.mk targetDate)
    · simp only [resolveResource_eq_ok, ← duration_guards]
      constructor
      · intro h ctx hres hmin hmax hours tz
        exact h ctx hours tz hres ⟨by omega, hmin, hmax⟩
      · intro h ctx hours tz hres hacc
        exact h ctx hres hacc.2.1 hacc.2.2 hours tz

/-! ## §3 The window of a hold -/

/-- `_ensure_utc`. -/
def Ranged.ensureUtc (value : DateTime) (fieldName : String) : Checked ServiceError Instant := do
  let t ← lift (Coworking.ensureUtc value fieldName)
  checked InCalendar t

/-- The `max_advance_days` check of `create_hold`. -/
def Ranged.checkAdvance (bookingRule : Option BookingRule) (now startTime : Instant) :
    Checked ServiceError Unit :=
  match bookingRule with
  | some rule => do
    let advance ← Ranged.timedelta (days rule.maxAdvanceDays)
    let latest ← Ranged.add now advance
    lift (raiseIf (latest < startTime)
      (.availabilityValidation "Requested interval exceeds the maximum advance booking window."))
  | none => pure ()

/-- `create_hold` up to `session.add`. -/
def Ranged.checkHold (rt : Runtime) (c : Call) (s : Store) (payload : HoldCreateRequest) :
    Checked ServiceError HoldDraft := do
  let startTime ← Ranged.ensureUtc payload.startTime "startTime"
  let endTime ← Ranged.ensureUtc payload.endTime "endTime"
  let now := c.now 0
  lift (raiseIf (endTime ≤ startTime)
    (.availabilityValidation "endTime must be greater than startTime."))
  lift (raiseIf (startTime ≤ now)
    (.availabilityValidation "startTime must be in the future."))
  let ctx ← lift (resolveResource s payload.level payload.seatId payload.roomId payload.venueId)
  let durationMinutes := wholeMinutes (endTime - startTime)
  let bookingRule := resolveBookingRule c.rows s ctx
  lift (raiseIf (∃ rule ∈ bookingRule, durationMinutes < rule.minDurationMinutes)
    (.availabilityValidation "Requested interval is below the minimum allowed duration."))
  lift (raiseIf (∃ rule ∈ bookingRule, rule.maxDurationMinutes < durationMinutes)
    (.availabilityValidation "Requested interval exceeds the maximum allowed duration."))
  Ranged.checkAdvance bookingRule now startTime
  let resourceTz ← lift (found (rt.zoneInfo ctx.timezone) (.zoneInfo ctx.timezone))
  let localStart ← Ranged.toWall resourceTz startTime
  let localEnd ← Ranged.toWall resourceTz endTime
  lift (raiseIf (localStart.date ≠ localEnd.date)
    (.availabilityValidation "Requested interval must fit within a single local day."))
  let operatingHours ← lift (found (resolveOperatingHours s ctx localStart.date)
    (.availabilityValidation "Resource is closed for the selected date."))
  let openAt := combine localStart.date operatingHours.1
  let closeAt := combine localStart.date operatingHours.2
  lift (raiseIf (localStart < openAt ∨ closeAt < localEnd)
    (.availabilityValidation "Requested interval is outside operating hours."))
  let conflicts := loadConflicts (c.now 1) s ctx startTime endTime
  lift (raiseIf (∃ b ∈ conflicts.1, overlaps startTime endTime b.startTime b.endTime)
    (.holdConflict "Requested slot is not available."))
  lift (raiseIf (∃ h ∈ conflicts.2, overlaps startTime endTime h.startTime h.endTime)
    (.holdConflict "Requested slot is already on hold."))
  let ttl ← Ranged.timedelta (seconds (holdTtlSeconds bookingRule))
  let expiry ← Ranged.add now ttl
  pure
    { slot := ctx.slot c.user startTime endTime
      expiresAt := min startTime expiry }

/-- `create_hold`. -/
def Ranged.createHold (rt : Runtime) (c : Call) (s : Store) (payload : HoldCreateRequest) :
    Checked ServiceError (Store × Hold) := do
  let draft ← Ranged.checkHold rt c s payload
  pure (commitHold rt s draft)

/-- What the checks of a window that lies in the future compute, for a resource. -/
structure ChecksInCalendar (rt : Runtime) (c : Call) (s : Store) (ctx : ResourceContext)
    (start stop : Instant) : Prop where
  /-- How far in advance the rule allows to book, once it allows the duration. -/
  advance : ∀ rule, resolveBookingRule c.rows s ctx = some rule →
    rule.minDurationMinutes ≤ wholeMinutes (stop - start) →
    wholeMinutes (stop - start) ≤ rule.maxDurationMinutes →
    InCalendar (c.now 0 + days rule.maxAdvanceDays)
  /-- The window on the local clock, once the rule admits it. -/
  onWall : (∀ rule, resolveBookingRule c.rows s ctx = some rule →
      RuleAdmits rule (c.now 0) start stop) →
    ∀ tz, rt.zoneInfo ctx.timezone = some tz →
      InCalendar (tz.toWall start) ∧ InCalendar (tz.toWall stop)

/-- What `create_hold` computes of a window that lies in the future, for a resource. -/
structure WindowInCalendar (rt : Runtime) (c : Call) (s : Store) (ctx : ResourceContext)
    (start stop : Instant) : Prop extends ChecksInCalendar rt c s ctx start stop where
  /-- The end of the lifetime, once nothing is in the way. -/
  expiry : Admissible rt c.rows s ctx (c.now 0) start stop →
    Unclaimed (c.now 1) s ctx start stop none none →
    InCalendar (c.now 0 + seconds (holdTtlSeconds (resolveBookingRule c.rows s ctx)))

/-- What `create_hold` computes of a request. -/
structure HoldInCalendar (rt : Runtime) (c : Call) (s : Store) (payload : HoldCreateRequest) :
    Prop where
  start : ∀ start, payload.startTime.instant? = some start → InCalendar start
  stop : ∀ start stop, payload.startTime.instant? = some start →
    payload.endTime.instant? = some stop → InCalendar stop
  window : ∀ start stop ctx, payload.startTime.instant? = some start →
    payload.endTime.instant? = some stop → start < stop → c.now 0 < start →
    Resolves s payload.level payload.seatId payload.roomId payload.venueId ctx →
    WindowInCalendar rt c s ctx start stop

theorem overflowsUnless_ensureUtc {value : DateTime} {fieldName : String} :
    OverflowsUnless (∀ t, value.instant? = some t → InCalendar t)
      (Ranged.ensureUtc value fieldName) (Coworking.ensureUtc value fieldName) := by
  unfold Ranged.ensureUtc Coworking.ensureUtc
  cases value.instant? with
  | none => exact ⟨fun _ => rfl, fun h => absurd nofun h⟩
  | some t =>
    refine OverflowsUnless.congr (.checked InCalendar t) ?_
    simp only [Option.some.injEq, forall_eq']

theorem overflowsUnless_checkAdvance {bookingRule : Option BookingRule} {now startTime : Instant}
    (hnow : InCalendar now) :
    OverflowsUnless
      (∀ rule, bookingRule = some rule → InCalendar (now + days rule.maxAdvanceDays))
      (Ranged.checkAdvance bookingRule now startTime)
      (raiseIf (∃ rule ∈ bookingRule, now + days rule.maxAdvanceDays < startTime)
        (.availabilityValidation
          "Requested interval exceeds the maximum advance booking window.")) := by
  cases bookingRule with
  | none => exact (OverflowsUnless.pure ()).congr (by simp)
  | some rule =>
    have hguard : ∀ e : ServiceError,
        raiseIf (∃ r ∈ some rule, now + days r.maxAdvanceDays < startTime) e =
          raiseIf (now + days rule.maxAdvanceDays < startTime) e :=
      raiseIf_congr (by simp)
    rw [hguard]
    refine OverflowsUnless.congr (.checked_bind (.checked_bind (.of_lift _))) ?_
    simp only [Option.some.injEq, forall_eq', and_true]
    exact (and_iff_right_of_imp (deltaInRange_of_add hnow)).symm

/-- What is asked of the rule once it has let the duration through. -/
theorem duration_guarded {rule : Option BookingRule} {duration : Int} {P : BookingRule → Prop} :
    ((¬ ∃ r ∈ rule, duration < r.minDurationMinutes) →
      (¬ ∃ r ∈ rule, r.maxDurationMinutes < duration) → ∀ r, rule = some r → P r) ↔
    ∀ r, rule = some r → r.minDurationMinutes ≤ duration → duration ≤ r.maxDurationMinutes →
      P r := by
  cases rule with
  | none => simp
  | some r => simp only [Option.mem_def, Option.some.injEq, exists_eq_left', not_lt, forall_eq']

/-- The chain of checks. -/
theorem overflowsUnless_checkHold {rt : Runtime} {c : Call} {s : Store}
    {payload : HoldCreateRequest} (hnow : InCalendar (c.now 0)) :
    OverflowsUnless (HoldInCalendar rt c s payload) (Ranged.checkHold rt c s payload)
      (Coworking.checkHold rt c s payload) := by
  unfold Ranged.checkHold Coworking.checkHold
  refine OverflowsUnless.congr
    (.bind overflowsUnless_ensureUtc fun start _ =>
    .bind overflowsUnless_ensureUtc fun stop _ =>
    .guard_bind fun hord => .guard_bind fun hfut =>
    .lift_bind (D := fun ctx => WindowInCalendar rt c s ctx start stop) fun ctx _ =>
    OverflowsUnless.congr
      (.guard_bind fun _ => .guard_bind fun _ =>
      .bind (overflowsUnless_checkAdvance hnow) fun _ _ =>
      .found_bind fun tz _ => .checked_bind (.checked_bind (
      .guard_bind fun _ => .found_bind fun hours _ => .guard_bind fun _ =>
      .guard_bind fun _ => .guard_bind fun _ =>
      .checked_bind (.checked_pure rfl)))) ?_) ?_
  · simp only [raiseIf_eq_ok, forall_const]
    constructor
    · intro h hmin hmax
      refine ⟨duration_guarded.mpr h.advance hmin hmax, fun hadv tz htz => ?_⟩
      have hrule := rule_guards.mp ⟨hmin, hmax, hadv⟩
      obtain ⟨hstart, hstop⟩ := h.onWall hrule tz htz
      refine ⟨hstart, hstop, fun hday hours hhours hopen hb hh => ?_⟩
      have hadm : Admissible rt c.rows s ctx (c.now 0) start stop :=
        ⟨not_le.mp hord, not_le.mp hfut, hrule, tz, htz,
          hours_guards.mp ⟨hday, hours, hhours, hopen⟩⟩
      have hexpiry := h.expiry hadm (conflict_guards.mp ⟨hb, hh⟩)
      exact ⟨deltaInRange_of_add hnow hexpiry, hexpiry⟩
    · intro h
      have hadvance := duration_guarded.mp fun hmin hmax => (h hmin hmax).1
      refine ⟨⟨hadvance, fun hrule tz htz => ?_⟩, fun hadm hfree => ?_⟩
      · obtain ⟨hmin, hmax, hadv⟩ := rule_guards.mpr hrule
        obtain ⟨hstart, hstop, -⟩ := (h hmin hmax).2 hadv tz htz
        exact ⟨hstart, hstop⟩
      · -- An admissible window that is free passes every check before the lifetime is added.
        obtain ⟨hmin, hmax, hadv⟩ := rule_guards.mpr hadm.rule
        obtain ⟨tz, htz, hin⟩ := hadm.hours
        obtain ⟨hday, hours, hhours, hopen⟩ := hours_guards.mpr hin
        obtain ⟨hb, hh⟩ := conflict_guards.mpr hfree
        exact (((h hmin hmax).2 hadv tz htz).2.2 hday hours hhours hopen hb hh).2
  · simp only [ensureUtc_eq_ok, resolveResource_eq_ok, not_le]
    constructor
    · intro h
      exact ⟨h.start, fun start hstart => ⟨fun stop => h.stop start stop hstart,
        fun stop hstop hord hfut ctx => h.window start stop ctx hstart hstop hord hfut⟩⟩
    · rintro ⟨hstart, hrest⟩
      exact ⟨hstart, fun start stop h => (hrest start h).1 stop,
        fun start stop ctx h h' hord hfut => (hrest start h).2 stop h' hord hfut ctx⟩

theorem overflowsUnless_createHold {rt : Runtime} {c : Call} {s : Store}
    {payload : HoldCreateRequest} (hnow : InCalendar (c.now 0)) :
    OverflowsUnless (HoldInCalendar rt c s payload) (Ranged.createHold rt c s payload)
      (Coworking.createHold rt c s payload) :=
  (overflowsUnless_checkHold hnow).bind_pure _

/-! ## §4 The window of a booking -/

/-- `_validate_booking_window`. -/
def Ranged.validateBookingWindow (rt : Runtime) (c : Call) (s : Store) (ctx : ResourceContext)
    (startTime endTime : Instant) : Checked ServiceError (Int × Int × Bool) := do
  let now := c.now 0
  lift (raiseIf (endTime ≤ startTime)
    (.availabilityValidation "endTime must be greater than startTime."))
  lift (raiseIf (startTime ≤ now)
    (.availabilityValidation "startTime must be in the future."))
  let durationMinutes := wholeMinutes (endTime - startTime)
  let bookingRule := resolveBookingRule c.rows s ctx
  lift (raiseIf (∃ rule ∈ bookingRule, durationMinutes < rule.minDurationMinutes)
    (.availabilityValidation "Requested interval is below the minimum allowed duration."))
  lift (raiseIf (∃ rule ∈ bookingRule, rule.maxDurationMinutes < durationMinutes)
    (.availabilityValidation "Requested interval exceeds the maximum allowed duration."))
  Ranged.checkAdvance bookingRule now startTime
  let resourceTz ← lift (found (rt.zoneInfo ctx.timezone) (.zoneInfo ctx.timezone))
  let localStart ← Ranged.toWall resourceTz startTime
  let localEnd ← Ranged.toWall resourceTz endTime
  lift (raiseIf (localStart.date ≠ localEnd.date)
    (.availabilityValidation "Requested interval must fit within a single local day."))
  let operatingHours ← lift (found (resolveOperatingHours s ctx localStart.date)
    (.availabilityValidation "Resource is closed for the selected date."))
  let openAt := combine localStart.date operatingHours.1
  let closeAt := combine localStart.date operatingHours.2
  lift (raiseIf (localStart < openAt ∨ closeAt < localEnd)
    (.availabilityValidation "Requested interval is outside operating hours."))
  pure (durationMinutes, 0, requiresPayment bookingRule)

/-- `create_booking` up to `session.add`. -/
def Ranged.checkBooking (rt : Runtime) (c : Call) (s : Store) (payload : BookingCreateRequest) :
    Checked ServiceError BookingDraft := do
  let startTime ← Ranged.ensureUtc payload.startTime "startTime"
  let endTime ← Ranged.ensureUtc payload.endTime "endTime"
  let ctx ← lift (resolveResource s payload.level payload.seatId payload.roomId payload.venueId)
  let window ← Ranged.validateBookingWindow rt c s ctx startTime endTime
  let hold ← lift (validateHoldId c s payload.holdId startTime endTime ctx)
  let conflicts := loadConflicts (c.now 2) s ctx startTime endTime
  lift (raiseIf (∃ b ∈ conflicts.1, overlaps startTime endTime b.startTime b.endTime)
    (.bookingConflict "Requested slot is not available."))
  let blockingHolds := conflicts.2.filter fun item => some item.id ≠ hold.map (·.id)
  lift (raiseIf (∃ h ∈ blockingHolds, overlaps startTime endTime h.startTime h.endTime)
    (.bookingConflict "Requested slot is already on hold."))
  pure
    { slot := ctx.slot c.user startTime endTime
      holdId := hold.map (·.id)
      status := initialStatus window.2.2
      priceAmountCents := window.2.1
      priceCurrency := "RUB" }

/-- `create_booking`. -/
def Ranged.createBooking (rt : Runtime) (c : Call) (s : Store) (payload : BookingCreateRequest) :
    Checked ServiceError (Store × Booking) := do
  let draft ← Ranged.checkBooking rt c s payload
  pure (commitBooking rt (c.now 3) s draft)

/-- `reschedule_booking` up to its writes. -/
def Ranged.checkReschedule (rt : Runtime) (c : Call) (s : Store) (bookingId : Uuid)
    (payload : BookingWindowUpdateRequest) : Checked ServiceError BookingUpdate := do
  let booking ← lift (found (s.bookingOf? bookingId c.user) (.bookingNotFound "Booking not found."))
  lift (raiseIf (booking.status ≠ .pending ∧ booking.status ≠ .confirmed)
    (.availabilityValidation "Booking cannot be rescheduled in its current state."))
  let startTime ← Ranged.ensureUtc payload.startTime "startTime"
  let endTime ← Ranged.ensureUtc payload.endTime "endTime"
  let kwargs := resourceKwargsForLevel booking.toSlot
  let ctx ← lift (resolveResource s booking.level kwargs.1 kwargs.2.1 kwargs.2.2)
  let window ← Ranged.validateBookingWindow rt c s ctx startTime endTime
  let conflicts := loadConflicts (c.now 2) s ctx startTime endTime
  let blockingBookings := conflicts.1.filter fun item => item.id ≠ booking.id
  lift (raiseIf (∃ b ∈ blockingBookings, overlaps startTime endTime b.startTime b.endTime)
    (.bookingConflict "Requested slot is not available."))
  lift (raiseIf (∃ h ∈ conflicts.2, overlaps startTime endTime h.startTime h.endTime)
    (.bookingConflict "Requested slot is already on hold."))
  pure
    { bookingId
      userId := c.user
      patch :=
        { startTime := dirty booking.startTime startTime
          endTime := dirty booking.endTime endTime
          status := dirty booking.status (initialStatus window.2.2) }
      templateCode := "booking_rescheduled" }

/-- `reschedule_booking`. -/
def Ranged.rescheduleBooking (rt : Runtime) (c : Call) (s : Store) (bookingId : Uuid)
    (payload : BookingWindowUpdateRequest) : Checked ServiceError Store := do
  let update ← Ranged.checkReschedule rt c s bookingId payload
  pure (commitBookingUpdate (c.now 3) s update)

/-- What a request for a booking computes of its window, on a resource. -/
structure BookingInCalendar (rt : Runtime) (c : Call) (s : Store) (startTime endTime : DateTime)
    (resource : ResourceContext → Prop) : Prop where
  start : ∀ start, startTime.instant? = some start → InCalendar start
  stop : ∀ start stop, startTime.instant? = some start → endTime.instant? = some stop →
    InCalendar stop
  window : ∀ start stop ctx, startTime.instant? = some start → endTime.instant? = some stop →
    resource ctx → start < stop → c.now 0 < start → ChecksInCalendar rt c s ctx start stop

section

variable {rt : Runtime} {c : Call} {s : Store}

theorem overflowsUnless_validateBookingWindow {ctx : ResourceContext} {start stop : Instant}
    (hnow : InCalendar (c.now 0)) :
    OverflowsUnless (start < stop → c.now 0 < start → ChecksInCalendar rt c s ctx start stop)
      (Ranged.validateBookingWindow rt c s ctx start stop)
      (Coworking.validateBookingWindow rt c s ctx start stop) := by
  unfold Ranged.validateBookingWindow Coworking.validateBookingWindow
  refine OverflowsUnless.congr
    (.guard_bind fun _ => .guard_bind fun _ => .guard_bind fun _ => .guard_bind fun _ =>
    .bind (overflowsUnless_checkAdvance hnow) fun _ _ =>
    .found_bind fun tz _ => .checked_bind (.checked_bind (
    .guard_bind fun _ => .found_bind fun hours _ => .guard_bind fun _ =>
    .pure _))) ?_
  simp only [raiseIf_eq_ok, forall_const, not_le, implies_true, and_true]
  refine forall_congr' fun _ => forall_congr' fun _ => ⟨?_, ?_⟩
  · intro h hmin hmax
    exact ⟨duration_guarded.mpr h.advance hmin hmax, fun hadv =>
      h.onWall (rule_guards.mp ⟨hmin, hmax, hadv⟩)⟩
  · intro h
    refine ⟨duration_guarded.mp fun hmin hmax => (h hmin hmax).1, fun hrule tz htz => ?_⟩
    obtain ⟨hmin, hmax, hadv⟩ := rule_guards.mpr hrule
    exact (h hmin hmax).2 hadv tz htz

/-- Two datetimes and a resource, in the order in which they are looked at. -/
theorem bookingInCalendar_iff {startTime endTime : DateTime} {resource : ResourceContext → Prop} :
    BookingInCalendar rt c s startTime endTime resource ↔
      (∀ start, startTime.instant? = some start → InCalendar start) ∧
      ∀ start, startTime.instant? = some start →
        (∀ stop, endTime.instant? = some stop → InCalendar stop) ∧
        ∀ stop, endTime.instant? = some stop → ∀ ctx, resource ctx →
          start < stop → c.now 0 < start → ChecksInCalendar rt c s ctx start stop := by
  constructor
  · intro h
    exact ⟨h.start, fun start hstart => ⟨fun stop => h.stop start stop hstart,
      fun stop hstop ctx => h.window start stop ctx hstart hstop⟩⟩
  · rintro ⟨hstart, hrest⟩
    exact ⟨hstart, fun start stop h => (hrest start h).1 stop,
      fun start stop ctx h h' => (hrest start h).2 stop h' ctx⟩

theorem overflowsUnless_createBooking {payload : BookingCreateRequest}
    (hnow : InCalendar (c.now 0)) :
    OverflowsUnless
      (BookingInCalendar rt c s payload.startTime payload.endTime
        (Resolves s payload.level payload.seatId payload.roomId payload.venueId))
      (Ranged.createBooking rt c s payload) (Coworking.createBooking rt c s payload) := by
  refine OverflowsUnless.bind_pure ?_ _
  unfold Ranged.checkBooking Coworking.checkBooking
  refine OverflowsUnless.congr
    (.bind overflowsUnless_ensureUtc fun start _ =>
    .bind overflowsUnless_ensureUtc fun stop _ =>
    .lift_bind (D := fun ctx =>
      start < stop → c.now 0 < start → ChecksInCalendar rt c s ctx start stop) fun ctx _ =>
    OverflowsUnless.congr
      (.bind (D := fun _ => True) (overflowsUnless_validateBookingWindow hnow) fun _ _ =>
      OverflowsUnless.congr (.lift_bind (D := fun _ => True) fun _ _ =>
        .guard_pass (.guard_pass (.pure _))) (by simp)) (by simp)) ?_
  simp only [ensureUtc_eq_ok, resolveResource_eq_ok]
  exact bookingInCalendar_iff

theorem overflowsUnless_rescheduleBooking {bookingId : Uuid} {payload : BookingWindowUpdateRequest}
    (hnow : InCalendar (c.now 0)) :
    OverflowsUnless
      (∀ b, s.bookingOf? bookingId c.user = some b → b.status = .pending ∨ b.status = .confirmed →
        BookingInCalendar rt c s payload.startTime payload.endTime
          (Resolves s b.level (resourceKwargsForLevel b.toSlot).1
            (resourceKwargsForLevel b.toSlot).2.1 (resourceKwargsForLevel b.toSlot).2.2))
      (Ranged.rescheduleBooking rt c s bookingId payload)
      (Coworking.rescheduleBooking rt c s bookingId payload) := by
  refine OverflowsUnless.bind_pure ?_ _
  unfold Ranged.checkReschedule Coworking.checkReschedule
  refine OverflowsUnless.congr
    (.found_bind (D := fun b => ¬ (b.status ≠ .pending ∧ b.status ≠ .confirmed) →
      BookingInCalendar rt c s payload.startTime payload.endTime
        (Resolves s b.level (resourceKwargsForLevel b.toSlot).1
          (resourceKwargsForLevel b.toSlot).2.1 (resourceKwargsForLevel b.toSlot).2.2))
    fun b _ => .guard_bind fun _ => OverflowsUnless.congr
      (.bind overflowsUnless_ensureUtc fun start _ =>
      .bind overflowsUnless_ensureUtc fun stop _ =>
      .lift_bind (D := fun ctx =>
        start < stop → c.now 0 < start → ChecksInCalendar rt c s ctx start stop) fun ctx _ =>
      OverflowsUnless.congr
        (.bind (D := fun _ => True) (overflowsUnless_validateBookingWindow hnow) fun _ _ => ?_)
        (by simp)) ?_) ?_
  · refine .guard_pass (.guard_pass ?_)
    exact .pure _
  · simp only [ensureUtc_eq_ok, resolveResource_eq_ok]
    exact bookingInCalendar_iff
  · simp only [not_and_or, not_not]

end

end Coworking
