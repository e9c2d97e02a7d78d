import Coworking.Services.Ranged
import Coworking.System.Tree

/-!
# Serving a Venue

A venue is served when every request about it is answered, or refused with one of the exceptions
that the routes know.  Its row holds the name of a time zone, which all four services hand to
`ZoneInfo`; `create_venue` takes any text for it.  The rules that are attached to it hold numbers of
days, which three of them add to the current time.

- `VenueRequest`, `Store.Serves`: the requests about a venue, and what to expect of them;
- `raisesOnly_resolveResource`, `raisesOnly_validateBookingWindow`: what the parts can raise;
- `VenueRequest.stays_of_farFromEnds`: what far from the ends of the calendar can still leave it;
- `venue_served_iff`: an accepted venue can be served exactly if its zone loads and its rules stay
  in the calendar;
- `venue_not_served`: accepted venues that cannot be served.
-/

namespace Coworking

open Foundation

variable {rt : Runtime} {c : Call} {s : Store}

/-! ## §1 Requests about a venue -/

inductive VenueRequest
  | getAvailability (level : BookingLevel) (seatId roomId venueId : Option Uuid) (targetDate : Date)
      (durationMinutes : Int)
  | createHold (payload : HoldCreateRequest)
  | createBooking (payload : BookingCreateRequest)
  | rescheduleBooking (bookingId : Uuid) (payload : BookingWindowUpdateRequest)

/-- Whether the request returns, and the exception otherwise. -/
def VenueRequest.outcome (rt : Runtime) (c : Call) (s : Store) :
    VenueRequest → Checked ServiceError Unit
  | .getAvailability level seatId roomId venueId targetDate durationMinutes => do
    let _ ← Ranged.getAvailability rt c s level seatId roomId venueId targetDate durationMinutes
    pure ()
  | .createHold payload => do
    let _ ← Ranged.createHold rt c s payload
    pure ()
  | .createBooking payload => do
    let _ ← Ranged.createBooking rt c s payload
    pure ()
  | .rescheduleBooking bookingId payload => do
    let _ ← Ranged.rescheduleBooking rt c s bookingId payload
    pure ()

/-- The same on a calendar without ends. -/
def VenueRequest.unlimited (rt : Runtime) (c : Call) (s : Store) :
    VenueRequest → Except ServiceError Unit
  | .getAvailability level seatId roomId venueId targetDate durationMinutes => do
    let _ ← Coworking.getAvailability rt c s level seatId roomId venueId targetDate durationMinutes
    pure ()
  | .createHold payload => do
    let _ ← Coworking.createHold rt c s payload
    pure ()
  | .createBooking payload => do
    let _ ← Coworking.createBooking rt c s payload
    pure ()
  | .rescheduleBooking bookingId payload => do
    let _ ← Coworking.rescheduleBooking rt c s bookingId payload
    pure ()

/-- The exceptions of `availability.py`. -/
def ServiceError.ofAvailability : ServiceError → Bool
  | .availabilityValidation _ | .availabilityNotFound _ => true
  | _ => false

/-- The exceptions of `hold.py`. -/
def ServiceError.ofHold : ServiceError → Bool
  | .holdConflict _ | .holdNotFound _ => true
  | _ => false

/-- The exceptions of `booking.py`. -/
def ServiceError.ofBooking : ServiceError → Bool
  | .bookingConflict _ | .bookingNotFound _ => true
  | _ => false

/-- The exception is one of `availability.py`. -/
def FromAvailability (e : ServiceError) : Prop := e.ofAvailability

/-- The exceptions to expect: those of `availability.py` and those of the request's own module. -/
def VenueRequest.Expects (q : VenueRequest) (e : ServiceError) : Prop :=
  FromAvailability e ∨
    match q with
    | .getAvailability .. => False
    | .createHold _ => e.ofHold
    | .createBooking _ | .rescheduleBooking _ _ => e.ofBooking

/-- The resource of the request is the venue or lies in it, if the request resolves. -/
def VenueRequest.On (c : Call) (s : Store) (id : Uuid) : VenueRequest → Prop
  | .getAvailability level seatId roomId venueId _ _ =>
    ∀ ctx, Resolves s level seatId roomId venueId ctx → ctx.venueId = id
  | .createHold p => ∀ ctx, Resolves s p.level p.seatId p.roomId p.venueId ctx → ctx.venueId = id
  | .createBooking p => ∀ ctx, Resolves s p.level p.seatId p.roomId p.venueId ctx → ctx.venueId = id
  | .rescheduleBooking bookingId _ => ∀ b ctx, s.bookingOf? bookingId c.user = some b →
    Resolves s b.level (resourceKwargsForLevel b.toSlot).1 (resourceKwargsForLevel b.toSlot).2.1
      (resourceKwargsForLevel b.toSlot).2.2 ctx → ctx.venueId = id

/-- The times of the request are far from the ends of the calendar, and so is its duration from
the length of the calendar. -/
def VenueRequest.FarFromEnds : VenueRequest → Prop
  | .getAvailability _ _ _ _ targetDate durationMinutes =>
    targetDate.FarFromEnds ∧ minutes durationMinutes ≤ century
  | .createHold p => (∀ t ∈ p.startTime.instant?, Coworking.FarFromEnds t) ∧
    ∀ t ∈ p.endTime.instant?, Coworking.FarFromEnds t
  | .createBooking p => (∀ t ∈ p.startTime.instant?, Coworking.FarFromEnds t) ∧
    ∀ t ∈ p.endTime.instant?, Coworking.FarFromEnds t
  | .rescheduleBooking _ p => (∀ t ∈ p.startTime.instant?, Coworking.FarFromEnds t) ∧
    ∀ t ∈ p.endTime.instant?, Coworking.FarFromEnds t

/-- Every such request about the venue returns or raises an exception that is to be expected. -/
def Store.Serves (rt : Runtime) (c : Call) (s : Store) (venueId : Uuid) : Prop :=
  ∀ q : VenueRequest, q.On c s venueId → q.FarFromEnds →
    RaisesOnly (Raised.Within q.Expects) (q.outcome rt c s)

/-! ## §2 What the parts raise -/

/-- Resolution refuses, whatever the combination of ids. -/
theorem raisesOnly_resolveResource {level : BookingLevel} {seatId roomId venueId : Option Uuid} :
    RaisesOnly FromAvailability (resolveResource s level seatId roomId venueId) := by
  cases level <;> rcases seatId with _ | seatId <;> rcases roomId with _ | roomId <;>
    rcases venueId with _ | venueId
  case seat.some.none.none =>
    refine RaisesOnly.bind (raisesOnly_found fun _ => rfl) fun seat _ => ?_
    refine RaisesOnly.bind (raisesOnly_found fun _ => rfl) fun room _ => ?_
    exact RaisesOnly.bind (raisesOnly_found fun _ => rfl) fun venue _ => raisesOnly_pure _
  case room.none.some.none =>
    refine RaisesOnly.bind (raisesOnly_found fun _ => rfl) fun room _ => ?_
    exact RaisesOnly.bind (raisesOnly_found fun _ => rfl) fun venue _ => raisesOnly_pure _
  case venue.none.none.some =>
    exact RaisesOnly.bind (raisesOnly_found fun _ => rfl) fun venue _ => raisesOnly_pure _
  all_goals
    intro e he
    obtain rfl := Except.error.inj he
    rfl

theorem raisesOnly_ensureUtc {value : DateTime} {fieldName : String} :
    RaisesOnly FromAvailability (ensureUtc value fieldName) :=
  raisesOnly_found fun _ => rfl

/-- A zone that loads does not raise. -/
theorem raisesOnly_zoneInfo {P : ServiceError → Prop} {key : String}
    (hzone : (rt.zoneInfo key).isSome) (e : ServiceError) :
    RaisesOnly P (found (rt.zoneInfo key) e) :=
  raisesOnly_found fun hnone => absurd hzone (by simp [hnone])

/-- The window checks refuse, where the zone of the resource loads. -/
theorem raisesOnly_validateBookingWindow {ctx : ResourceContext} {start stop : Instant}
    (hzone : (rt.zoneInfo ctx.timezone).isSome) :
    RaisesOnly FromAvailability (validateBookingWindow rt c s ctx start stop) := by
  unfold validateBookingWindow
  -- Two guards on the window, three on the rule, then the hours in the zone of the resource.
  refine RaisesOnly.bind (raisesOnly_raiseIf rfl) fun _ _ => ?_
  refine RaisesOnly.bind (raisesOnly_raiseIf rfl) fun _ _ => ?_
  refine RaisesOnly.bind (raisesOnly_raiseIf rfl) fun _ _ => ?_
  refine RaisesOnly.bind (raisesOnly_raiseIf rfl) fun _ _ => ?_
  refine RaisesOnly.bind (raisesOnly_raiseIf rfl) fun _ _ => ?_
  refine RaisesOnly.bind (raisesOnly_zoneInfo hzone _) fun tz _ => ?_
  refine RaisesOnly.bind (raisesOnly_raiseIf rfl) fun _ _ => ?_
  refine RaisesOnly.bind (raisesOnly_found fun _ => rfl) fun hours _ => ?_
  exact RaisesOnly.bind (raisesOnly_raiseIf rfl) fun _ _ => raisesOnly_pure _

theorem raisesOnly_validateHoldId {ctx : ResourceContext} {start stop : Instant}
    (holdId : Option Uuid) :
    RaisesOnly FromAvailability (validateHoldId c s holdId start stop ctx) := by
  cases holdId with
  | none => exact raisesOnly_pure _
  | some id =>
    refine RaisesOnly.bind ?_ fun hold _ => raisesOnly_pure _
    unfold validateHold
    refine RaisesOnly.bind (raisesOnly_found fun _ => rfl) fun hold _ => ?_
    refine RaisesOnly.bind (raisesOnly_raiseIf rfl) fun _ _ => ?_
    refine RaisesOnly.bind (raisesOnly_raiseIf rfl) fun _ _ => ?_
    exact RaisesOnly.bind (raisesOnly_raiseIf rfl) fun _ _ => raisesOnly_pure _

/-! ## §3 What the services raise -/

theorem raisesOnly_getAvailability {level : BookingLevel} {seatId roomId venueId : Option Uuid}
    {targetDate : Date} {durationMinutes : Int}
    (hloads : ∀ ctx, Resolves s level seatId roomId venueId ctx →
      (rt.zoneInfo ctx.timezone).isSome) :
    RaisesOnly FromAvailability
      (getAvailability rt c s level seatId roomId venueId targetDate durationMinutes) := by
  unfold getAvailability
  split
  · intro e he
    obtain rfl := Except.error.inj he
    rfl
  · refine RaisesOnly.bind raisesOnly_resolveResource fun ctx hctx => ?_
    refine RaisesOnly.bind (raisesOnly_raiseIf rfl) fun _ _ => ?_
    refine RaisesOnly.bind (raisesOnly_raiseIf rfl) fun _ _ => ?_
    have hzone := hloads ctx (resolveResource_eq_ok.mp hctx)
    cases resolveOperatingHours s ctx targetDate with
    | none => exact raisesOnly_pure _
    | some hours =>
      refine RaisesOnly.bind (raisesOnly_zoneInfo hzone _) fun tz _ => ?_
      -- What is left builds the grid.
      dsimp only
      split
      · exact raisesOnly_pure _
      · exact raisesOnly_pure _

theorem raisesOnly_createHold {payload : HoldCreateRequest}
    (hloads : ∀ ctx, Resolves s payload.level payload.seatId payload.roomId payload.venueId ctx →
      (rt.zoneInfo ctx.timezone).isSome) :
    RaisesOnly (VenueRequest.createHold payload).Expects (createHold rt c s payload) := by
  have havail : ∀ e, FromAvailability e → (VenueRequest.createHold payload).Expects e :=
    fun _ => .inl
  unfold createHold
  refine RaisesOnly.bind ?_ fun d _ => raisesOnly_pure _
  unfold checkHold
  refine RaisesOnly.bind (raisesOnly_ensureUtc.mono havail) fun start _ => ?_
  refine RaisesOnly.bind (raisesOnly_ensureUtc.mono havail) fun stop _ => ?_
  refine RaisesOnly.bind (raisesOnly_raiseIf (.inl rfl)) fun _ _ => ?_
  refine RaisesOnly.bind (raisesOnly_raiseIf (.inl rfl)) fun _ _ => ?_
  refine RaisesOnly.bind (raisesOnly_resolveResource.mono havail) fun ctx hctx => ?_
  refine RaisesOnly.bind (raisesOnly_raiseIf (.inl rfl)) fun _ _ => ?_
  refine RaisesOnly.bind (raisesOnly_raiseIf (.inl rfl)) fun _ _ => ?_
  refine RaisesOnly.bind (raisesOnly_raiseIf (.inl rfl)) fun _ _ => ?_
  have hzone := hloads ctx (resolveResource_eq_ok.mp hctx)
  refine RaisesOnly.bind (raisesOnly_zoneInfo hzone _) fun tz _ => ?_
  refine RaisesOnly.bind (raisesOnly_raiseIf (.inl rfl)) fun _ _ => ?_
  refine RaisesOnly.bind (raisesOnly_found fun _ => .inl rfl) fun hours _ => ?_
  refine RaisesOnly.bind (raisesOnly_raiseIf (.inl rfl)) fun _ _ => ?_
  -- The last two guards raise conflicts.
  refine RaisesOnly.bind (raisesOnly_raiseIf (.inr rfl)) fun _ _ => ?_
  exact RaisesOnly.bind (raisesOnly_raiseIf (.inr rfl)) fun _ _ => raisesOnly_pure _

theorem raisesOnly_createBooking {payload : BookingCreateRequest}
    (hloads : ∀ ctx, Resolves s payload.level payload.seatId payload.roomId payload.venueId ctx →
      (rt.zoneInfo ctx.timezone).isSome) :
    RaisesOnly (VenueRequest.createBooking payload).Expects (createBooking rt c s payload) := by
  have havail : ∀ e, FromAvailability e → (VenueRequest.createBooking payload).Expects e :=
    fun _ => .inl
  unfold createBooking
  refine RaisesOnly.bind ?_ fun d _ => raisesOnly_pure _
  unfold checkBooking
  refine RaisesOnly.bind (raisesOnly_ensureUtc.mono havail) fun start _ => ?_
  refine RaisesOnly.bind (raisesOnly_ensureUtc.mono havail) fun stop _ => ?_
  refine RaisesOnly.bind (raisesOnly_resolveResource.mono havail) fun ctx hctx => ?_
  have hzone := hloads ctx (resolveResource_eq_ok.mp hctx)
  refine RaisesOnly.bind ((raisesOnly_validateBookingWindow hzone).mono havail) fun _ _ => ?_
  refine RaisesOnly.bind ((raisesOnly_validateHoldId _).mono havail) fun hold _ => ?_
  -- Bookings in the way, then holds of others in the way.
  refine RaisesOnly.bind (raisesOnly_raiseIf (.inr rfl)) fun _ _ => ?_
  exact RaisesOnly.bind (raisesOnly_raiseIf (.inr rfl)) fun _ _ => raisesOnly_pure _

theorem raisesOnly_rescheduleBooking {bookingId : Uuid} {payload : BookingWindowUpdateRequest}
    (hloads : ∀ b ctx, s.bookingOf? bookingId c.user = some b →
      Resolves s b.level (resourceKwargsForLevel b.toSlot).1 (resourceKwargsForLevel b.toSlot).2.1
        (resourceKwargsForLevel b.toSlot).2.2 ctx → (rt.zoneInfo ctx.timezone).isSome) :
    RaisesOnly (VenueRequest.rescheduleBooking bookingId payload).Expects
      (rescheduleBooking rt c s bookingId payload) := by
  have havail : ∀ e, FromAvailability e →
      (VenueRequest.rescheduleBooking bookingId payload).Expects e := fun _ => .inl
  unfold rescheduleBooking
  refine RaisesOnly.bind ?_ fun u _ => raisesOnly_pure _
  unfold checkReschedule
  refine RaisesOnly.bind (raisesOnly_found fun _ => .inr rfl) fun b hb => ?_
  refine RaisesOnly.bind (raisesOnly_raiseIf (.inl rfl)) fun _ _ => ?_
  refine RaisesOnly.bind (raisesOnly_ensureUtc.mono havail) fun start _ => ?_
  refine RaisesOnly.bind (raisesOnly_ensureUtc.mono havail) fun stop _ => ?_
  refine RaisesOnly.bind (raisesOnly_resolveResource.mono havail) fun ctx hctx => ?_
  have hzone := hloads b ctx ((found_eq_ok _ _ _).mp hb) (resolveResource_eq_ok.mp hctx)
  refine RaisesOnly.bind ((raisesOnly_validateBookingWindow hzone).mono havail) fun _ _ => ?_
  refine RaisesOnly.bind (raisesOnly_raiseIf (.inr rfl)) fun _ _ => ?_
  exact RaisesOnly.bind (raisesOnly_raiseIf (.inr rfl)) fun _ _ => raisesOnly_pure _

/-- Without the ends of the calendar, a venue whose zone loads is served. -/
theorem VenueRequest.raisesOnly_unlimited {id : Uuid} {venue : Venue} {q : VenueRequest}
    (hvenue : s.venue? id = some venue) (hzone : (rt.zoneInfo venue.timezone).isSome)
    (hon : q.On c s id) : RaisesOnly q.Expects (q.unlimited rt c s) := by
  -- A request about the venue loads the zone of the venue.
  have hloads : ∀ {level seatId roomId venueId ctx}, Resolves s level seatId roomId venueId ctx →
      ctx.venueId = id → (rt.zoneInfo ctx.timezone).isSome := by
    intro _ _ _ _ ctx hres hid
    obtain ⟨venue', hvenue', htz⟩ := hres.timezone
    rw [hid, hvenue, Option.some.injEq] at hvenue'
    rw [htz, ← hvenue']
    exact hzone
  cases q with
  | getAvailability =>
    refine RaisesOnly.bind (RaisesOnly.mono (raisesOnly_getAvailability ?_) fun _ => .inl)
      fun _ _ => raisesOnly_pure ()
    exact fun ctx hres => hloads hres (hon ctx hres)
  | createHold =>
    exact RaisesOnly.bind (raisesOnly_createHold fun ctx hres => hloads hres (hon ctx hres))
      fun _ _ => raisesOnly_pure ()
  | createBooking =>
    exact RaisesOnly.bind (raisesOnly_createBooking fun ctx hres => hloads hres (hon ctx hres))
      fun _ _ => raisesOnly_pure ()
  | rescheduleBooking =>
    exact RaisesOnly.bind (raisesOnly_rescheduleBooking fun b ctx hb hres =>
      hloads hres (hon b ctx hb hres)) fun _ _ => raisesOnly_pure ()

/-! ## §4 Python's calendar -/

/-- What the request computes stays in the calendar. -/
def VenueRequest.StaysInCalendar (rt : Runtime) (c : Call) (s : Store) : VenueRequest → Prop
  | .getAvailability level seatId roomId venueId targetDate durationMinutes =>
    ∀ ctx hours tz, Resolves s level seatId roomId venueId ctx →
      AcceptedDuration c.rows s ctx durationMinutes →
      resolveOperatingHours s ctx targetDate = some hours → rt.zoneInfo ctx.timezone = some tz →
      GridInCalendar tz targetDate hours durationMinutes
  | .createHold payload => HoldInCalendar rt c s payload
  | .createBooking p => BookingInCalendar rt c s p.startTime p.endTime
      (Resolves s p.level p.seatId p.roomId p.venueId)
  | .rescheduleBooking bookingId p => ∀ b, s.bookingOf? bookingId c.user = some b →
      b.status = .pending ∨ b.status = .confirmed →
      BookingInCalendar rt c s p.startTime p.endTime
        (Resolves s b.level (resourceKwargsForLevel b.toSlot).1
          (resourceKwargsForLevel b.toSlot).2.1 (resourceKwargsForLevel b.toSlot).2.2)

theorem VenueRequest.overflowsUnless {q : VenueRequest} (hnow : InCalendar (c.now 0))
    (hq : q.FarFromEnds) :
    OverflowsUnless (q.StaysInCalendar rt c s) (q.outcome rt c s) (q.unlimited rt c s) := by
  cases q with
  | getAvailability => exact (overflowsUnless_getAvailability hq.1.inCalendar).bind_pure _
  | createHold => exact (overflowsUnless_createHold hnow).bind_pure _
  | createBooking => exact (overflowsUnless_createBooking hnow).bind_pure _
  | rescheduleBooking => exact (overflowsUnless_rescheduleBooking hnow).bind_pure _

/-- The zones that load have offsets of less than a day. -/
structure Runtime.OffsetsWithinADay (rt : Runtime) : Prop where
  ofWall : ∀ key tz, rt.zoneInfo key = some tz → tz.WithinADay
  ofInstant : ∀ key tz t, rt.zoneInfo key = some tz →
    -microsPerDay < tz.offsetAt t ∧ tz.offsetAt t < microsPerDay

/-- The numbers of the rule fit their columns. -/
structure BookingRule.FitsColumns (rule : BookingRule) : Prop where
  minDurationMinutes : fitsInteger rule.minDurationMinutes
  maxDurationMinutes : fitsInteger rule.maxDurationMinutes
  maxAdvanceDays : fitsInteger rule.maxAdvanceDays
  cancellationDeadlineMinutes : fitsInteger rule.cancellationDeadlineMinutes
  holdTtlSeconds : fitsInteger rule.holdTtlSeconds
  checkinOpenBeforeMinutes : fitsInteger rule.checkinOpenBeforeMinutes
  geoRadiusMeters : fitsInteger rule.geoRadiusMeters

/-- The rule is one of the venue, or of a room. -/
def BookingRule.Binds (rule : BookingRule) (venueId : Uuid) : Prop :=
  rule.venueId = some venueId ∨ rule.roomId ≠ none

/-- There is a window, far from the ends of the calendar, of a duration that the rule admits. -/
def BookingRule.AdmitsDuration (rule : BookingRule) (now : Instant) : Prop :=
  ∃ start stop, FarFromEnds start ∧ FarFromEnds stop ∧ now < start ∧ start < stop ∧
    rule.minDurationMinutes ≤ wholeMinutes (stop - start) ∧
    wholeMinutes (stop - start) ≤ rule.maxDurationMinutes

/-- As far in advance as the rules of the venue allow to book, there is a calendar. -/
def RulesInCalendar (now : Instant) (venueId : Uuid) (rules : BookingRule → Prop) : Prop :=
  ∀ rule, rules rule → rule.Binds venueId → rule.AdmitsDuration now →
    InCalendar (now + days rule.maxAdvanceDays)

/-- The enforced rule is one of the venue, or of a room. -/
theorem binds_of_resolveBookingRule {rows : RowChoice} {ctx : ResourceContext} {rule : BookingRule}
    (h : resolveBookingRule rows s ctx = some rule) : rule.Binds ctx.venueId := by
  have hpick : ∀ p : BookingRule → Bool, rows.pick (s.bookingRules.rows.filter p) = some rule →
      p rule := fun p hp => (List.mem_filter.mp (rows.pick_mem hp)).2
  have hroom : ∀ roomId, rows.pick (s.bookingRules.rows.filter (·.roomId = some roomId)) =
      some rule → rule.Binds ctx.venueId := by
    intro roomId hp
    have hid : rule.roomId = some roomId := of_decide_eq_true (hpick _ hp)
    exact .inr (by simp [hid])
  simp only [resolveBookingRule] at h
  split at h
  next rule' hroomRule =>
    obtain rfl := Option.some.inj h
    split at hroomRule
    · exact hroom _ hroomRule
    · exact hroom _ hroomRule
    · cases hroomRule
  next => exact .inl (of_decide_eq_true (hpick _ h))

/-- A lifetime that fits its column is shorter than a century. -/
theorem holdTtlSeconds_in_century {rule : Option BookingRule}
    (hcolumns : ∀ r, rule = some r → r.FitsColumns) :
    -century ≤ seconds (holdTtlSeconds rule) ∧ seconds (holdTtlSeconds rule) ≤ century := by
  cases rule with
  | none => decide
  | some r =>
    have hfits := (hcolumns r rfl).holdTtlSeconds
    simp only [fitsInteger, decide_eq_true_eq] at hfits
    have hcentury : century = 3155760000 * 1000000 := by decide
    have hseconds : seconds (holdTtlSeconds (some r)) = r.holdTtlSeconds * 1000000 := rfl
    rw [hcentury, hseconds]
    constructor
    · omega
    · omega

section

variable {venueId : Uuid} {ctx : ResourceContext} {start stop : Instant}

theorem checksInCalendar_of_farFromEnds (hoffsets : rt.OffsetsWithinADay)
    (hrules : RulesInCalendar (c.now 0) ctx.venueId (· ∈ s.bookingRules))
    (hstart : FarFromEnds start) (hstop : FarFromEnds stop) (hord : start < stop)
    (hfut : c.now 0 < start) : ChecksInCalendar rt c s ctx start stop := by
  refine ⟨fun rule hrule hmin hmax => ?_, fun _ tz htz => ?_⟩
  · exact hrules rule (mem_of_resolveBookingRule hrule) (binds_of_resolveBookingRule hrule)
      ⟨start, stop, hstart, hstop, hfut, hord, hmin, hmax⟩
  · have hlong := microsPerDay_lt_century
    have hwall : ∀ t, FarFromEnds t → InCalendar (tz.toWall t) := by
      intro t ht
      obtain ⟨hback, hahead⟩ := hoffsets.ofInstant _ tz t htz
      exact ht.add (by omega) (by omega)
    exact ⟨hwall start hstart, hwall stop hstop⟩

/-- **Far from the ends of the calendar**, only a rule leads out of it. -/
theorem VenueRequest.stays_of_farFromEnds {q : VenueRequest} (hoffsets : rt.OffsetsWithinADay)
    (hcolumns : ∀ rule ∈ s.bookingRules, rule.FitsColumns)
    (hrules : RulesInCalendar (c.now 0) venueId (· ∈ s.bookingRules))
    (hnow : Coworking.FarFromEnds (c.now 0)) (hon : q.On c s venueId) (hq : q.FarFromEnds) :
    q.StaysInCalendar rt c s := by
  cases q with
  | getAvailability =>
    intro ctx hours tz hres hacc _ htz
    exact gridInCalendar_of_farFromEnds hq.1 (hoffsets.ofWall _ tz htz) hacc.minutes_pos hq.2
  | createHold payload =>
    refine ⟨fun start h => (hq.1 start h).inCalendar, fun _ stop _ h => (hq.2 stop h).inCalendar,
      fun start stop ctx hstart hstop hord hfut hres => ⟨?_, fun _ _ => ?_⟩⟩
    · obtain rfl := hon ctx hres
      exact checksInCalendar_of_farFromEnds hoffsets hrules (hq.1 start hstart) (hq.2 stop hstop)
        hord hfut
    · obtain ⟨hlow, hhigh⟩ := holdTtlSeconds_in_century fun rule hrule =>
        hcolumns rule (mem_of_resolveBookingRule hrule)
      exact hnow.add hlow hhigh
  | createBooking payload =>
    refine ⟨fun start h => (hq.1 start h).inCalendar, fun _ stop _ h => (hq.2 stop h).inCalendar,
      fun start stop ctx hstart hstop hres hord hfut => ?_⟩
    obtain rfl := hon ctx hres
    exact checksInCalendar_of_farFromEnds hoffsets hrules (hq.1 start hstart) (hq.2 stop hstop)
      hord hfut
  | rescheduleBooking bookingId payload =>
    intro b hb _
    refine ⟨fun start h => (hq.1 start h).inCalendar, fun _ stop _ h => (hq.2 stop h).inCalendar,
      fun start stop ctx hstart hstop hres hord hfut => ?_⟩
    obtain rfl := hon b ctx hb hres
    exact checksInCalendar_of_farFromEnds hoffsets hrules (hq.1 start hstart) (hq.2 stop hstop)
      hord hfut

end

/-- A venue whose zone loads is served under rules that stay in the calendar. -/
theorem serves_of_zoneInfo {id : Uuid} {venue : Venue} (hoffsets : rt.OffsetsWithinADay)
    (hcolumns : ∀ rule ∈ s.bookingRules, rule.FitsColumns)
    (hrules : RulesInCalendar (c.now 0) id (· ∈ s.bookingRules)) (hnow : FarFromEnds (c.now 0))
    (hvenue : s.venue? id = some venue) (hzone : (rt.zoneInfo venue.timezone).isSome) :
    s.Serves rt c id := by
  intro q hon hq
  have hcalendar := q.stays_of_farFromEnds hoffsets hcolumns hrules hnow hon hq
  exact ((VenueRequest.overflowsUnless hnow.inCalendar hq).raisesOnly_iff
    (VenueRequest.raisesOnly_unlimited hvenue hzone hon)).mpr hcalendar

/-! ## §5 Accepted venues -/

/-- The venue of an accepted payload is stored, with the time zone of the payload. -/
theorem createVenue_venue {s₁ : Store} {venue : Venue} {payload : VenueCreate}
    (h : createVenue rt s payload = .ok (s₁, venue)) :
    s₁.venue? venue.id = some venue ∧ venue.timezone = payload.timezone := by
  constructor
  · obtain ⟨-, hnew, features, featureLinks, hs⟩ := createVenue_eq_ok h
    have hvenues : s₁.venues = s.venues.insert venue hnew := congrArg Store.venues hs
    rw [Store.venue?, hvenues]
    exact Table.get?_of_mem (Table.mem_insert.mpr (.inr rfl))
  · simp only [createVenue, bind_eq_ok, raiseIf_eq_ok, pure_eq_ok, exists_const, Prod.mk.injEq] at h
    rcases h with ⟨-, _, -, -, rfl⟩
    rfl

/-- A venue without booking rules whose zone does not load has no list of free slots. -/
theorem getAvailability_of_zoneInfo_none {id : Uuid} {venue : Venue} (targetDate : Date)
    (hvenue : s.venue? id = some venue) (hrules : s.bookingRules = .empty)
    (hzone : rt.zoneInfo venue.timezone = none) :
    getAvailability rt c s .venue none none (some id) targetDate 60 =
      .error (.zoneInfo venue.timezone) := by
  have hrule : ∀ ctx, resolveBookingRule c.rows s ctx = none := by
    intro ctx
    cases hctx : resolveBookingRule c.rows s ctx with
    | none => rfl
    | some rule =>
      have hmem := mem_of_resolveBookingRule hctx
      rw [hrules, Table.mem_empty] at hmem
      exact hmem.elim
  have hctx := resolveResource_eq_ok.mpr (Resolves.venue hvenue)
  have hguard : ∀ p : BookingRule → Prop, ¬ ∃ rule ∈ (none : Option BookingRule), p rule := by simp
  unfold getAvailability
  rw [dif_neg (by decide), hctx, ok_bind]
  dsimp only
  rw [hrule, raiseIf_of_not (hguard _), ok_bind, raiseIf_of_not (hguard _), ok_bind]
  -- A venue has no hours of its own, so the zone is the next thing that is looked up.
  simp only [resolveOperatingHours, hzone]
  rfl

/-- If the venue is served without rules, its zone loads. -/
theorem zoneInfo_of_serves {id : Uuid} {venue : Venue} (hnow : FarFromEnds (c.now 0))
    (hvenue : s.venue? id = some venue) (hempty : s.bookingRules = .empty)
    (hserves : s.Serves rt c id) : (rt.zoneInfo venue.timezone).isSome := by
  by_contra hzone
  rw [Option.not_isSome_iff_eq_none] at hzone
  have hon : (VenueRequest.getAvailability .venue none none (some id) 0 60).On c s id := by
    intro ctx hres
    cases hres with
    | venue hvenue' => exact Store.venue?_id hvenue'
  have hfar : (VenueRequest.getAvailability .venue none none (some id) 0 60).FarFromEnds := by
    constructor
    · show Date.FarFromEnds 0
      decide
    · decide
  -- Without a zone, nothing is computed that could leave the calendar.
  have hcalendar : (VenueRequest.getAvailability .venue none none (some id) 0 60).StaysInCalendar
      rt c s := by
    intro ctx hours tz hres _ _ htz
    cases hres with
    | venue hvenue' =>
      obtain rfl := Option.mem_unique hvenue hvenue'
      rw [hzone] at htz
      cases htz
  have herror := getAvailability_of_zoneInfo_none 0 hvenue hempty hzone (c := c)
  have houtcome := (VenueRequest.overflowsUnless hnow.inCalendar hfar).agrees hcalendar
  rw [VenueRequest.unlimited, herror] at houtcome
  exact (hserves _ hon hfar _ houtcome).elim nofun fun h => h

/-- A rule in force for a resource of the venue, and a window of a duration that it admits. -/
theorem inCalendar_of_serves {id : Uuid} {venue : Venue} {rule : BookingRule} {roomId : Option Uuid}
    {level : BookingLevel} {venueId : Option Uuid} {ctx : ResourceContext}
    (hnow : FarFromEnds (c.now 0)) (hvenue : s.venue? id = some venue)
    (hzone : (rt.zoneInfo venue.timezone).isSome)
    (hres : Resolves s level none roomId venueId ctx) (hid : ctx.venueId = id)
    (hrule : resolveBookingRule c.rows s ctx = some rule) (hadmits : rule.AdmitsDuration (c.now 0))
    (hserves : s.Serves rt c id) : InCalendar (c.now 0 + days rule.maxAdvanceDays) := by
  obtain ⟨start, stop, hstart, hstop, hfut, hord, hmin, hmax⟩ := hadmits
  let payload : HoldCreateRequest := ⟨level, none, roomId, venueId, .ofInstant start, .ofInstant stop⟩
  have hon : (VenueRequest.createHold payload).On c s id := fun ctx' hres' =>
    (hres'.unique hres) ▸ hid
  have hfar : (VenueRequest.createHold payload).FarFromEnds := by
    simpa [VenueRequest.FarFromEnds, payload] using ⟨hstart, hstop⟩
  have hcalendar : HoldInCalendar rt c s payload :=
    ((VenueRequest.overflowsUnless hnow.inCalendar hfar).raisesOnly_iff
      (VenueRequest.raisesOnly_unlimited hvenue hzone hon)).mp (hserves _ hon hfar)
  exact (hcalendar.window start stop ctx (DateTime.instant?_ofInstant start)
    (DateTime.instant?_ofInstant stop) hord hfut hres).advance rule hrule hmin hmax

/-- **Which venues can be served.**  A venue that `create_venue` accepted is served in every store
that has it, whatever else is stored and whichever of some rules are attached, if and only if its
time zone is one that `ZoneInfo` loads, and for each of these rules that admits a duration, now and
its `max_advance_days` add up to a date of the calendar. -/
theorem venue_served_iff {s₀ s₁ : Store} {venue : Venue} {payload : VenueCreate}
    {rules : BookingRule → Prop} (hoffsets : rt.OffsetsWithinADay)
    (hcolumns : ∀ rule, rules rule → rule.FitsColumns) (hnow : FarFromEnds (c.now 0))
    (h : createVenue rt s₀ payload = .ok (s₁, venue)) :
    (∀ s : Store, s.venue? venue.id = some venue → (∀ rule ∈ s.bookingRules, rules rule) →
      s.Serves rt c venue.id) ↔
    (rt.zoneInfo payload.timezone).isSome ∧ RulesInCalendar (c.now 0) venue.id rules := by
  obtain ⟨hstored, htz⟩ := createVenue_venue h
  rw [← htz]
  constructor
  · intro hserves
    -- The new venue, without any rules.
    have hzone : (rt.zoneInfo venue.timezone).isSome := by
      refine zoneInfo_of_serves (s := { s₁ with bookingRules := .empty }) hnow hstored rfl ?_
      exact hserves _ hstored fun rule hrule => ((Table.mem_empty rule).mp hrule).elim
    refine ⟨hzone, fun rule hrule hbinds hadmits => ?_⟩
    have honly : ∀ r ∈ (⟨[rule], List.nodup_singleton _⟩ : Table BookingRule), rules r := by
      intro r hr
      rw [List.mem_singleton.mp hr]
      exact hrule
    rcases hbinds with hvenueId | hroomId
    · -- With the rule for the venue.
      have hvenue : ({ s₁ with bookingRules := ⟨[rule], List.nodup_singleton _⟩ } : Store).venue?
          venue.id = some venue := hstored
      refine inCalendar_of_serves hnow hvenue hzone (.venue hvenue) rfl ?_ hadmits
        (hserves _ hvenue honly)
      simp [resolveBookingRule, hvenueId, RowChoice.pick_singleton]
    · -- With a room of the venue, and the rule for it.
      obtain ⟨roomId, hroomId⟩ := Option.ne_none_iff_exists'.mp hroomId
      let room : Room := ⟨roomId, venue.id, "", false, none, none⟩
      let s : Store :=
        { s₁ with
          rooms := ⟨[room], List.nodup_singleton _⟩
          bookingRules := ⟨[rule], List.nodup_singleton _⟩ }
      have hvenue : s.venue? venue.id = some venue := hstored
      have hmem : room ∈ s.rooms := List.mem_singleton_self room
      have hroom : s.room? roomId = some room := Table.get?_of_mem hmem
      refine inCalendar_of_serves hnow hvenue hzone (.room hroom hvenue) rfl ?_ hadmits
        (hserves s hvenue honly)
      simp [resolveBookingRule, s, room, hroomId, RowChoice.pick_singleton]
  · rintro ⟨hzone, hrules⟩ s hvenue honly
    exact serves_of_zoneInfo hoffsets (fun rule hrule => hcolumns rule (honly rule hrule))
      (fun rule hrule => hrules rule (honly rule hrule)) hnow hvenue hzone

/-- A venue to create, in the time zone of that name. -/
def annex (timezone : String) : VenueCreate :=
  ⟨"Annex", by decide, "Street 2", by decide, timezone, []⟩

/-- A rule for venue 2 under which bookings can be made that many days in advance. -/
def advanceRule (maxAdvanceDays : Int) : BookingRule :=
  ⟨9, some 2, none, 15, 480, maxAdvanceDays, 60, false, 900, 30, 150, 0⟩

theorem plain_offsetsWithinADay : Runtime.plain.OffsetsWithinADay := by
  have hutc : -microsPerDay < 0 ∧ 0 < microsPerDay := by decide
  have hzone : ∀ key tz, Runtime.plain.zoneInfo key = some tz → Zone.utc = tz := by
    intro key tz h
    simp only [Runtime.plain] at h
    split at h
    · exact Option.some.inj h
    · cases h
  exact ⟨fun key tz h => hzone key tz h ▸ fun _ => hutc, fun key tz t h => hzone key tz h ▸ hutc⟩

theorem venue_served_iff_utc : ∃ r, createVenue .plain smallStore (annex "UTC") = .ok r ∧
    ({ r.1 with bookingRules := ⟨[advanceRule 30], List.nodup_singleton _⟩ } : Store).Serves .plain
      (.plain 7 0) r.2.id := by
  have hr : createVenue .plain smallStore (annex "UTC") = .ok _ := rfl
  have hcolumns : ∀ rule, rule = advanceRule 30 → rule.FitsColumns := by
    rintro _ rfl
    constructor <;> decide
  have hnow : FarFromEnds ((Call.plain 7 0).now 0) := by decide
  have hrules : RulesInCalendar ((Call.plain 7 0).now 0) 2 (· = advanceRule 30) := by
    rintro _ rfl - -
    show InCalendar (0 + days 30)
    decide
  refine ⟨_, hr, (venue_served_iff plain_offsetsWithinADay hcolumns hnow hr).mpr ⟨rfl, hrules⟩ _
    (createVenue_venue hr).1 fun rule hrule => ?_⟩
  exact List.mem_singleton.mp hrule

/-- The annex from ten to eleven. -/
def annexAtTen : HoldCreateRequest :=
  ⟨.venue, none, none, some 2, .ofInstant (minutes 600), .ofInstant (minutes 660)⟩

/-- A venue with a misspelt time zone is accepted, and then its free slots cannot be listed.  And
under a rule for three million days, no hold of a venue can be asked for. -/
theorem venue_not_served :
    (∃ r, createVenue .plain smallStore (annex "Europe/Mosow") = .ok r ∧
      Ranged.getAvailability .plain (.plain 7 0) r.1 .venue none none (some r.2.id) 0 60 =
        .error (.error (.zoneInfo "Europe/Mosow")) ∧ ¬ r.1.Serves .plain (.plain 7 0) r.2.id) ∧
    ∃ r s, createVenue .plain smallStore (annex "UTC") = .ok r ∧ s.venue? r.2.id = some r.2 ∧
      s.bookingRules.rows = [advanceRule 3000000] ∧ (advanceRule 3000000).FitsColumns ∧
      Ranged.createHold .plain (.plain 7 0) s annexAtTen = .error .overflow ∧
      ¬ s.Serves .plain (.plain 7 0) r.2.id := by
  have hon : ∀ s : Store, (VenueRequest.getAvailability .venue none none (some 2) 0 60).On
      (.plain 7 0) s 2 ∧ (VenueRequest.createHold annexAtTen).On (.plain 7 0) s 2 := by
    intro s
    constructor
    all_goals
      intro ctx hres
      cases hres with
      | venue hvenue => exact Store.venue?_id hvenue
  constructor
  · refine ⟨_, rfl, rfl, fun hserves => ?_⟩
    have hfar : Date.FarFromEnds 0 ∧ minutes 60 ≤ century := by decide
    have hexpected := hserves _ (hon _).1 hfar (.error (.zoneInfo "Europe/Mosow")) rfl
    exact hexpected.elim nofun fun h => h
  · refine ⟨_, { (replay .plain smallStore [⟨.plain 7 0, .createVenue (annex "UTC")⟩]) with
        bookingRules := ⟨[advanceRule 3000000], List.nodup_singleton _⟩ }, rfl, rfl, rfl,
      by constructor <;> decide, rfl, fun hserves => ?_⟩
    have hfar : (VenueRequest.createHold annexAtTen).FarFromEnds := by
      have hten : FarFromEnds (minutes 600) ∧ FarFromEnds (minutes 660) := by decide
      simpa [VenueRequest.FarFromEnds, annexAtTen] using hten
    exact hserves _ (hon _).2 hfar .overflow rfl

end Coworking
