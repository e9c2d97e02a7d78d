import Coworking.System.OpeningHours

/-!
# Duration Limits

The rule of a resource has limits in minutes, and four services compare them with the length of a
window that is rounded down to whole minutes.  Rounded down, a window that is too short stays too
short, and one that is too long by less than a minute is not.

- `asksFor_of_exec`: what a call that succeeds has asked for;
- `within_limits_iff`: when the window it got is within the limits.
-/

namespace Coworking

open Foundation

variable {rt : Runtime} {c : Call} {s s' : Store} {op : Op} {ctx : ResourceContext}
  {now start stop : Instant}

/-! ## §1 Whole minutes -/

theorem le_wholeMinutes {n delta : Int} : n ≤ wholeMinutes delta ↔ minutes n ≤ delta :=
  Int.le_ediv_iff_mul_le microsPerMinute_pos

theorem wholeMinutes_le {n delta : Int} : wholeMinutes delta ≤ n ↔ delta < minutes (n + 1) := by
  rw [← Int.lt_add_one_iff]
  exact Int.ediv_lt_iff_lt_mul microsPerMinute_pos

/-- The window is longer than the rule allows, by less than a minute. -/
def BookingRule.Overrun (rule : BookingRule) (start stop : Instant) : Prop :=
  minutes rule.maxDurationMinutes < stop - start ∧
    stop - start < minutes (rule.maxDurationMinutes + 1)

/-- A window that a rule admits is within the limits of the rule, unless it overruns. -/
theorem RuleAdmits.limits_iff {rule : BookingRule} (h : RuleAdmits rule now start stop) :
    (minutes rule.minDurationMinutes ≤ stop - start ∧
      stop - start ≤ minutes rule.maxDurationMinutes) ↔ ¬ rule.Overrun start stop := by
  have hmin := le_wholeMinutes.mp h.minDuration
  have hmax := wholeMinutes_le.mp h.maxDuration
  constructor
  · intro hin hover
    exact absurd hin.2 (not_le.mpr hover.1)
  · intro hover
    exact ⟨hmin, not_lt.mp fun hlong => hover ⟨hlong, hmax⟩⟩

/-! ## §2 What a call asks for -/

/-- The resource and the window that a call asks for. -/
inductive AsksFor (c : Call) (s : Store) : Op → ResourceContext → Instant → Instant → Prop
  | createHold {payload : HoldCreateRequest} {ctx : ResourceContext} {start stop : Instant} :
      payload.startTime.instant? = some start → payload.endTime.instant? = some stop →
      Resolves s payload.level payload.seatId payload.roomId payload.venueId ctx →
      AsksFor c s (.createHold payload) ctx start stop
  | createBooking {payload : BookingCreateRequest} {ctx : ResourceContext}
      {start stop : Instant} :
      payload.startTime.instant? = some start → payload.endTime.instant? = some stop →
      Resolves s payload.level payload.seatId payload.roomId payload.venueId ctx →
      AsksFor c s (.createBooking payload) ctx start stop
  | rescheduleBooking {id : Uuid} {payload : BookingWindowUpdateRequest} {b : Booking}
      {ctx : ResourceContext} {start stop : Instant} :
      s.bookingOf? id c.user = some b →
      payload.startTime.instant? = some start → payload.endTime.instant? = some stop →
      Resolves s b.level (resourceKwargsForLevel b.toSlot).1 (resourceKwargsForLevel b.toSlot).2.1
        (resourceKwargsForLevel b.toSlot).2.2 ctx →
      AsksFor c s (.rescheduleBooking id payload) ctx start stop
  | repeatBooking {id : Uuid} {payload : BookingWindowUpdateRequest} {b : Booking}
      {ctx : ResourceContext} {start stop : Instant} :
      s.bookingOf? id c.user = some b →
      payload.startTime.instant? = some start → payload.endTime.instant? = some stop →
      Resolves s b.level (if b.level = .seat then b.seatId else none)
        (if b.level = .room then b.roomId else none)
        (if b.level = .venue then b.venueId else none) ctx →
      AsksFor c s (.repeatBooking id payload) ctx start stop

/-- A call for a window that succeeds has asked for an admissible one. -/
theorem asksFor_of_exec (hasks : op.asks) (hok : exec rt c s op = .ok s') :
    ∃ ctx start stop, AsksFor c s op ctx start stop ∧
      Admissible rt c.rows s ctx (c.now 0) start stop := by
  cases op with
  | createHold payload =>
    obtain ⟨r, hr, -⟩ := (map_eq_ok _ _ _).mp hok
    obtain ⟨d, hd, -⟩ := createHold_eq_ok.mp hr
    obtain ⟨start, stop, ctx, hstart, hstop, hres, hadm, -⟩ := checkHold_eq_ok.mp hd
    exact ⟨ctx, start, stop, .createHold hstart hstop hres, hadm⟩
  | createBooking payload =>
    obtain ⟨r, hr, -⟩ := (map_eq_ok _ _ _).mp hok
    obtain ⟨d, hd, -⟩ := createBooking_eq_ok.mp hr
    obtain ⟨start, stop, ctx, hstart, hstop, hres, hadm, -⟩ := checkBooking_eq_ok.mp hd
    exact ⟨ctx, start, stop, .createBooking hstart hstop hres, hadm⟩
  | rescheduleBooking id payload =>
    obtain ⟨u, hu, -⟩ := rescheduleBooking_eq_ok.mp hok
    obtain ⟨b, start, stop, ctx, hb, -, hstart, hstop, hres, hadm, -⟩ := checkReschedule_eq_ok.mp hu
    exact ⟨ctx, start, stop, .rescheduleBooking hb hstart hstop hres, hadm⟩
  | repeatBooking id payload =>
    obtain ⟨r, hr, -⟩ := (map_eq_ok _ _ _).mp hok
    obtain ⟨b, hb, hcreate⟩ := repeatBooking_eq_ok.mp hr
    obtain ⟨d, hd, -⟩ := createBooking_eq_ok.mp hcreate
    obtain ⟨start, stop, ctx, hstart, hstop, hres, hadm, -⟩ := checkBooking_eq_ok.mp hd
    exact ⟨ctx, start, stop, .repeatBooking hb hstart hstop hres, hadm⟩
  | _ => simp [Op.asks] at hasks

/-! ## §3 The limits -/

/-- **Duration limits.**  A call that asks for a window and succeeds has got a window within the
limits of the rule of the resource, in real time, exactly when the window does not overrun. -/
theorem within_limits_iff (hasks : op.asks) (hok : exec rt c s op = .ok s') :
    ∃ ctx start stop, AsksFor c s op ctx start stop ∧
      ∀ rule, resolveBookingRule c.rows s ctx = some rule →
        ((minutes rule.minDurationMinutes ≤ stop - start ∧
          stop - start ≤ minutes rule.maxDurationMinutes) ↔ ¬ rule.Overrun start stop) := by
  obtain ⟨ctx, start, stop, hfor, hadm⟩ := asksFor_of_exec hasks hok
  exact ⟨ctx, start, stop, hfor, fun rule hrule => (hadm.rule rule hrule).limits_iff⟩

/-- The small venue under a rule of 15 to 60 minutes. -/
def hourlyStore : Store :=
  { smallStore with
    bookingRules := ⟨[⟨9, some 1, none, 15, 60, 30, 60, false, 900, 30, 150, 0⟩], by decide⟩ }

/-- The hour from ten that user 7 holds is within the limits. -/
theorem within_limits_iff_hour : ∃ ctx start stop,
    AsksFor (.plain 7 0) hourlyStore (.createHold smallHold) ctx start stop ∧
      minutes 15 ≤ stop - start ∧ stop - start ≤ minutes 60 := by
  obtain ⟨s', hok⟩ : ∃ s', exec .plain (.plain 7 0) hourlyStore (.createHold smallHold) = .ok s' :=
    ⟨_, rfl⟩
  obtain ⟨ctx, start, stop, hfor, hiff⟩ := within_limits_iff rfl hok
  refine ⟨ctx, start, stop, hfor, ?_⟩
  cases hfor with
  | createHold hstart hstop hres =>
    obtain rfl := Option.some.inj hstart
    obtain rfl := Option.some.inj hstop
    cases hres with
    | seat hseat hroom hvenue =>
      obtain rfl := Option.some.inj hseat
      obtain rfl := Option.some.inj hroom
      obtain rfl := Option.some.inj hvenue
      exact (hiff _ rfl).mpr fun hover => absurd hover.1 (by decide)

/-- The hour from ten and all but a microsecond of the next minute. -/
def overrunHold : HoldCreateRequest :=
  ⟨.seat, some 3, none, none, .ofInstant (minutes 600), .ofInstant (minutes 661 - 1)⟩

/-- Under the rule of at most 60 minutes user 7 gets a hold of almost 61. -/
theorem overrun_accepted : ∃ s' h, createHold .plain (.plain 7 0) hourlyStore overrunHold =
      .ok (s', h) ∧ resolveBookingRule (Call.plain 7 0).rows hourlyStore
        ⟨.seat, 1, some 2, some 3, "UTC", ⟨rfl, rfl⟩⟩ =
          some ⟨9, some 1, none, 15, 60, 30, 60, false, 900, 30, 150, 0⟩ ∧
      h.seatId = some 3 ∧ ¬ h.endTime - h.startTime ≤ minutes 60 :=
  ⟨_, _, rfl, rfl, rfl, by decide⟩

end Coworking
