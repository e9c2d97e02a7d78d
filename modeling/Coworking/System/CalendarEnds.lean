import Coworking.Services.Ranged
import Coworking.System.Grid
import Coworking.System.VenueService

/-!
# The Ends of the Calendar

The routes admit every date of Python's calendar, and the services go on from it: to the next
date, by a duration, to another time zone.

- `DateRequest`: the four requests about dates, with what they do on Python's calendar and without
  its ends;
- `GridAdmits`, `gridInCalendar_iff_gridAdmits`: what the ends of the calendar ask of a grid;
- `DateRequest.StaysInCalendar`: what they ask of a request;
- `stays_in_calendar_iff`: the requests that are answered, or refused with an exception of their
  modules;
- `date_arithmetic_overflows`: requests that are not.
-/

namespace Coworking

open Foundation

variable {db : Database} {rt : Runtime} {c : Call} {s : Store}

/-! ## §1 Requests about dates -/

inductive DateRequest
  | listBookings (status : Option BookingStatus) (dateFrom dateTo : Option Date) (query : PageQuery)
  | getOccupancyAnalytics (startDate endDate : Date)
  | getAvailability (level : BookingLevel) (seatId roomId venueId : Option Uuid) (targetDate : Date)
      (durationMinutes : Int)
  | createHold (payload : HoldCreateRequest)

/-- Whether the request returns, and the exception otherwise. -/
def DateRequest.outcome (db : Database) (rt : Runtime) (c : Call) (s : Store) :
    DateRequest → Checked ServiceError Unit
  | .listBookings status dateFrom dateTo query => do
    let _ ← Ranged.listBookings db c s status dateFrom dateTo query
    pure ()
  | .getOccupancyAnalytics startDate endDate => do
    let _ ← Ranged.getOccupancyAnalytics s startDate endDate
    pure ()
  | .getAvailability level seatId roomId venueId targetDate durationMinutes => do
    let _ ← Ranged.getAvailability rt c s level seatId roomId venueId targetDate durationMinutes
    pure ()
  | .createHold payload => do
    let _ ← Ranged.createHold rt c s payload
    pure ()

/-- The same on a calendar without ends. -/
def DateRequest.unlimited (db : Database) (rt : Runtime) (c : Call) (s : Store) :
    DateRequest → Except ServiceError Unit
  | .listBookings status dateFrom dateTo query => do
    let _ ← pure (Coworking.listBookings db c s status dateFrom dateTo query)
    pure ()
  | .getOccupancyAnalytics startDate endDate => do
    let _ ← pure (Coworking.getOccupancyAnalytics s startDate endDate)
    pure ()
  | .getAvailability level seatId roomId venueId targetDate durationMinutes => do
    let _ ← Coworking.getAvailability rt c s level seatId roomId venueId targetDate durationMinutes
    pure ()
  | .createHold payload => do
    let _ ← Coworking.createHold rt c s payload
    pure ()

/-- The exceptions that the modules of the request declare. -/
def DateRequest.Expects : DateRequest → ServiceError → Prop
  | .listBookings .. | .getOccupancyAnalytics .. => fun _ => False
  | .getAvailability .. => FromAvailability
  | .createHold payload => (VenueRequest.createHold payload).Expects

/-- The dates of the request are dates of the calendar. -/
def DateRequest.Dated : DateRequest → Prop
  | .listBookings _ dateFrom dateTo _ =>
    (∀ d ∈ dateFrom, d.InCalendar) ∧ ∀ d ∈ dateTo, d.InCalendar
  | .getOccupancyAnalytics startDate endDate => startDate.InCalendar ∧ endDate.InCalendar
  | .getAvailability _ _ _ _ targetDate _ => targetDate.InCalendar
  | .createHold payload => InCalendar payload.startTime.wall ∧ InCalendar payload.endTime.wall

/-! ## §2 The grid of a day -/

/-- The times of day that are converted to UTC: closing, and until then the points of the grid. -/
def OnGrid (hours : LocalTime × LocalTime) (durationMinutes : Int) (t : Int) : Prop :=
  t = hours.2.micros ∨
    ∃ k : Nat, t = hours.1.micros + k * minutes durationMinutes ∧ t ≤ hours.2.micros

/-- A slot fits between opening and closing. -/
def SlotFits (hours : LocalTime × LocalTime) (durationMinutes : Int) : Prop :=
  hours.1.micros + minutes durationMinutes ≤ hours.2.micros

/-- What the ends of the calendar ask of the grid of a day. -/
structure GridAdmits (tz : Zone) (targetDate : Date) (hours : LocalTime × LocalTime)
    (durationMinutes : Int) : Prop where
  /-- A first slot ends before the year 10000. -/
  firstSlot : hours.1.micros + minutes durationMinutes < days (Date.max + 1 - targetDate)
  /-- On 0001-01-01, UTC is not so far behind that it still has the date before. -/
  onFirstDate : targetDate = Date.min → SlotFits hours durationMinutes →
    ∀ t, OnGrid hours durationMinutes t → tz.offsetOfWall (days Date.min + t) ≤ t
  /-- On 9999-12-31, the first slot that does not fit ends before midnight. -/
  nextSlot : targetDate = Date.max → SlotFits hours durationMinutes →
    ∀ k : Nat, hours.1.micros + k * minutes durationMinutes ≤ hours.2.micros →
      hours.1.micros + (k + 1 : Nat) * minutes durationMinutes < microsPerDay
  /-- On 9999-12-31, UTC is not so far ahead that it already has the date after. -/
  onLastDate : targetDate = Date.max → SlotFits hours durationMinutes →
    ∀ t, OnGrid hours durationMinutes t → t - tz.offsetOfWall (days Date.max + t) < microsPerDay

section

variable {tz : Zone} {targetDate : Date} {hours : LocalTime × LocalTime} {durationMinutes : Int}

theorem OnGrid.bounds {t : Int} (hpos : 0 < minutes durationMinutes)
    (h : OnGrid hours durationMinutes t) : 0 ≤ t ∧ t < microsPerDay := by
  rcases h with rfl | ⟨k, rfl, hle⟩
  · exact ⟨hours.2.nonneg, hours.2.lt_day⟩
  · have hk : 0 ≤ (k : Int) * minutes durationMinutes :=
      Int.mul_nonneg (Int.natCast_nonneg k) hpos.le
    exact ⟨Int.add_nonneg hours.1.nonneg hk, hle.trans_lt hours.2.lt_day⟩

/-- A time of day leaves the calendar in UTC on the first and on the last date only. -/
theorem inCalendar_toUtc_iff {t : Int} (htz : tz.WithinADay) (hdate : targetDate.InCalendar)
    (ht : 0 ≤ t ∧ t < microsPerDay) :
    InCalendar (tz.toUtc (days targetDate + t)) ↔
      (targetDate = Date.min → tz.offsetOfWall (days Date.min + t) ≤ t) ∧
      (targetDate = Date.max → t - tz.offsetOfWall (days Date.max + t) < microsPerDay) := by
  obtain ⟨hlow, hhigh⟩ := htz (days targetDate + t)
  rw [inCalendar_iff, Zone.toUtc, days_succ]
  refine and_congr ⟨?_, fun h => ?_⟩ ⟨?_, fun h => ?_⟩
  · rintro h rfl
    omega
  · rcases eq_or_lt_of_le hdate.1 with rfl | hlater
    · have hfirst := h rfl
      omega
    · have hnext := days_le (Int.add_one_le_of_lt hlater)
      rw [days_succ] at hnext
      omega
  · rintro h rfl
    omega
  · rcases eq_or_lt_of_le hdate.2 with rfl | hearlier
    · have hlast := h rfl
      omega
    · have hnext := days_le (Int.add_one_le_of_lt hearlier)
      rw [days_succ] at hnext
      omega

/-- An end of a slot leaves the calendar when it is past the last date. -/
theorem inCalendar_slotEnd_iff (hpos : 0 < minutes durationMinutes)
    (hdate : targetDate.InCalendar) (k : Nat) :
    InCalendar (combine targetDate hours.1 + (k + 1 : Nat) * minutes durationMinutes) ↔
      hours.1.micros + (k + 1 : Nat) * minutes durationMinutes <
        days (Date.max + 1 - targetDate) := by
  have hk : 0 ≤ ((k + 1 : Nat) : Int) * minutes durationMinutes :=
    Int.mul_nonneg (Int.natCast_nonneg _) hpos.le
  have hmin := days_le hdate.1
  have hopen := hours.1.nonneg
  have hcombine : combine targetDate hours.1 = days targetDate + hours.1.micros := rfl
  rw [inCalendar_iff, hcombine, days_sub]
  omega

/-- Ends of slots: on another date than the last, those after the first are early enough. -/
theorem slotEnds_iff (hpos : 0 < minutes durationMinutes) (hdate : targetDate.InCalendar) :
    (∀ k : Nat, k = 0 ∨ hours.1.micros + k * minutes durationMinutes ≤ hours.2.micros →
      hours.1.micros + (k + 1 : Nat) * minutes durationMinutes <
        days (Date.max + 1 - targetDate)) ↔
    hours.1.micros + minutes durationMinutes < days (Date.max + 1 - targetDate) ∧
      (targetDate = Date.max → SlotFits hours durationMinutes →
        ∀ k : Nat, hours.1.micros + k * minutes durationMinutes ≤ hours.2.micros →
          hours.1.micros + (k + 1 : Nat) * minutes durationMinutes < microsPerDay) := by
  have hone : ((0 + 1 : Nat) : Int) * minutes durationMinutes = minutes durationMinutes :=
    Int.one_mul _
  have hlast : days (Date.max + 1 - Date.max) = microsPerDay := by decide
  constructor
  · intro h
    have hfirst := h 0 (.inl rfl)
    rw [hone] at hfirst
    refine ⟨hfirst, ?_⟩
    rintro rfl - k hk
    exact hlast ▸ h k (.inr hk)
  · rintro ⟨hfirst, hnext⟩ k hk
    cases k with
    | zero => rwa [hone]
    | succ k =>
      have hk := hk.resolve_left (Nat.succ_ne_zero k)
      have hsucc : ∀ l : Nat, ((l + 1 : Nat) : Int) * minutes durationMinutes =
          l * minutes durationMinutes + minutes durationMinutes := fun l => by
        rw [Int.natCast_succ, Int.add_mul, Int.one_mul]
      have hnonneg : 0 ≤ (k : Int) * minutes durationMinutes :=
        Int.mul_nonneg (Int.natCast_nonneg k) hpos.le
      have hfits : hours.1.micros + minutes durationMinutes ≤ hours.2.micros := by
        rw [hsucc] at hk
        omega
      rcases eq_or_lt_of_le hdate.2 with rfl | hearlier
      · exact hlast.symm ▸ hnext rfl hfits (k + 1) hk
      · -- The end is within a day of closing, and a whole date follows.
        have hafter := days_le (Int.add_one_le_of_lt hearlier)
        have hopen := hours.1.nonneg
        have hclose := hours.2.lt_day
        rw [days_succ] at hafter
        rw [hsucc, days_sub, days_succ]
        omega

/-- **The grid at the ends of the calendar.** -/
theorem gridInCalendar_iff_gridAdmits (hpos : 0 < minutes durationMinutes) (htz : tz.WithinADay)
    (hdate : targetDate.InCalendar) :
    GridInCalendar tz targetDate hours durationMinutes ↔
      GridAdmits tz targetDate hours durationMinutes := by
  -- Both sides in microseconds after midnight of the date.
  have hcombine : ∀ t, combine targetDate t = days targetDate + t.micros := fun _ => rfl
  have hpoint : ∀ k : Nat, combine targetDate hours.1 + k * minutes durationMinutes =
      days targetDate + (hours.1.micros + k * minutes durationMinutes) := fun k => by
    rw [hcombine, Int.add_assoc]
  have huntil : ∀ t, days targetDate + t ≤ combine targetDate hours.2 ↔ t ≤ hours.2.micros :=
    fun t => by
      rw [hcombine]
      omega
  have hfits : combine targetDate hours.1 + minutes durationMinutes ≤ combine targetDate hours.2 ↔
      SlotFits hours durationMinutes := by
    rw [hcombine hours.1, Int.add_assoc, huntil]
    rfl
  have hends := @slotEnds_iff targetDate hours durationMinutes hpos hdate
  simp only [← inCalendar_slotEnd_iff hpos hdate] at hends
  have hutc : ∀ t, OnGrid hours durationMinutes t →
      (InCalendar (tz.toUtc (days targetDate + t)) ↔
        (targetDate = Date.min → tz.offsetOfWall (days Date.min + t) ≤ t) ∧
        (targetDate = Date.max → t - tz.offsetOfWall (days Date.max + t) < microsPerDay)) :=
    fun t ht => inCalendar_toUtc_iff htz hdate (ht.bounds hpos)
  constructor
  · intro h
    obtain ⟨hfirst, hnext⟩ := hends.mp fun k hk => h.ends k (by rwa [hpoint, huntil])
    have hgrid : SlotFits hours durationMinutes → ∀ t, OnGrid hours durationMinutes t →
        InCalendar (tz.toUtc (days targetDate + t)) := by
      intro hslot t ht
      obtain ⟨hclose, hpoints⟩ := h.utc (hfits.mpr hslot)
      rcases ht with rfl | ⟨k, rfl, hle⟩
      · exact hclose
      · rw [← hpoint]
        exact hpoints k (by rwa [hpoint, huntil])
    exact
      { firstSlot := hfirst
        onFirstDate := fun he hslot t ht => ((hutc t ht).mp (hgrid hslot t ht)).1 he
        nextSlot := hnext
        onLastDate := fun he hslot t ht => ((hutc t ht).mp (hgrid hslot t ht)).2 he }
  · intro h
    have hgrid : SlotFits hours durationMinutes → ∀ t, OnGrid hours durationMinutes t →
        InCalendar (tz.toUtc (days targetDate + t)) := fun hslot t ht =>
      (hutc t ht).mpr ⟨fun he => h.onFirstDate he hslot t ht, fun he => h.onLastDate he hslot t ht⟩
    refine ⟨fun k hk => hends.mpr ⟨h.firstSlot, h.nextSlot⟩ k ?_, fun hslot => ⟨?_, fun k hk => ?_⟩⟩
    · rwa [hpoint, huntil] at hk
    · exact hgrid (hfits.mp hslot) _ (.inl rfl)
    · rw [hpoint, huntil] at hk
      rw [hpoint]
      exact hgrid (hfits.mp hslot) _ (.inr ⟨k, rfl, hk⟩)

end

/-! ## §3 The ends of the calendar -/

/-- What the ends of the calendar ask of a request. -/
def DateRequest.StaysInCalendar (rt : Runtime) (c : Call) (s : Store) : DateRequest → Prop
  | .listBookings _ _ dateTo _ => dateTo ≠ some Date.max
  | .getOccupancyAnalytics _ endDate => endDate ≠ Date.max
  | .getAvailability level seatId roomId venueId targetDate durationMinutes =>
    ∀ ctx hours tz, Resolves s level seatId roomId venueId ctx →
      AcceptedDuration c.rows s ctx durationMinutes →
      resolveOperatingHours s ctx targetDate = some hours → rt.zoneInfo ctx.timezone = some tz →
      GridAdmits tz targetDate hours durationMinutes
  | .createHold payload => HoldInCalendar rt c s payload

/-- The time zone of every venue loads, and has offsets that Python accepts. -/
def Store.ZonesValid (rt : Runtime) (s : Store) : Prop :=
  ∀ venue ∈ s.venues, ∃ tz, rt.zoneInfo venue.timezone = some tz ∧ tz.WithinADay

theorem Store.ZonesValid.of_resolves (h : s.ZonesValid rt) {level : BookingLevel}
    {seatId roomId venueId : Option Uuid} {ctx : ResourceContext}
    (hres : Resolves s level seatId roomId venueId ctx) :
    ∃ tz, rt.zoneInfo ctx.timezone = some tz ∧ tz.WithinADay := by
  obtain ⟨venue, hvenue, htz⟩ := hres.timezone
  rw [htz]
  exact h venue (Table.mem_of_get? hvenue)

/-- On Python's calendar, a request does what it does without its ends, unless it reaches them. -/
theorem DateRequest.overflowsUnless (hzones : s.ZonesValid rt) (hnow : InCalendar (c.now 0))
    {q : DateRequest} (hq : q.Dated) :
    OverflowsUnless (q.StaysInCalendar rt c s) (q.outcome db rt c s) (q.unlimited db rt c s) := by
  cases q with
  | listBookings status dateFrom dateTo query =>
    refine (overflowsUnless_listBookings.bind_pure _).congr ?_
    cases dateTo with
    | none => simp [StaysInCalendar]
    | some date => simp [StaysInCalendar, Date.inCalendar_succ (hq.2 date rfl)]
  | getOccupancyAnalytics startDate endDate =>
    exact (overflowsUnless_getOccupancyAnalytics.bind_pure _).congr
      (Date.inCalendar_succ hq.2).symm
  | getAvailability level seatId roomId venueId targetDate durationMinutes =>
    refine ((overflowsUnless_getAvailability hq).bind_pure _).congr ?_
    refine forall_congr' fun ctx => forall_congr' fun hours => forall_congr' fun tz =>
      forall_congr' fun hres => forall_congr' fun hacc => forall_congr' fun _ =>
      forall_congr' fun htz => ?_
    obtain ⟨tz', htz', hoffsets⟩ := hzones.of_resolves hres
    obtain rfl := Option.mem_unique htz htz'
    exact (gridInCalendar_iff_gridAdmits hacc.minutes_pos hoffsets hq).symm
  | createHold => exact (overflowsUnless_createHold hnow).bind_pure _

/-- Without the ends of the calendar, the services raise what is to be expected. -/
theorem DateRequest.raisesOnly_unlimited (hzones : s.ZonesValid rt) (q : DateRequest) :
    RaisesOnly q.Expects (q.unlimited db rt c s) := by
  have hloads : ∀ {level seatId roomId venueId ctx}, Resolves s level seatId roomId venueId ctx →
      (rt.zoneInfo ctx.timezone).isSome := by
    intro _ _ _ _ ctx hres
    obtain ⟨tz, htz, -⟩ := hzones.of_resolves hres
    rw [htz]
    rfl
  cases q with
  | listBookings => exact raisesOnly_pure ()
  | getOccupancyAnalytics => exact raisesOnly_pure ()
  | getAvailability =>
    exact RaisesOnly.bind (raisesOnly_getAvailability fun _ => hloads) fun _ _ => raisesOnly_pure ()
  | createHold =>
    exact RaisesOnly.bind (raisesOnly_createHold fun _ => hloads) fun _ _ => raisesOnly_pure ()

/-- **Staying in the calendar.**  In a store whose venues have valid time zones, a request about
dates is answered, or refused with an exception that its modules declare, exactly when it is one
that the ends of the calendar admit. -/
theorem stays_in_calendar_iff (hzones : s.ZonesValid rt) (hnow : InCalendar (c.now 0))
    {q : DateRequest} (hq : q.Dated) :
    RaisesOnly (Raised.Within q.Expects) (q.outcome db rt c s) ↔ q.StaysInCalendar rt c s :=
  (DateRequest.overflowsUnless hzones hnow hq).raisesOnly_iff (q.raisesOnly_unlimited hzones)

/-! ### Requests at the ends -/

theorem smallStore_zonesValid : smallStore.ZonesValid .plain := by
  intro venue hvenue
  obtain rfl := List.mem_singleton.mp hvenue
  have hutc : -microsPerDay < 0 ∧ 0 < microsPerDay := by decide
  exact ⟨Zone.utc, rfl, fun _ => hutc⟩

theorem smallClock_inCalendar : InCalendar ((Call.plain 7 0).now 0) := by decide

/-- The free slots of the venue on a date, of the default duration. -/
def freeSlots (date : Date) : DateRequest := .getAvailability .venue none none (some 1) date 60

theorem stays_in_calendar_freeSlots :
    RaisesOnly (Raised.Within (freeSlots 0).Expects)
      ((freeSlots 0).outcome .plain .plain (.plain 7 0) smallStore) := by
  have hdate : (freeSlots 0).Dated := show Date.InCalendar 0 by decide
  refine (stays_in_calendar_iff smallStore_zonesValid smallClock_inCalendar hdate).mpr ?_
  intro ctx hours tz _ _ _ _
  refine ⟨?_, fun h => absurd h (by decide), fun h => absurd h (by decide),
    fun h => absurd h (by decide)⟩
  have hopen := hours.1.lt_day
  have hhour : microsPerDay + minutes 60 ≤ days (Date.max + 1 - 0) := by decide
  omega

/-- Seat `A1` in the first hour of the calendar, five hours ahead of UTC. -/
def firstHour : HoldCreateRequest :=
  ⟨.seat, some 3, none, none, ⟨days Date.min, some (minutes 300)⟩,
    ⟨days Date.min + minutes 60, some (minutes 300)⟩⟩

/-- A request with dates of the calendar that the small store answers with `OverflowError`. -/
def DateRequest.OverflowsSmall (q : DateRequest) : Prop :=
  q.Dated ∧ q.outcome .plain .plain (.plain 7 0) smallStore = .error .overflow

theorem overflowsSmall_of_not_stays {q : DateRequest} (hq : q.Dated)
    (hnot : ¬ q.StaysInCalendar .plain (.plain 7 0) smallStore) : q.OverflowsSmall :=
  ⟨hq, (DateRequest.overflowsUnless smallStore_zonesValid smallClock_inCalendar hq).overflows hnot⟩

/-- Of the slots of one hour, the one from 23:00 does not fit, and ends in the year 10000. -/
theorem freeSlots_not_stays :
    ¬ (freeSlots Date.max).StaysInCalendar .plain (.plain 7 0) smallStore := by
  intro h
  have hres : Resolves smallStore .venue none none (some 1)
      ⟨.venue, 1, none, none, "UTC", ⟨rfl, rfl⟩⟩ := resolveResource_eq_ok.mp rfl
  have hgrid := h _ (defaultOpenTime, defaultCloseTime) Zone.utc hres
    (acceptedDuration_of_empty rfl (by decide)) rfl rfl
  have hfits : SlotFits (defaultOpenTime, defaultCloseTime) 60 :=
    show minutes 60 ≤ minutes (23 * 60 + 59) by decide
  exact absurd (hgrid.nextSlot rfl hfits 23 (by decide)) (by decide)

/-- Its start is five hours before the calendar begins. -/
theorem firstHour_not_stays : ¬ HoldInCalendar .plain (.plain 7 0) smallStore firstHour :=
  fun h => absurd (h.start (days Date.min - minutes 300) rfl) (by decide)

/-- Each of the services overflows: on bookings until 9999-12-31, on a period that ends then, on
free slots on that date, and on a hold in the first hour. -/
theorem date_arithmetic_overflows :
    smallStore.ZonesValid .plain ∧ InCalendar ((Call.plain 7 0).now 0) ∧
    (DateRequest.listBookings none none (some Date.max) firstPage).OverflowsSmall ∧
    (DateRequest.getOccupancyAnalytics 0 Date.max).OverflowsSmall ∧
    (freeSlots Date.max).OverflowsSmall ∧ (DateRequest.createHold firstHour).OverflowsSmall := by
  have hlast : Date.max.InCalendar := by decide
  have hperiod : Date.InCalendar 0 ∧ Date.max.InCalendar := ⟨by decide, hlast⟩
  have hhour : InCalendar firstHour.startTime.wall ∧ InCalendar firstHour.endTime.wall := by decide
  refine ⟨smallStore_zonesValid, smallClock_inCalendar, ?_, ?_, ?_, ?_⟩
  · exact overflowsSmall_of_not_stays ⟨nofun, fun d hd => Option.some.inj hd ▸ hlast⟩
      fun h => h rfl
  · exact overflowsSmall_of_not_stays hperiod fun h => h rfl
  · exact overflowsSmall_of_not_stays hlast freeSlots_not_stays
  · exact overflowsSmall_of_not_stays hhour firstHour_not_stays

end Coworking
