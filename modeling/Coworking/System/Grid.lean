import Coworking.System.Tree
import Mathlib.Tactic.Linarith
import Mathlib.Tactic.Ring

/-!
# The Grid of a Day

The loop of `get_availability` walks the local clock, and its slots are windows in UTC.

- `lasting_iff_offsetsAgree`: the slots last as long as asked for exactly when the offsets of the
  zone agree along the grid;
- `grid_is_full`: with one offset on a date, the grid of the date has every slot, each with the
  flag that a query for the slot alone gives.
-/

namespace Coworking

open Foundation

variable {rt : Runtime} {c : Call} {s : Store} {ctx : ResourceContext} {level : BookingLevel}
  {seatId roomId venueId : Option Uuid} {targetDate : Date} {durationMinutes : Int}
  {hours : LocalTime × LocalTime} {tz : Zone} {now : Instant} {resp : AvailabilityResponse}

/-! ## §1 Slots by their position -/

/-- A point of the grid, on the local clock. -/
def gridPoint (targetDate : Date) (hours : LocalTime × LocalTime) (durationMinutes : Int)
    (i : Nat) : Wall :=
  combine targetDate hours.1 + i * minutes durationMinutes

theorem gridPoint_succ (i : Nat) :
    gridPoint targetDate hours durationMinutes (i + 1) =
      gridPoint targetDate hours durationMinutes i + minutes durationMinutes := by
  rw [gridPoint, gridPoint, Int.natCast_succ, Int.add_mul, Int.one_mul, Int.add_assoc]

theorem le_gridPoint (hpos : 0 < minutes durationMinutes) (i : Nat) :
    combine targetDate hours.1 ≤ gridPoint targetDate hours durationMinutes i :=
  Int.le_add_of_nonneg_right (Int.mul_nonneg (Int.natCast_nonneg i) hpos.le)

theorem gridPoint_le_succ (hpos : 0 < minutes durationMinutes) (i : Nat) :
    gridPoint targetDate hours durationMinutes i ≤
      gridPoint targetDate hours durationMinutes (i + 1) := by
  rw [gridPoint_succ]
  exact Int.le_add_of_nonneg_right hpos.le

theorem length_daySlots :
    (daySlots tz now s ctx targetDate hours durationMinutes).length =
      ((combine targetDate hours.2 - combine targetDate hours.1) /
        minutes durationMinutes).toNat := by
  simp [daySlots]

/-- A slot has a position when it fits. -/
theorem lt_length_daySlots (hpos : 0 < minutes durationMinutes) {i : Nat} :
    i < (daySlots tz now s ctx targetDate hours durationMinutes).length ↔
      gridPoint targetDate hours durationMinutes (i + 1) ≤ combine targetDate hours.2 := by
  rw [length_daySlots, Int.lt_toNat, Int.lt_iff_add_one_le, Int.le_ediv_iff_mul_le hpos, gridPoint,
    Int.natCast_succ]
  exact le_sub_iff_add_le'

/-- The slot at a position goes from one point of the grid to the next. -/
theorem getElem_daySlots {i : Nat}
    (hi : i < (daySlots tz now s ctx targetDate hours durationMinutes).length) :
    (daySlots tz now s ctx targetDate hours durationMinutes)[i].startTime =
        tz.toUtc (gridPoint targetDate hours durationMinutes i) ∧
      (daySlots tz now s ctx targetDate hours durationMinutes)[i].endTime =
        tz.toUtc (gridPoint targetDate hours durationMinutes (i + 1)) := by
  rw [gridPoint_succ]
  simp [daySlots, slotAt, gridPoint]

/-! ## §2 Slots in real time -/

/-- The slots last as long as asked for, one after the other. -/
structure Lasting (slots : List AvailabilitySlot) (durationMinutes : Int) : Prop where
  length : ∀ slot ∈ slots, slot.endTime - slot.startTime = minutes durationMinutes
  ordered : ∀ slot ∈ slots, slot.startTime < slot.endTime
  increasing : slots.Pairwise fun a b => a.startTime < b.startTime
  disjoint : slots.Pairwise fun a b => ¬ overlaps a.startTime a.endTime b.startTime b.endTime

/-- Slots in equal steps of time are lasting. -/
theorem lasting_of_steps {slots : List AvailabilitySlot} (start : Instant)
    (hpos : 0 < minutes durationMinutes)
    (h : ∀ i (hi : i < slots.length), slots[i].startTime = start + i * minutes durationMinutes ∧
      slots[i].endTime = start + (i + 1) * minutes durationMinutes) :
    Lasting slots durationMinutes := by
  have hlength : ∀ slot ∈ slots, slot.endTime - slot.startTime = minutes durationMinutes := by
    intro slot hslot
    obtain ⟨i, hi, rfl⟩ := List.mem_iff_getElem.mp hslot
    rw [(h i hi).1, (h i hi).2]
    ring
  have hstep : ∀ i j (hi : i < slots.length) (hj : j < slots.length), i < j →
      slots[i].endTime ≤ slots[j].startTime := by
    intro i j hi hj hij
    rw [(h i hi).2, (h j hj).1]
    have hle : ((i : Int) + 1) * minutes durationMinutes ≤ j * minutes durationMinutes :=
      Int.mul_le_mul_of_nonneg_right (by omega) hpos.le
    exact Int.add_le_add_left hle start
  have hordered : ∀ slot ∈ slots, slot.startTime < slot.endTime := fun slot hslot =>
    Int.lt_of_sub_pos ((hlength slot hslot).symm ▸ hpos)
  refine ⟨hlength, hordered, ?_, ?_⟩
  · refine List.pairwise_iff_getElem.mpr fun i j hi hj hij => ?_
    exact (hordered _ (List.getElem_mem hi)).trans_le (hstep i j hi hj hij)
  · refine List.pairwise_iff_getElem.mpr fun i j hi hj hij hov => ?_
    exact absurd hov.2 (not_lt.mpr (hstep i j hi hj hij))

/-- The zone reads each point of the grid with the offset of the point before. -/
def Zone.OffsetsAgree (tz : Zone) (targetDate : Date) (hours : LocalTime × LocalTime)
    (durationMinutes : Int) : Prop :=
  ∀ i, gridPoint targetDate hours durationMinutes (i + 1) ≤ combine targetDate hours.2 →
    tz.offsetOfWall (gridPoint targetDate hours durationMinutes (i + 1)) =
      tz.offsetOfWall (gridPoint targetDate hours durationMinutes i)

/-- A slot lasts as long as asked for when the offset at its end is that at its start. -/
theorem slot_lasts_iff {w : Wall} {duration : Int} :
    tz.toUtc (w + duration) - tz.toUtc w = duration ↔
      tz.offsetOfWall (w + duration) = tz.offsetOfWall w := by
  have hdiff : tz.toUtc (w + duration) - tz.toUtc w =
      duration - (tz.offsetOfWall (w + duration) - tz.offsetOfWall w) := by
    simp only [Zone.toUtc]
    ring
  rw [hdiff]
  constructor <;> intro h <;> linarith

/-- The points of the grid are in equal steps of time when their offsets agree. -/
theorem toUtc_gridPoint (hpos : 0 < minutes durationMinutes)
    (h : tz.OffsetsAgree targetDate hours durationMinutes) {i : Nat}
    (hi : gridPoint targetDate hours durationMinutes i ≤ combine targetDate hours.2) :
    tz.toUtc (gridPoint targetDate hours durationMinutes i) =
      tz.toUtc (combine targetDate hours.1) + i * minutes durationMinutes := by
  induction i with
  | zero => simp [gridPoint]
  | succ i ih =>
    have hlast := slot_lasts_iff.mpr (gridPoint_succ i ▸ h i hi)
    rw [← gridPoint_succ, ih ((gridPoint_le_succ hpos i).trans hi)] at hlast
    rw [Int.natCast_succ, Int.add_mul, Int.one_mul, ← Int.add_assoc]
    exact Int.sub_eq_iff_eq_add'.mp hlast

theorem lasting_daySlots_iff (hpos : 0 < minutes durationMinutes) :
    Lasting (daySlots tz now s ctx targetDate hours durationMinutes) durationMinutes ↔
      tz.OffsetsAgree targetDate hours durationMinutes := by
  constructor
  · intro h i hi
    have hlt : i < (daySlots tz now s ctx targetDate hours durationMinutes).length :=
      (lt_length_daySlots hpos).mpr hi
    obtain ⟨hstart, hstop⟩ := getElem_daySlots hlt
    have hlength := h.length _ (List.getElem_mem hlt)
    rw [hstart, hstop, gridPoint_succ, slot_lasts_iff] at hlength
    rw [gridPoint_succ]
    exact hlength
  · intro h
    refine lasting_of_steps (tz.toUtc (combine targetDate hours.1)) hpos fun i hi => ?_
    have hfits := (lt_length_daySlots hpos).mp hi
    have hfits' := (gridPoint_le_succ hpos i).trans hfits
    obtain ⟨hstart, hstop⟩ := getElem_daySlots hi
    exact ⟨hstart.trans (toUtc_gridPoint hpos h hfits'), hstop.trans (toUtc_gridPoint hpos h hfits)⟩

/-- **Slots in real time.**  The slots of an answer last as long as asked for, in order and apart,
exactly when the zone reads the points of the grid with one offset.  A closed day has no grid. -/
theorem lasting_iff_offsetsAgree
    (hget : getAvailability rt c s level seatId roomId venueId targetDate durationMinutes =
      .ok resp) :
    Lasting resp.timeSlots durationMinutes ↔
      ∀ ctx hours tz, Resolves s level seatId roomId venueId ctx →
        resolveOperatingHours s ctx targetDate = some hours →
        rt.zoneInfo ctx.timezone = some tz → tz.OffsetsAgree targetDate hours durationMinutes := by
  obtain ⟨ctx, hres, hacc, hday⟩ := getAvailability_eq_ok.mp hget
  have hpos := hacc.minutes_pos
  rcases hday with ⟨hclosed, rfl⟩ | ⟨hours, tz, hhours, htz, rfl⟩
  · constructor
    · intro _ ctx' hours' _ hres' hhours'
      obtain rfl := hres.unique hres'
      rw [hclosed] at hhours'
      cases hhours'
    · exact fun _ => ⟨nofun, nofun, .nil, .nil⟩
  · rw [lasting_daySlots_iff hpos]
    constructor
    · intro h ctx' hours' tz' hres' hhours' htz'
      obtain rfl := hres.unique hres'
      obtain rfl := Option.some.inj (hhours.symm.trans hhours')
      obtain rfl := Option.some.inj (htz.symm.trans htz')
      exact h
    · exact fun h => h ctx hours tz hres hhours htz

/-- Without rules, a quarter of an hour is long enough. -/
theorem acceptedDuration_of_empty {rows : RowChoice} (hrules : s.bookingRules = .empty)
    (h : 15 ≤ durationMinutes) : AcceptedDuration rows s ctx durationMinutes :=
  ⟨h, fun rule hrule =>
    ((Table.mem_empty rule).mp (hrules ▸ mem_of_resolveBookingRule hrule)).elim⟩

/-- In UTC the slots of an hour are lasting. -/
theorem lasting_iff_offsetsAgree_utc :
    ∃ resp, getAvailability .plain (.plain 7 0) smallStore .seat (some 3) none none 0 60 =
      .ok resp ∧ Lasting resp.timeSlots 60 := by
  obtain ⟨resp, hget⟩ : ∃ resp, getAvailability .plain (.plain 7 0) smallStore .seat (some 3) none
    none 0 60 = .ok resp := ⟨_, rfl⟩
  refine ⟨resp, hget, (lasting_iff_offsetsAgree hget).mpr fun ctx hours tz _ _ htz i _ => ?_⟩
  have hzone : tz = Zone.utc := by
    simp only [Runtime.plain] at htz
    split at htz
    · exact (Option.some.inj htz).symm
    · cases htz
  rw [hzone]
  rfl

/-- A zone history that is quiet during the opening hours reads the grid with one offset. -/
theorem ZoneHistory.offsetsAgree {history : ZoneHistory} (hpos : 0 < minutes durationMinutes)
    (hquiet : ∀ due ∈ changeMoments wallMoment history.initial history.changes,
      due ≤ combine targetDate hours.1 ∨ combine targetDate hours.2 < due) :
    history.zone.OffsetsAgree targetDate hours durationMinutes := by
  have hsame : ∀ w, combine targetDate hours.1 ≤ w → w ≤ combine targetDate hours.2 →
      history.zone.offsetOfWall w = history.zone.offsetOfWall (combine targetDate hours.1) :=
    fun w hlow hhigh => offsetAfter_eq hlow fun due hdue =>
      (hquiet due hdue).imp_right hhigh.trans_lt
  intro i hi
  rw [hsame _ (le_gridPoint hpos (i + 1)) hi,
    hsame _ (le_gridPoint hpos i) ((gridPoint_le_succ hpos i).trans hi)]

/-- A zone whose clock goes forward an hour at two o'clock of the first day. -/
def springHistory : ZoneHistory := ⟨0, [(minutes 120, minutes 60)]⟩

/-- The slot of half an hour from half past two, a local time that the clock skips: its end comes
before its start. -/
def backwardSlot : AvailabilitySlot := ⟨minutes 150, minutes 120, true, some 3⟩

/-- On the day of the change the grid of half hours has the backward slot. -/
theorem slots_not_lasting :
    ∃ resp, getAvailability { Runtime.plain with zoneInfo := fun _ => some springHistory.zone }
        (.plain 7 0) smallStore .seat (some 3) none none 0 30 = .ok resp ∧
      backwardSlot ∈ resp.timeSlots ∧ ¬ Lasting resp.timeSlots 30 := by
  have hres : Resolves smallStore .seat (some 3) none none
      ⟨.seat, 1, some 2, some 3, "UTC", ⟨rfl, rfl⟩⟩ := resolveResource_eq_ok.mp rfl
  have hslot : backwardSlot ∈ daySlots springHistory.zone 0 smallStore
      ⟨.seat, 1, some 2, some 3, "UTC", ⟨rfl, rfl⟩⟩ 0 (defaultOpenTime, defaultCloseTime) 30 :=
    (mem_daySlots (by decide)).mpr ⟨5, by decide, by decide⟩
  refine ⟨⟨0, _⟩, getAvailability_eq_ok.mpr ⟨_, hres, acceptedDuration_of_empty rfl (by decide),
    .inr ⟨_, springHistory.zone, rfl, rfl, rfl⟩⟩, hslot, fun h => ?_⟩
  exact absurd (h.length backwardSlot hslot) (by decide)

/-! ## §3 The whole grid -/

/-- A blocking record that conflicts with the resource overlaps the window. -/
def Claimed (now : Instant) (s : Store) (ctx : ResourceContext) (start stop : Instant) : Prop :=
  (∃ b ∈ s.bookings, b.status.blocking ∧ conflictFilter s ctx b.toSlot ∧
    overlaps start stop b.startTime b.endTime) ∨
  ∃ h ∈ s.holds, h.live now ∧ conflictFilter s ctx h.toSlot ∧
    overlaps start stop h.startTime h.endTime

/-- The flag of a slot when the conflicts come from a query for some range. -/
def flagFrom (now : Instant) (s : Store) (ctx : ResourceContext) (rangeStart rangeEnd : Instant)
    (tz : Zone) (duration : Int) (w : Wall) : Bool :=
  let conflicts := loadConflicts now s ctx rangeStart rangeEnd
  (slotAt tz conflicts.1 conflicts.2 none duration w).available

/-- What overlaps a window of a range overlaps the range. -/
theorem overlaps_in_range_iff {p q r : Prop} {rangeStart rangeEnd start stop x y : Instant}
    (hstart : rangeStart ≤ start) (hstop : stop ≤ rangeEnd) :
    (p ∧ q ∧ overlaps rangeStart rangeEnd x y ∧ r) ∧ overlaps start stop x y ↔
      p ∧ q ∧ r ∧ overlaps start stop x y := by
  constructor
  · rintro ⟨⟨hp, hq, -, hr⟩, hov⟩
    exact ⟨hp, hq, hr, hov⟩
  · rintro ⟨hp, hq, hr, hov⟩
    exact ⟨⟨hp, hq, hov.widen hstart hstop, hr⟩, hov⟩

/-- A query for any range around a slot gives the slot the same flag. -/
theorem flagFrom_eq_false {rangeStart rangeEnd : Instant} {duration : Int} {w : Wall}
    (hstart : rangeStart ≤ tz.toUtc w) (hstop : tz.toUtc (w + duration) ≤ rangeEnd) :
    flagFrom now s ctx rangeStart rangeEnd tz duration w = false ↔
      Claimed now s ctx (tz.toUtc w) (tz.toUtc (w + duration)) := by
  simp only [flagFrom, slotAt, Bool.not_eq_false', decide_eq_true_eq, mem_loadConflicts_bookings,
    mem_loadConflicts_holds, overlaps_in_range_iff hstart hstop, Claimed]

/-- With one offset on the date, the local times of the date keep their order in UTC. -/
theorem toUtc_of_date {o : Int} (hoff : ∀ w, Wall.date w = targetDate → tz.offsetOfWall w = o)
    {w : Wall} (hlow : combine targetDate hours.1 ≤ w) (hhigh : w ≤ combine targetDate hours.2) :
    tz.toUtc w = w - o := by
  rw [Zone.toUtc, hoff w (date_eq_of_between hlow hhigh)]

theorem available_daySlots {i : Nat}
    (hi : i < (daySlots tz now s ctx targetDate hours durationMinutes).length) :
    (daySlots tz now s ctx targetDate hours durationMinutes)[i].available =
      flagFrom now s ctx (tz.toUtc (combine targetDate hours.1))
        (tz.toUtc (combine targetDate hours.2)) tz (minutes durationMinutes)
        (gridPoint targetDate hours durationMinutes i) := by
  simp only [daySlots, List.getElem_map, List.getElem_range]
  rfl

/-- **The whole grid of a day.**  Where the zone has one offset on the date, an accepted duration is
answered with as many slots as it goes into the opening hours, the slot at position `i` from `i` to
`i + 1` durations after opening.  A slot is not available exactly when a blocking record of the
store claims its window, as a query for the window alone would say. -/
theorem grid_is_full {o : Int} (hres : Resolves s level seatId roomId venueId ctx)
    (hacc : AcceptedDuration c.rows s ctx durationMinutes)
    (hzone : rt.zoneInfo ctx.timezone = some tz)
    (hoff : ∀ w, Wall.date w = targetDate → tz.offsetOfWall w = o) :
    ∃ slots, getAvailability rt c s level seatId roomId venueId targetDate durationMinutes =
        .ok ⟨targetDate, slots⟩ ∧
      (resolveOperatingHours s ctx targetDate = none → slots = []) ∧
      ∀ hours, resolveOperatingHours s ctx targetDate = some hours →
        slots.length = ((combine targetDate hours.2 - combine targetDate hours.1) /
          minutes durationMinutes).toNat ∧
        (combine targetDate hours.2 < combine targetDate hours.1 + minutes durationMinutes →
          slots = []) ∧
        ∀ i (hi : i < slots.length),
          slots[i].startTime = tz.toUtc (combine targetDate hours.1 + i * minutes durationMinutes) ∧
          slots[i].endTime =
            tz.toUtc (combine targetDate hours.1 + (i + 1) * minutes durationMinutes) ∧
          (slots[i].available = false ↔
            Claimed (c.now 0) s ctx slots[i].startTime slots[i].endTime) ∧
          slots[i].available = flagFrom (c.now 0) s ctx slots[i].startTime slots[i].endTime tz
            (minutes durationMinutes)
            (combine targetDate hours.1 + i * minutes durationMinutes) := by
  have hpos := hacc.minutes_pos
  cases hhours : resolveOperatingHours s ctx targetDate with
  | none =>
    refine ⟨[], getAvailability_eq_ok.mpr ⟨ctx, hres, hacc, .inl ⟨hhours, rfl⟩⟩, fun _ => rfl, ?_⟩
    intro hours hsome
    cases hsome
  | some hours =>
    refine ⟨_, getAvailability_eq_ok.mpr ⟨ctx, hres, hacc, .inr ⟨hours, tz, hhours, hzone, rfl⟩⟩,
      nofun, ?_⟩
    intro hours' hsame
    obtain rfl := Option.some.inj hsame
    refine ⟨length_daySlots, daySlots_eq_nil hpos, fun i hi => ?_⟩
    obtain ⟨hstart, hstop⟩ := getElem_daySlots hi
    have hfits := (lt_length_daySlots hpos).mp hi
    -- With one offset the day contains the slot in UTC as it does on the local clock.
    have hlow : tz.toUtc (combine targetDate hours.1) ≤
        tz.toUtc (gridPoint targetDate hours durationMinutes i) := by
      have hday := (le_gridPoint hpos i).trans ((gridPoint_le_succ hpos i).trans hfits)
      rw [toUtc_of_date hoff le_rfl hday, toUtc_of_date hoff (le_gridPoint hpos i)
        ((gridPoint_le_succ hpos i).trans hfits)]
      exact Int.sub_le_sub_right (le_gridPoint hpos i) o
    have hhigh : tz.toUtc (gridPoint targetDate hours durationMinutes i +
        minutes durationMinutes) ≤ tz.toUtc (combine targetDate hours.2) := by
      rw [← gridPoint_succ, toUtc_of_date hoff (le_gridPoint hpos (i + 1)) hfits,
        toUtc_of_date hoff ((le_gridPoint hpos (i + 1)).trans hfits) le_rfl]
      exact Int.sub_le_sub_right hfits o
    rw [gridPoint_succ] at hstop
    rw [available_daySlots, hstart, hstop]
    refine ⟨rfl, ?_, flagFrom_eq_false hlow hhigh, ?_⟩
    · rw [Int.add_mul, Int.one_mul, ← Int.add_assoc]
      rfl
    · rw [Bool.eq_iff_iff, ← not_iff_not, Bool.not_eq_true, Bool.not_eq_true,
        flagFrom_eq_false hlow hhigh]
      exact (flagFrom_eq_false le_rfl le_rfl).symm

/-- Seat `A1` of the small venue is booked from ten to eleven. -/
def tenBooked : Store := replay .plain smallStore [⟨.plain 7 0, .createBooking (smallBooking none)⟩]

/-- The hours of that day in UTC are on the grid of the seat, and the one from ten is taken. -/
theorem grid_is_full_utc :
    ∃ slots, getAvailability .plain (.plain 7 0) tenBooked .seat (some 3) none none 0 60 =
        .ok ⟨0, slots⟩ ∧ slots.length = 23 ∧
      (∀ h : 9 < slots.length, slots[9].available = true) ∧
      ∀ h : 10 < slots.length, slots[10].startTime = minutes 600 ∧ slots[10].available = false := by
  have hres : Resolves tenBooked .seat (some 3) none none
      ⟨.seat, 1, some 2, some 3, "UTC", ⟨rfl, rfl⟩⟩ := resolveResource_eq_ok.mp rfl
  have hacc : AcceptedDuration (Call.plain 7 0).rows tenBooked
      ⟨.seat, 1, some 2, some 3, "UTC", ⟨rfl, rfl⟩⟩ 60 := acceptedDuration_of_empty rfl (by decide)
  have hzone : Runtime.plain.zoneInfo "UTC" = some Zone.utc := rfl
  obtain ⟨slots, hget, -, hopen⟩ := grid_is_full hres hacc hzone fun _ _ => rfl
  obtain ⟨hlength, -, hslots⟩ := hopen _ rfl
  refine ⟨slots, hget, hlength, fun h => ?_, fun h => ?_⟩
  · obtain ⟨hstart, hstop, -, hflag⟩ := hslots 9 h
    rw [hflag, hstart, hstop]
    decide
  · obtain ⟨hstart, hstop, hclaimed, -⟩ := hslots 10 h
    refine ⟨hstart, hclaimed.mpr (.inl ?_)⟩
    rw [hstart, hstop]
    exact ⟨_, List.mem_singleton_self _, by decide, by decide, by decide⟩

end Coworking
