import Coworking.Foundation.Coverage
import Coworking.Services.Analytics
import Coworking.System.Exclusivity
import Mathlib.Algebra.Order.BigOperators.Group.Finset
import Mathlib.Algebra.Order.Field.Basic
import Mathlib.Data.Int.Interval

/-!
# Occupancy

`get_occupancy_analytics` divides the minutes that are booked by the minutes of all active seats.
It counts the minutes of a booking once, whether it is for a seat, for a room or for a venue.

- `occupiedMinutes`: for how much of a period a seat is covered;
- `totalBookedMinutes_eq`: what the numerator counts;
- `occupancy_exact_iff`: the rate is the part of the seats' time that is covered exactly when seats
  counted too little and minutes counted too much cancel out, or the cap of the rate hides them.
-/

namespace Coworking

open Foundation Finset

/-- Intervals of minutes are computed, so their order is not the one of the complete lattice. -/
local instance minuteOrder : Preorder Int := Int.instLinearOrder.toPreorder

variable {s : Store} {startDate endDate : Date} {b : Booking}

/-! ## §1 Seats and minutes -/

/-- The booking takes the seat: it is for the seat, for its room or for its venue. -/
def Booking.Takes (s : Store) (b : Booking) (seat : Seat) : Prop :=
  b.level = .seat ∧ b.seatId = some seat.id ∨
    b.level = .room ∧ b.roomId = some seat.roomId ∨
    b.level = .venue ∧ ∃ room ∈ s.room? seat.roomId, b.venueId = some room.venueId

instance (s : Store) (b : Booking) : DecidablePred (b.Takes s) :=
  fun _ => inferInstanceAs (Decidable (_ ∨ _ ∨ _))

/-- The minute that starts `m` minutes after the epoch is in the window of the booking. -/
def Booking.During (b : Booking) (m : Int) : Prop :=
  b.startTime ≤ minutes m ∧ minutes m < b.endTime

instance (b : Booking) : DecidablePred b.During := fun _ => inferInstanceAs (Decidable (_ ∧ _))

def activeSeats (s : Store) : Finset Seat := (s.seats.rows.filter (·.active)).toFinset

def countedBookings (s : Store) : Finset Booking :=
  (s.bookings.rows.filter (·.status.counted)).toFinset

/-- The minutes of a period. -/
def periodMinutes (startDate endDate : Date) : Finset Int :=
  Ico (startDate * 1440) ((endDate + 1) * 1440)

/-- The minutes of some during which a seat is covered. -/
def occupiedMinutes (s : Store) (period : Finset Int) (seat : Seat) : Nat :=
  #{m ∈ period | ∃ b ∈ countedBookings s, b.Takes s seat ∧ b.During m}

/-- The rate is the part of the time of the active seats during which they are covered. -/
def OccupancyExact (s : Store) (startDate endDate : Date) : Prop :=
  (getOccupancyAnalytics s startDate endDate).occupancyRate =
    (∑ seat ∈ activeSeats s, occupiedMinutes s (periodMinutes startDate endDate) seat : ℕ) /
      (#(activeSeats s) * #(periodMinutes startDate endDate) : ℕ)

instance (s : Store) (startDate endDate : Date) : Decidable (OccupancyExact s startDate endDate) :=
  inferInstanceAs (Decidable (_ = _))

/-- All bookings start and end on the minute. -/
def WholeMinuteWindows (s : Store) : Prop :=
  ∀ b ∈ s.bookings.rows, microsPerMinute ∣ b.startTime ∧ microsPerMinute ∣ b.endTime

instance (s : Store) : Decidable (WholeMinuteWindows s) :=
  inferInstanceAs (Decidable (∀ b ∈ s.bookings.rows, _))

/-- A seat lies in itself, in its room and in the venue of its room. -/
theorem within_seat_iff {seat : Seat} (hseat : seat ∈ s.seats) {r : Resource} :
    s.Within (.seat seat.id) r ↔ r = .seat seat.id ∨ r = .room seat.roomId ∨
      ∃ room ∈ s.room? seat.roomId, r = .venue room.venueId := by
  have hget : s.seat? seat.id = some seat := Table.get?_of_mem hseat
  constructor
  · intro h
    rcases h.cases_head with rfl | ⟨_, hfirst, hrest⟩
    · exact .inl rfl
    cases hfirst with | seat hseat' => ?_
    obtain rfl := Option.some.inj (hseat'.symm.trans hget)
    rcases hrest.cases_head with rfl | ⟨_, hsecond, hlast⟩
    · exact .inr (.inl rfl)
    cases hsecond with | @room _ room hroom => ?_
    rcases hlast.cases_head with rfl | ⟨_, hthird, -⟩
    · exact .inr (.inr ⟨room, hroom, rfl⟩)
    · cases hthird
  · rintro (rfl | rfl | ⟨room, hroom, rfl⟩)
    · exact .refl
    · exact .single (.seat hget)
    · exact .tail (.single (.seat hget)) (.room hroom)

/-- A booking takes the seats that lie in its resource. -/
theorem takes_iff_within {seat : Seat} (hseat : seat ∈ s.seats) :
    b.Takes s seat ↔ ∃ r, b.toSlot.resource = some r ∧ s.Within (.seat seat.id) r := by
  simp only [within_seat_iff hseat, Booking.Takes, Slot.resource]
  cases b.level with
  | seat => simp
  | room => simp
  | venue =>
    simp only [reduceCtorEq, false_and, true_and, false_or, Option.map_eq_some_iff]
    constructor
    · rintro ⟨room, hroom, hid⟩
      exact ⟨_, ⟨_, hid, rfl⟩, .inr (.inr ⟨room, hroom, rfl⟩)⟩
    · rintro ⟨_, ⟨id, hid, rfl⟩, hr⟩
      simpa [hid] using hr

/-! ## §2 What the numerator counts -/

/-- The minutes of some that a booking takes. -/
def Booking.minutesOf (period : Finset Int) (b : Booking) : Finset Int := {m ∈ period | b.During m}

/-- The active seats that a booking takes. -/
def Booking.seatsOf (s : Store) (b : Booking) : Finset Seat :=
  {seat ∈ activeSeats s | b.Takes s seat}

theorem mem_countedBookings : b ∈ countedBookings s ↔ b ∈ s.bookings ∧ b.status.counted := by
  simp [countedBookings, Table.mem_def]

theorem minutes_le_minutes {m n : Int} : minutes m ≤ minutes n ↔ m ≤ n :=
  Int.mul_le_mul_right microsPerMinute_pos

theorem minutes_lt_minutes {m n : Int} : minutes m < minutes n ↔ m < n :=
  Int.mul_lt_mul_right microsPerMinute_pos

/-- The code computes as many minutes as a window on the minute has in the period. -/
theorem bookedMinutes_eq (hstart : microsPerMinute ∣ b.startTime)
    (hend : microsPerMinute ∣ b.endTime) :
    bookedMinutes (utcMidnight startDate) (utcMidnight (endDate + 1)) b =
      #(b.minutesOf (periodMinutes startDate endDate)) := by
  obtain ⟨first, hfirst⟩ : ∃ first, b.startTime = minutes first := exists_eq_mul_left_of_dvd hstart
  obtain ⟨last, hlast⟩ : ∃ last, b.endTime = minutes last := exists_eq_mul_left_of_dvd hend
  have hmono : Monotone minutes := fun _ _ h => minutes_le_minutes.mpr h
  have hmax : max b.startTime (utcMidnight startDate) = minutes (max first (startDate * 1440)) := by
    rw [hfirst, utcMidnight_eq, hmono.map_max]
  have hmin : min b.endTime (utcMidnight (endDate + 1)) =
      minutes (min last ((endDate + 1) * 1440)) := by
    rw [hlast, utcMidnight_eq, hmono.map_min]
  have hcells : b.minutesOf (periodMinutes startDate endDate) =
      Ico (max first (startDate * 1440)) (min last ((endDate + 1) * 1440)) := by
    ext m
    simp only [Booking.minutesOf, periodMinutes, Booking.During, mem_filter, mem_Ico, hfirst, hlast,
      minutes_le_minutes, minutes_lt_minutes]
    omega
  have hsub : ∀ m n : Int, minutes m - minutes n = minutes (m - n) := fun m n =>
    (Int.sub_mul m n _).symm
  simp only [bookedMinutes, hmax, hmin, hsub, wholeMinutes_minutes, hcells, Int.card_Ico]
  omega

theorem mem_minutesOf {period : Finset Int} {m : Int} :
    m ∈ b.minutesOf period ↔ m ∈ period ∧ b.During m := mem_filter

/-- A booking that a period does not select has no minutes in it. -/
theorem minutesOf_eq_empty (hcounted : b.status.counted)
    (h : ¬b.ReportedIn (utcMidnight startDate) (utcMidnight (endDate + 1))) :
    b.minutesOf (periodMinutes startDate endDate) = ∅ := by
  refine eq_empty_of_forall_notMem fun m hm => h ?_
  obtain ⟨hperiod, hfrom, huntil⟩ := mem_minutesOf.mp hm
  obtain ⟨hlow, hhigh⟩ := mem_Ico.mp hperiod
  refine ⟨hcounted, hfrom.trans_lt ?_, lt_of_le_of_lt ?_ huntil⟩
  · rwa [utcMidnight_eq, minutes_lt_minutes]
  · rwa [utcMidnight_eq, minutes_le_minutes]

/-- **What the numerator counts**: the minutes of every booking, once. -/
theorem totalBookedMinutes_eq (hwindows : WholeMinuteWindows s) :
    totalBookedMinutes (utcMidnight startDate) (utcMidnight (endDate + 1))
        (reportedBookings s startDate endDate) =
      (∑ b ∈ countedBookings s, #(b.minutesOf (periodMinutes startDate endDate)) : ℕ) := by
  have hnodup : (reportedBookings s startDate endDate).Nodup :=
    s.bookings.keysNodup.of_map.filter _
  -- The bookings that the period selects, and of the others no minute.
  have hreported : (reportedBookings s startDate endDate).toFinset =
      {b ∈ countedBookings s |
        b.ReportedIn (utcMidnight startDate) (utcMidnight (endDate + 1))} := by
    ext b
    simp only [reportedBookings, List.mem_toFinset, List.mem_filter, decide_eq_true_eq,
      mem_filter, mem_countedBookings, Table.mem_def]
    exact ⟨fun ⟨hb, h⟩ => ⟨⟨hb, h.1⟩, h⟩, fun ⟨⟨hb, _⟩, h⟩ => ⟨hb, h⟩⟩
  have hothers : ∀ b ∈ countedBookings s,
      #(b.minutesOf (periodMinutes startDate endDate)) ≠ 0 →
        b.ReportedIn (utcMidnight startDate) (utcMidnight (endDate + 1)) := by
    intro b hb hne
    by_contra hnot
    exact hne (card_eq_zero.mpr (minutesOf_eq_empty (mem_countedBookings.mp hb).2 hnot))
  rw [← sum_filter_of_ne hothers, ← hreported, List.sum_toFinset _ hnodup, totalBookedMinutes,
    Nat.cast_list_sum, List.map_map]
  refine congrArg List.sum (List.map_congr_left fun b hb => ?_)
  obtain ⟨hstart, hend⟩ := hwindows b (List.mem_filter.mp hb).1
  exact bookedMinutes_eq hstart hend

/-! ## §3 When the rate is exact -/

/-- What a booking covers: its seats, each for its minutes. -/
def Booking.cells (s : Store) (period : Finset Int) (b : Booking) : Finset (Seat × Int) :=
  b.seatsOf s ×ˢ b.minutesOf period

theorem mem_cells {period : Finset Int} {seat : Seat} {m : Int} :
    (seat, m) ∈ b.cells s period ↔
      (seat ∈ activeSeats s ∧ m ∈ period) ∧ b.Takes s seat ∧ b.During m := by
  rw [Booking.cells, mem_product, Booking.seatsOf, mem_filter, mem_minutesOf]
  exact and_and_and_comm

/-- The time during which the active seats are covered, cell by cell. -/
theorem sum_occupiedMinutes {period : Finset Int} :
    ∑ seat ∈ activeSeats s, occupiedMinutes s period seat =
      #((countedBookings s).biUnion (Booking.cells s period)) := by
  have hunion : (countedBookings s).biUnion (Booking.cells s period) =
      {cell ∈ activeSeats s ×ˢ period |
        ∃ b ∈ countedBookings s, b.Takes s cell.1 ∧ b.During cell.2} := by
    ext ⟨seat, m⟩
    simp only [mem_biUnion, mem_cells, mem_filter, mem_product]
    exact ⟨fun ⟨b, hb, hcell, hcover⟩ => ⟨hcell, b, hb, hcover⟩,
      fun ⟨hcell, b, hb, hcover⟩ => ⟨b, hb, hcell, hcover⟩⟩
  rw [hunion, card_filter, sum_product]
  exact sum_congr rfl fun seat _ => card_filter _ _

/-- What bookings of several active seats take beyond the first one. -/
def surplusMinutes (s : Store) (startDate endDate : Date) : Nat :=
  surplus (countedBookings s) (fun b => #(b.minutesOf (periodMinutes startDate endDate)))
    fun b => #(b.seatsOf s)

/-- The minutes of bookings that take no active seat. -/
def idleMinutes (s : Store) (startDate endDate : Date) : Nat :=
  idle (countedBookings s) (fun b => #(b.minutesOf (periodMinutes startDate endDate)))
    fun b => #(b.seatsOf s)

/-- How often a minute of an active seat is covered beyond the first time. -/
def sharedMinutes (s : Store) (startDate endDate : Date) : Nat :=
  repeats (countedBookings s) (Booking.cells s (periodMinutes startDate endDate))

/-- The active seats are covered throughout. -/
def FullyOccupied (s : Store) (startDate endDate : Date) : Prop :=
  ∀ seat ∈ activeSeats s, ∀ m ∈ periodMinutes startDate endDate,
    ∃ b ∈ countedBookings s, b.Takes s seat ∧ b.During m

/-- What is counted too little and too much cancels out, or is hidden since the rate is capped. -/
def OccupancyBalanced (s : Store) (startDate endDate : Date) : Prop :=
  surplusMinutes s startDate endDate =
      idleMinutes s startDate endDate + sharedMinutes s startDate endDate ∨
    surplusMinutes s startDate endDate ≤
      idleMinutes s startDate endDate + sharedMinutes s startDate endDate ∧
      FullyOccupied s startDate endDate

/-- Booked and covered time differ by the surplus, the idle and the shared minutes. -/
theorem booked_add_surplus (s : Store) (startDate endDate : Date) :
    ∑ b ∈ countedBookings s, #(b.minutesOf (periodMinutes startDate endDate)) +
        surplusMinutes s startDate endDate =
      ∑ seat ∈ activeSeats s, occupiedMinutes s (periodMinutes startDate endDate) seat +
        sharedMinutes s startDate endDate + idleMinutes s startDate endDate := by
  rw [surplusMinutes, sum_add_surplus, sum_occupiedMinutes, sharedMinutes, ← sum_card_eq,
    idleMinutes]
  simp only [Booking.cells, card_product, mul_comm]

/-- All the time there is. -/
theorem sum_occupiedMinutes_le (s : Store) (period : Finset Int) :
    ∑ seat ∈ activeSeats s, occupiedMinutes s period seat ≤ #(activeSeats s) * (#period) := by
  refine (sum_le_sum fun seat _ => card_filter_le _ _).trans_eq ?_
  exact sum_const_nat fun _ _ => rfl

theorem fullyOccupied_iff :
    FullyOccupied s startDate endDate ↔
      ∑ seat ∈ activeSeats s, occupiedMinutes s (periodMinutes startDate endDate) seat =
        #(activeSeats s) * #(periodMinutes startDate endDate) := by
  have hle : ∀ seat ∈ activeSeats s, occupiedMinutes s (periodMinutes startDate endDate) seat ≤
      #(periodMinutes startDate endDate) := fun _ _ => card_filter_le _ _
  rw [← sum_const_nat fun _ _ => rfl, sum_eq_sum_iff_of_le hle]
  exact forall₂_congr fun seat _ => card_filter_eq_iff.symm

theorem capacityUnits_eq (hseats : (activeSeats s).Nonempty) :
    capacityUnits s = #(activeSeats s) := by
  have hcard : s.seats.rows.countP (·.active) = #(activeSeats s) := by
    rw [activeSeats, List.toFinset_card_of_nodup (s.seats.keysNodup.of_map.filter _),
      List.countP_eq_length_filter]
  rw [capacityUnits, hcard, if_neg (card_pos.mpr hseats).ne']

theorem period_lt (hdates : startDate ≤ endDate) : startDate * 1440 < (endDate + 1) * 1440 :=
  Int.mul_lt_mul_of_pos_right (Int.lt_add_one_of_le hdates) (by decide)

theorem card_periodMinutes_pos (hdates : startDate ≤ endDate) :
    0 < #(periodMinutes startDate endDate) :=
  card_pos.mpr (nonempty_Ico.mpr (period_lt hdates))

/-- The rate is what the active seats are booked for, at most all of their time. -/
theorem occupancyRate_eq (hseats : (activeSeats s).Nonempty) (hwindows : WholeMinuteWindows s)
    (hdates : startDate ≤ endDate) :
    (getOccupancyAnalytics s startDate endDate).occupancyRate =
      (min (#(activeSeats s) * #(periodMinutes startDate endDate))
        (∑ b ∈ countedBookings s, #(b.minutesOf (periodMinutes startDate endDate))) : ℕ) /
        (#(activeSeats s) * #(periodMinutes startDate endDate) : ℕ) := by
  have hpos : 0 < #(activeSeats s) * #(periodMinutes startDate endDate) :=
    Nat.mul_pos (card_pos.mpr hseats) (card_periodMinutes_pos hdates)
  have hminutes : wholeMinutes (utcMidnight (endDate + 1) - utcMidnight startDate) =
      #(periodMinutes startDate endDate) := by
    rw [periodMinutes, Int.card_Ico_of_le _ _ (period_lt hdates).le, utcMidnight_eq, utcMidnight_eq]
    exact (congrArg wholeMinutes (Int.sub_mul ..).symm).trans (wholeMinutes_minutes _)
  have htotal : max 1 (capacityUnits s *
      wholeMinutes (utcMidnight (endDate + 1) - utcMidnight startDate)) =
        ((#(activeSeats s) * #(periodMinutes startDate endDate) : ℕ) : Int) := by
    rw [capacityUnits_eq hseats, hminutes, Nat.cast_mul]
    exact max_eq_right (by exact_mod_cast hpos)
  have hne : ((#(activeSeats s) * #(periodMinutes startDate endDate) : ℕ) : ℚ) ≠ 0 :=
    Nat.cast_ne_zero.mpr hpos.ne'
  show min 1 ((totalBookedMinutes _ _ _ : ℚ) / ((max 1 _ : Int) : ℚ)) = _
  rw [totalBookedMinutes_eq hwindows, htotal, Int.cast_natCast, Int.cast_natCast, Nat.cast_min,
    ← min_div_div_right (Nat.cast_nonneg _), div_self hne]

/-- The small venue, booked for an hour: seat `A1`, or the venue as a whole. -/
def hourBooked (request : BookingCreateRequest) : Store :=
  replay .plain smallStore [⟨.plain 8 0, .createBooking request⟩]

def venueHour : BookingCreateRequest :=
  ⟨.venue, none, none, some 1, none, .ofInstant (minutes 600), .ofInstant (minutes 660)⟩

/-- What a seat lies in forms a chain. -/
theorem related_of_within {r r₁ r₂ : Resource} (h₁ : s.Within r r₁) (h₂ : s.Within r r₂) :
    s.Related r₁ r₂ := by
  refine Relation.ReflTransGen.total_of_right_unique ?_ h₁ h₂
  rintro _ _ _ (⟨hseat⟩ | ⟨hroom⟩) hother
  · cases hother with | seat hseat' => rw [Option.some.inj (hseat.symm.trans hseat')]
  · cases hother with | room hroom' => rw [Option.some.inj (hroom.symm.trans hroom')]

/-- Unless some are completed, no minute of a seat is booked twice. -/
theorem sharedMinutes_eq_zero {now : Instant} (h : NoDoubleBooking s now)
    (hcompleted : ∀ b ∈ s.bookings, b.status ≠ .completed) :
    sharedMinutes s startDate endDate = 0 := by
  have hblocking : ∀ b ∈ countedBookings s, b ∈ s.bookings ∧ b.status.blocking := by
    intro b hb
    obtain ⟨hmem, hcounted⟩ := mem_countedBookings.mp hb
    have hne := hcompleted b hmem
    refine ⟨hmem, ?_⟩
    cases hstatus : b.status <;> simp_all [BookingStatus.counted, BookingStatus.blocking]
  refine repeats_eq_zero_iff.mpr fun b hb b' hb' hne => disjoint_left.mpr ?_
  rintro ⟨seat, m⟩ hcell hcell'
  obtain ⟨⟨hseat, -⟩, htakes, hfrom, huntil⟩ := mem_cells.mp hcell
  obtain ⟨-, htakes', hfrom', huntil'⟩ := mem_cells.mp hcell'
  have hseat : seat ∈ s.seats := (List.mem_filter.mp (List.mem_toFinset.mp hseat)).1
  obtain ⟨hmem, hb⟩ := hblocking b hb
  obtain ⟨hmem', hb'⟩ := hblocking b' hb'
  obtain ⟨r, hr, hwithin⟩ := (takes_iff_within hseat).mp htakes
  obtain ⟨r', hr', hwithin'⟩ := (takes_iff_within hseat).mp htakes'
  exact h.bookings b hmem b' hmem' hne hb hb'
    ⟨r, r', hr, hr', related_of_within hwithin hwithin', hfrom.trans_lt huntil',
      hfrom'.trans_lt huntil⟩

end Coworking
