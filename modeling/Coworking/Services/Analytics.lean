import Coworking.Services.Listing
import Mathlib.Algebra.Order.Field.Rat

/-!
# Occupancy Analytics

How much of the space the bookings of a period take, and what they bring in.  A period runs from
the UTC midnight of its first date to the one after its last.

- `Booking.ReportedIn`: the bookings that a period selects;
- `getOccupancyAnalytics`: what is reported of them.
-/

namespace Coworking

open Foundation

/-- The statuses that the analytics select. -/
def BookingStatus.counted (status : BookingStatus) : Bool :=
  status ∈ [BookingStatus.pending, .confirmed, .checkedIn, .completed]

/-- The `where` clauses of `get_occupancy_analytics`. -/
def Booking.ReportedIn (b : Booking) (periodStart periodEnd : Instant) : Prop :=
  b.status.counted ∧ b.startTime < periodEnd ∧ periodStart < b.endTime

instance (b : Booking) (periodStart periodEnd : Instant) :
    Decidable (b.ReportedIn periodStart periodEnd) :=
  inferInstanceAs (Decidable (_ ∧ _ ∧ _))

/-- `total_revenue_cents`. -/
def totalRevenueCents (bookings : List Booking) : Int := (bookings.map (·.priceAmountCents)).sum

/-- What a booking adds to `total_booked_minutes`. -/
def bookedMinutes (periodStart periodEnd : Instant) (b : Booking) : Int :=
  let effectiveStart := max b.startTime periodStart
  let effectiveEnd := min b.endTime periodEnd
  max 0 (wholeMinutes (effectiveEnd - effectiveStart))

/-- `total_booked_minutes`. -/
def totalBookedMinutes (periodStart periodEnd : Instant) (bookings : List Booking) : Int :=
  (bookings.map (bookedMinutes periodStart periodEnd)).sum

/-- `capacity_units`: the active seats, or else the rooms. -/
def capacityUnits (s : Store) : Nat :=
  let activeSeats := s.seats.rows.countP (·.active)
  if activeSeats = 0 then
    let activeRooms := s.rooms.rows.length
    if activeRooms = 0 then 1 else activeRooms
  else activeSeats

structure AnalyticsPeriod where
  startDate : Date
  endDate : Date
  deriving DecidableEq

/-- `OccupancyAnalyticsResponse`.  The rate is exact, before it is rounded to four digits. -/
structure OccupancyAnalyticsResponse where
  period : AnalyticsPeriod
  occupancyRate : ℚ
  totalBookings : Nat
  revenue : ℚ
  deriving DecidableEq

/-- The bookings of `get_occupancy_analytics`. -/
def reportedBookings (s : Store) (startDate endDate : Date) : List Booking :=
  s.bookings.rows.filter (·.ReportedIn (utcMidnight startDate) (utcMidnight (endDate + 1)))

/-- `get_occupancy_analytics`. -/
def getOccupancyAnalytics (s : Store) (startDate endDate : Date) : OccupancyAnalyticsResponse :=
  let periodStart := utcMidnight startDate
  let periodEnd := utcMidnight (endDate + 1)
  let bookings := reportedBookings s startDate endDate
  let totalPeriodMinutes := max 1 (capacityUnits s * wholeMinutes (periodEnd - periodStart))
  { period := ⟨startDate, endDate⟩
    occupancyRate := min 1 (totalBookedMinutes periodStart periodEnd bookings / totalPeriodMinutes)
    totalBookings := bookings.length
    revenue := totalRevenueCents bookings / 100 }

/-- `utcMidnight`, in minutes. -/
theorem utcMidnight_eq (d : Date) : utcMidnight d = minutes (d * 1440) := by
  simp only [utcMidnight, Zone.toUtc, Zone.utc, combine, LocalTime.min, minutes, microsPerDay,
    Int.add_zero, Int.sub_zero]
  rw [Int.mul_assoc d 1440]
  rfl

theorem utcMidnight_lt {d d' : Date} (h : d < d') : utcMidnight d < utcMidnight d' := by
  rw [utcMidnight_eq, utcMidnight_eq]
  exact Int.mul_lt_mul_of_pos_right (Int.mul_lt_mul_of_pos_right h (by decide)) microsPerMinute_pos

end Coworking
