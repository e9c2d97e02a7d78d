import Mathlib.Algebra.Order.Ring.Int
import Coworking.Foundation.Outcome

/-!
# Instants, Wall-Clock Times and Zones

Times as the services handle them, in whole microseconds:

- `Instant`: an aware `datetime` in UTC, counted from 1970-01-01T00:00Z;
- `Wall`: a naive local `datetime`, counted from 1970-01-01T00:00 local;
- `LocalTime`: a `time` of day;
- `Zone`: what `zoneinfo` answers about one time zone, in both directions;
- `Clock`: the readings one request takes from `datetime.now(UTC)`, in order.

The calendar has no ends here; those of the years 1 and 9999 are in `Core.DateRange`.
-/

namespace Coworking

/-- Microseconds since 1970-01-01T00:00Z. -/
abbrev Instant := Int

/-- Microseconds since 1970-01-01T00:00 on a local clock. -/
abbrev Wall := Int

/-- Days since 1970-01-01. -/
abbrev Date := Int

def microsPerSecond : Int := 1000000

def microsPerMinute : Int := 60 * microsPerSecond

def microsPerDay : Int := 24 * 60 * microsPerMinute

theorem microsPerDay_pos : 0 < microsPerDay := by decide

theorem microsPerMinute_pos : 0 < microsPerMinute := by decide

/-- `timedelta(seconds=n)`. -/
def seconds (n : Int) : Int := n * microsPerSecond

/-- `timedelta(minutes=n)`. -/
def minutes (n : Int) : Int := n * microsPerMinute

/-- `timedelta(days=n)`. -/
def days (n : Int) : Int := n * microsPerDay

/-- `int(delta.total_seconds() // 60)`.  Below 2^34 seconds, over five centuries, the float of a
length less than a whole minute is less than it too, so the floor is exact. -/
def wholeMinutes (delta : Int) : Int := delta / microsPerMinute

theorem wholeMinutes_minutes (n : Int) : wholeMinutes (minutes n) = n :=
  Int.mul_ediv_cancel n (by decide)

/-! ## Local clock -/

/-- A `time` of day. -/
structure LocalTime where
  /-- Microseconds since midnight. -/
  micros : Int
  nonneg : 0 ≤ micros
  lt_day : micros < microsPerDay
  deriving DecidableEq

/-- `time.min`. -/
def LocalTime.min : LocalTime := ⟨0, le_rfl, microsPerDay_pos⟩

/-- `.date()` of a local datetime. -/
def Wall.date (w : Wall) : Date := w / microsPerDay

/-- `.weekday()`: Monday is 0, and 1970-01-01 was a Thursday. -/
def Date.weekday (d : Date) : Int := (d + 3) % 7

/-- `datetime.combine(date, time, tzinfo=tz)`, on the clock of `tz`. -/
def combine (d : Date) (t : LocalTime) : Wall := d * microsPerDay + t.micros

theorem combine_date (d : Date) (t : LocalTime) : (combine d t).date = d := by
  rw [Wall.date, combine, Int.add_comm, Int.add_mul_ediv_right _ _ microsPerDay_pos.ne',
    Int.ediv_eq_zero_of_lt t.nonneg t.lt_day, Int.zero_add]

/-- A wall time between two times of one date is on that date. -/
theorem date_eq_of_between {d : Date} {a b : LocalTime} {w : Wall}
    (ha : combine d a ≤ w) (hb : w ≤ combine d b) : w.date = d := by
  have hlow : (combine d a).date ≤ w.date := Int.ediv_le_ediv microsPerDay_pos ha
  have hhigh : w.date ≤ (combine d b).date := Int.ediv_le_ediv microsPerDay_pos hb
  rw [combine_date] at hlow hhigh
  exact Int.le_antisymm hhigh hlow

/-- One `ZoneInfo`: the offset it applies to an instant, and the offset it attributes
to a wall time (read with `fold=0`). -/
structure Zone where
  offsetAt : Instant → Int
  offsetOfWall : Wall → Int

/-- `value.astimezone(tz)` of a UTC value, read off the local clock. -/
def Zone.toWall (tz : Zone) (t : Instant) : Wall := t + tz.offsetAt t

/-- `.astimezone(UTC)` of a local value. -/
def Zone.toUtc (tz : Zone) (w : Wall) : Instant := w - tz.offsetOfWall w

/-- The zone of `datetime.timezone.utc`. -/
def Zone.utc : Zone := ⟨fun _ => 0, fun _ => 0⟩

/-- A time zone of the IANA database: the UTC offset it starts with, and the changes of the offset,
each with its instant and the offset from then on. -/
structure ZoneHistory where
  initial : Int
  changes : List (Instant × Int)

/-- The offset after the changes that are due at `x`, where a change is due at a moment that may
depend on the offsets before and after it. -/
def offsetAfter (moment : Instant → Int → Int → Int) (x : Int) : Int → List (Instant × Int) → Int
  | offset, [] => offset
  | before, (t, after) :: changes =>
    if moment t before after ≤ x then offsetAfter moment x after changes else before

/-- The local time from which `zoneinfo` reads local times with the offset after a change.  With
`fold=0`, local times that the change skips or repeats are before it. -/
def wallMoment (t : Instant) (before after : Int) : Wall := t + max before after

/-- What `zoneinfo` makes of a history. -/
def ZoneHistory.zone (history : ZoneHistory) : Zone where
  offsetAt := fun t => offsetAfter (fun t _ _ => t) t history.initial history.changes
  offsetOfWall := fun w => offsetAfter wallMoment w history.initial history.changes

/-- When the changes are due. -/
def changeMoments (moment : Instant → Int → Int → Int) : Int → List (Instant × Int) → List Int
  | _, [] => []
  | before, (t, after) :: changes => moment t before after :: changeMoments moment after changes

/-- While no change is due the offset stays. -/
theorem offsetAfter_eq {moment : Instant → Int → Int → Int} {x y : Int} (hle : x ≤ y)
    {changes : List (Instant × Int)} {offset : Int}
    (hquiet : ∀ due ∈ changeMoments moment offset changes, due ≤ x ∨ y < due) :
    offsetAfter moment y offset changes = offsetAfter moment x offset changes := by
  induction changes generalizing offset with
  | nil => rfl
  | cons change rest ih =>
    have hdue : moment change.1 offset change.2 ≤ y ↔ moment change.1 offset change.2 ≤ x := by
      refine ⟨fun hy => ?_, fun hx => hx.trans hle⟩
      exact (hquiet _ List.mem_cons_self).resolve_right (not_lt.mpr hy)
    simp only [offsetAfter, hdue]
    split
    · exact ih fun due hmem => hquiet due (List.mem_cons_of_mem _ hmem)
    · rfl

/-! ## Request datetimes -/

/-- A `datetime` of a request body, with its UTC offset when it carries one. -/
structure DateTime where
  wall : Wall
  utcoffset : Option Int
  deriving DecidableEq

/-- A datetime that is already in UTC. -/
def DateTime.ofInstant (t : Instant) : DateTime := ⟨t, some 0⟩

/-- The instant an aware datetime names. -/
def DateTime.instant? (d : DateTime) : Option Instant := d.utcoffset.map (d.wall - ·)

@[simp] theorem DateTime.instant?_ofInstant (t : Instant) :
    (DateTime.ofInstant t).instant? = some t := by
  simp [DateTime.ofInstant, DateTime.instant?]

/-! ## Clock readings -/

/-- The successive readings of the clock during one request. -/
structure Clock where
  reading : Nat → Instant
  mono : ∀ {m n : Nat}, m ≤ n → reading m ≤ reading n

/-- A clock that stands still during the request. -/
def Clock.at (t : Instant) : Clock := ⟨fun _ => t, fun _ => Int.le_refl t⟩

end Coworking
