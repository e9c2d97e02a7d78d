import Coworking.Core.Time
import Coworking.Foundation.Checked

/-!
# The Ends of the Calendar

Python's dates end with the years 1 and 9999, and a `timedelta` has at most 999999999 days.  What
would go beyond raises `OverflowError`.

- `InCalendar`: the datetimes there are;
- `Ranged.nextDate`, `Ranged.timedelta`, `Ranged.add`, `Ranged.toUtc`, `Ranged.toWall`: the
  operations of dates and datetimes that can leave their range;
- `deltaInRange_of_add`: between two datetimes there always is a `timedelta`;
- `FarFromEnds`: the datetimes that can be moved by a century.
-/

namespace Coworking

open Foundation

/-! ## §1 Dates and datetimes -/

/-- `date.min`: 0001-01-01. -/
def Date.min : Date := -719162

/-- `date.max`: 9999-12-31. -/
def Date.max : Date := 2932896

def Date.InCalendar (d : Date) : Prop := Date.min ≤ d ∧ d ≤ Date.max

instance : DecidablePred Date.InCalendar := fun d => inferInstanceAs (Decidable (_ ≤ d ∧ d ≤ _))

theorem Date.inCalendar_succ {d : Date} (h : d.InCalendar) :
    Date.InCalendar (d + 1) ↔ d ≠ Date.max := by
  unfold InCalendar at h ⊢
  constructor
  · rintro ⟨-, hmax⟩ rfl
    exact absurd hmax (by decide)
  · intro hne
    exact ⟨Int.le_add_one h.1, Int.add_one_le_of_lt (lt_of_le_of_ne h.2 hne)⟩

/-- A datetime, in UTC or on a local clock, on one of the dates. -/
def InCalendar (x : Int) : Prop := Date.InCalendar (Wall.date x)

instance : DecidablePred InCalendar := fun x =>
  inferInstanceAs (Decidable (Date.InCalendar (Wall.date x)))

private theorem ediv_le_iff {x d : Int} : x / microsPerDay ≤ d ↔ x < days (d + 1) := by
  rw [← Int.lt_add_one_iff, Int.ediv_lt_iff_lt_mul microsPerDay_pos, days]

theorem inCalendar_iff {x : Int} :
    InCalendar x ↔ days Date.min ≤ x ∧ x < days (Date.max + 1) :=
  and_congr (Int.le_ediv_iff_mul_le microsPerDay_pos) ediv_le_iff

theorem inCalendar_combine {d : Date} {t : LocalTime} :
    InCalendar (combine d t) ↔ d.InCalendar := by
  rw [InCalendar, combine_date]

theorem days_succ (d : Date) : days (d + 1) = days d + microsPerDay := by
  rw [days, days, Int.add_mul, Int.one_mul]

theorem days_sub (d d' : Date) : days (d - d') = days d - days d' := Int.sub_mul _ _ _

theorem days_le {d d' : Date} (h : d ≤ d') : days d ≤ days d' :=
  Int.mul_le_mul_of_nonneg_right h microsPerDay_pos.le

/-! ## §2 Differences -/

/-- The length of a `timedelta`: its days, rounded down, have at most nine digits. -/
def DeltaInRange (delta : Int) : Prop :=
  -999999999 ≤ delta / microsPerDay ∧ delta / microsPerDay ≤ 999999999

instance : DecidablePred DeltaInRange := fun _ => inferInstanceAs (Decidable (_ ∧ _))

/-- The calendar is shorter than the longest `timedelta`. -/
theorem deltaInRange_of_add {x delta : Int} (hx : InCalendar x) (h : InCalendar (x + delta)) :
    DeltaInRange delta := by
  rw [inCalendar_iff] at hx h
  have hlow : -999999999 * microsPerDay ≤ -(days (Date.max + 1) - days Date.min) := by decide
  have hhigh : days (Date.max + 1) - days Date.min ≤ days (999999999 + 1) := by decide
  unfold DeltaInRange
  rw [Int.le_ediv_iff_mul_le microsPerDay_pos, ediv_le_iff]
  constructor
  · omega
  · omega

/-! ## §3 Operations -/

variable {ε : Type}

/-- `date + timedelta(days=1)`. -/
def Ranged.nextDate (d : Date) : Checked ε Date := checked Date.InCalendar (d + 1)

/-- `timedelta(…)` of this length. -/
def Ranged.timedelta (delta : Int) : Checked ε Int := checked DeltaInRange delta

/-- `datetime + timedelta`. -/
def Ranged.add (x delta : Int) : Checked ε Int := checked InCalendar (x + delta)

/-- `.astimezone(UTC)` of a local value. -/
def Ranged.toUtc (tz : Zone) (w : Wall) : Checked ε Instant := checked InCalendar (tz.toUtc w)

/-- `.astimezone(tz)` of a UTC value. -/
def Ranged.toWall (tz : Zone) (t : Instant) : Checked ε Wall := checked InCalendar (tz.toWall t)

example : (Ranged.nextDate Date.max : Checked Unit Date) = .error .overflow := by decide

/-! ## §4 Offsets -/

/-- `utcoffset()` is strictly between a day before and a day after UTC. -/
def Zone.WithinADay (tz : Zone) : Prop :=
  ∀ w, -microsPerDay < tz.offsetOfWall w ∧ tz.offsetOfWall w < microsPerDay

/-! ## §5 Far from the ends -/

/-- 36525 days. -/
def century : Int := days 36525

/-- At least a century after the first date and before the last. -/
def Date.FarFromEnds (d : Date) : Prop :=
  Date.InCalendar (d - 36525) ∧ Date.InCalendar (d + 36525)

instance : DecidablePred Date.FarFromEnds := fun d =>
  inferInstanceAs (Decidable (Date.InCalendar (d - 36525) ∧ Date.InCalendar (d + 36525)))

/-- A datetime on such a date. -/
def FarFromEnds (x : Int) : Prop := Date.FarFromEnds (Wall.date x)

instance : DecidablePred FarFromEnds := fun x =>
  inferInstanceAs (Decidable (Date.FarFromEnds (Wall.date x)))

theorem microsPerDay_lt_century : microsPerDay < century := by decide

theorem Date.FarFromEnds.inCalendar {d : Date} (h : d.FarFromEnds) : d.InCalendar := by
  obtain ⟨⟨hlow, -⟩, -, hhigh⟩ := h
  exact ⟨hlow.trans (Int.sub_le_self d (by decide)),
    (Int.le_add_of_nonneg_right (by decide)).trans hhigh⟩

theorem Date.FarFromEnds.bounds {d : Date} (h : d.FarFromEnds) :
    days Date.min + century ≤ days d ∧ days d + century ≤ days Date.max := by
  have hlow := days_le h.1.1
  have hhigh := days_le h.2.2
  have hsum : days (d + 36525) = days d + century := Int.add_mul _ _ _
  rw [days_sub] at hlow
  rw [hsum] at hhigh
  exact ⟨Int.add_le_of_le_sub_right hlow, hhigh⟩

theorem FarFromEnds.bounds {x : Int} (h : FarFromEnds x) :
    days Date.min + century ≤ x ∧ x + century < days (Date.max + 1) := by
  obtain ⟨hlow, hhigh⟩ := Date.FarFromEnds.bounds h
  obtain ⟨hdate, hnext⟩ : days (Wall.date x) ≤ x ∧ x < days (Wall.date x + 1) :=
    ⟨Int.ediv_mul_le x microsPerDay_pos.ne', Int.lt_ediv_add_one_mul_self x microsPerDay_pos⟩
  rw [days_succ] at hnext ⊢
  exact ⟨hlow.trans hdate, by omega⟩

/-- Within a century of it there is a datetime. -/
theorem FarFromEnds.add {x delta : Int} (h : FarFromEnds x) (hlow : -century ≤ delta)
    (hhigh : delta ≤ century) : InCalendar (x + delta) := by
  obtain ⟨hmin, hmax⟩ := h.bounds
  rw [inCalendar_iff]
  constructor
  · omega
  · omega

theorem FarFromEnds.inCalendar {x : Int} (h : FarFromEnds x) : InCalendar x :=
  Date.FarFromEnds.inCalendar h

end Coworking
