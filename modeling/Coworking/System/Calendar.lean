import Coworking.System.Records

/-!
# The Calendar of a Store

The blocking bookings and live holds of a store form a calendar in the sense of
`Foundation.Calendar`.  Each kind of write is a sequence of its moves, for any notion of
clash, provided that what it adds clashes with nothing that stays.

- `places_hold`, `places_booking`, `places_move`: the writes that add an entry;
- `within_holdCancelled`, `within_patch`: the writes that at most give one up.
-/

namespace Coworking

open Foundation

/-! ## §1 Entries -/

/-- Who holds a slot. -/
inductive RecordId
  | booking (id : Uuid)
  | hold (id : Uuid)
  deriving DecidableEq

/-- The blocking bookings and the holds that are live at `now`. -/
def Store.calendar (s : Store) (now : Instant) : Calendar RecordId Slot
  | .booking id => ((s.bookings.get? id).filter (·.status.blocking)).map (·.toSlot)
  | .hold id => ((s.holds.get? id).filter (·.live now)).map (·.toSlot)

variable {s s' : Store} {now now' : Instant} {id : Uuid} {a : Slot}

theorem calendar_booking : s.calendar now (.booking id) = some a ↔
    ∃ b, s.bookings.get? id = some b ∧ b.status.blocking ∧ b.toSlot = a := by
  simp [Store.calendar, Option.map_eq_some_iff, Option.filter_eq_some_iff, and_assoc]

theorem calendar_hold : s.calendar now (.hold id) = some a ↔
    ∃ h, s.holds.get? id = some h ∧ h.live now ∧ h.toSlot = a := by
  simp [Store.calendar, Option.map_eq_some_iff, Option.filter_eq_some_iff, and_assoc]

/-- Time only gives holds up. -/
theorem calendar_later (hle : now ≤ now') : Within (s.calendar now') (s.calendar now) := by
  intro k a hk
  cases k with
  | booking id => exact hk
  | hold id =>
    obtain ⟨h, hget, hlive, ha⟩ := calendar_hold.mp hk
    exact calendar_hold.mpr ⟨h, hget, hlive.mono hle, ha⟩

/-- A store with the same holds and bookings has the same calendar. -/
theorem calendar_eq (hh : s'.holds = s.holds) (hb : s'.bookings = s.bookings) :
    s'.calendar now = s.calendar now := by
  funext k
  cases k with
  | booking id => simp only [Store.calendar, hb]
  | hold id => simp only [Store.calendar, hh]

/-! ## §2 Writes that add an entry -/

variable {rt : Runtime} {clash : Slot → Slot → Prop}

/-- A new hold is one new entry. -/
theorem places_hold {d : HoldDraft} (hle : now ≤ now')
    (hh : s'.holds = s.holds.insert (d.row (rt.fresh s.holds)) (d.row_fresh rt s.holds))
    (hb : s'.bookings = s.bookings)
    (hfree : ∀ l b, s.calendar now' l = some b → ¬ clash d.slot b) :
    CalendarSteps clash (s.calendar now) (s'.calendar now') := by
  refine .place (k := .hold (rt.fresh s.holds)) (a := d.slot) ?_ ?_
  · intro b hk
    obtain ⟨x, hget, -, rfl⟩ := calendar_hold.mp hk
    rw [hh, get?_insert_hold, if_pos rfl, Option.some.injEq] at hget
    exact hget ▸ rfl
  · intro l b hl hcal
    -- Any other entry was there before, under the same key.
    have hold : s.calendar now' l = some b := by
      cases l with
      | booking id =>
        obtain ⟨x, hget, hx⟩ := calendar_booking.mp hcal
        exact calendar_booking.mpr ⟨x, hb ▸ hget, hx⟩
      | hold id =>
        obtain ⟨x, hget, hx⟩ := calendar_hold.mp hcal
        rw [hh, get?_insert_hold, if_neg fun he => hl (congrArg _ he)] at hget
        exact calendar_hold.mpr ⟨x, hget, hx⟩
    exact ⟨calendar_later hle l b hold, hfree l b hold⟩

/-- A new booking is one new entry; the hold it converts is given up. -/
theorem places_booking {d : BookingDraft} (hle : now ≤ now')
    (hh : s'.holds = convertHold s.holds d.holdId)
    (hb : s'.bookings =
      s.bookings.insert (d.row (rt.fresh s.bookings)) (d.row_fresh rt s.bookings))
    (hfree : ∀ l b, s.calendar now' l = some b → (∀ id, l = .hold id → some id ≠ d.holdId) →
      ¬ clash d.slot b) :
    CalendarSteps clash (s.calendar now) (s'.calendar now') := by
  refine .place (k := .booking (rt.fresh s.bookings)) (a := d.slot) ?_ ?_
  · intro b hk
    obtain ⟨x, hget, -, rfl⟩ := calendar_booking.mp hk
    rw [hb, get?_insert_booking, if_pos rfl, Option.some.injEq] at hget
    exact hget ▸ rfl
  · intro l b hl hcal
    -- A hold that is still live is not the one the booking converted.
    have hold : s.calendar now' l = some b ∧ ∀ id, l = .hold id → some id ≠ d.holdId := by
      cases l with
      | booking id =>
        obtain ⟨x, hget, hx⟩ := calendar_booking.mp hcal
        rw [hb, get?_insert_booking, if_neg fun he => hl (congrArg _ he)] at hget
        exact ⟨calendar_booking.mpr ⟨x, hget, hx⟩, nofun⟩
      | hold id =>
        obtain ⟨x, hget, hlive, hx⟩ := calendar_hold.mp hcal
        obtain ⟨hget, hne⟩ := get?_convertHold (hh ▸ hget) hlive.status
        refine ⟨calendar_hold.mpr ⟨x, hget, hlive, hx⟩, ?_⟩
        rintro _ ⟨⟩
        exact hne
    exact ⟨calendar_later hle l b hold.1, hfree l b hold.1 hold.2⟩

/-- A move replaces the entry of one booking. -/
theorem places_move {p : BookingPatch} (hle : now ≤ now')
    (hh : s'.holds = s.holds) (hb : s'.bookings = (s.updateBooking id p).bookings)
    (hslot : ∀ b, s.bookings.get? id = some b → (p.apply b).toSlot = a)
    (hfree : ∀ l b, l ≠ .booking id → s.calendar now' l = some b → ¬ clash a b) :
    CalendarSteps clash (s.calendar now) (s'.calendar now') := by
  refine .place (k := .booking id) (a := a) ?_ ?_
  · intro x hk
    obtain ⟨b', hget', -, rfl⟩ := calendar_booking.mp hk
    rw [hb, get?_updateBooking, Option.map_eq_some_iff] at hget'
    rcases hget' with ⟨b, hget, rfl⟩
    rw [if_pos rfl]
    exact hslot b hget
  · intro l x hl hcal
    have hold : s.calendar now' l = some x := by
      cases l with
      | booking k =>
        obtain ⟨y, hget, hy⟩ := calendar_booking.mp hcal
        rw [hb, get?_updateBooking, Option.map_eq_some_iff] at hget
        rcases hget with ⟨y₀, hget₀, rfl⟩
        rw [if_neg fun he => hl (congrArg _ he)] at hy
        exact calendar_booking.mpr ⟨y₀, hget₀, hy⟩
      | hold k =>
        obtain ⟨y, hget, hy⟩ := calendar_hold.mp hcal
        exact calendar_hold.mpr ⟨y, hh ▸ hget, hy⟩
    exact ⟨calendar_later hle l x hold, hfree l x hl hold⟩

/-! ## §3 Writes that at most give one up -/

/-- A cancelled hold is given up. -/
theorem within_holdCancelled {holdId : Uuid} (hle : now ≤ now')
    (hh : s'.holds =
      s.holds.modify holdId (Hold.setStatus .cancelled) (Hold.setStatus_key .cancelled))
    (hb : s'.bookings = s.bookings) : Within (s'.calendar now') (s.calendar now) := by
  intro l b hcal
  cases l with
  | booking id =>
    obtain ⟨x, hget, hx⟩ := calendar_booking.mp hcal
    exact calendar_booking.mpr ⟨x, hb ▸ hget, hx⟩
  | hold id =>
    obtain ⟨x, hget, hlive, hx⟩ := calendar_hold.mp hcal
    rw [hh, Table.get?_modify, Option.map_eq_some_iff] at hget
    rcases hget with ⟨x₀, hget₀, rfl⟩
    by_cases hid : id = holdId
    · rw [if_pos hid] at hlive
      exact nomatch hlive.status
    · rw [if_neg hid] at hlive hx
      exact calendar_hold.mpr ⟨x₀, hget₀, hlive.mono hle, hx⟩

/-- A write without a window that makes no booking blocking at most gives an entry up. -/
theorem within_patch {p : BookingPatch} (hle : now ≤ now') (hstart : p.startTime = none)
    (hstop : p.endTime = none)
    (hblocking : ∀ b, s.bookings.get? id = some b → (p.apply b).status.blocking →
      b.status.blocking)
    (hh : s'.holds = s.holds) (hb : s'.bookings = (s.updateBooking id p).bookings) :
    Within (s'.calendar now') (s.calendar now) := by
  intro l x hcal
  cases l with
  | booking k =>
    obtain ⟨y, hget, hbl, hy⟩ := calendar_booking.mp hcal
    rw [hb, get?_updateBooking, Option.map_eq_some_iff] at hget
    rcases hget with ⟨y₀, hget₀, rfl⟩
    by_cases hid : k = id
    · -- The patched row blocked before as well, and has the window it had.
      subst hid
      rw [if_pos rfl] at hbl hy
      rw [BookingPatch.apply_toSlot hstart hstop y₀] at hy
      exact calendar_booking.mpr ⟨y₀, hget₀, hblocking y₀ hget₀ hbl, hy⟩
    · rw [if_neg hid] at hbl hy
      exact calendar_booking.mpr ⟨y₀, hget₀, hbl, hy⟩
  | hold k =>
    obtain ⟨y, hget, hlive, hy⟩ := calendar_hold.mp hcal
    exact calendar_hold.mpr ⟨y, hh ▸ hget, hlive.mono hle, hy⟩

end Coworking
