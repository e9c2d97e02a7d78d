import Coworking.System.Records

/-!
# Released Bookings

A booking in CANCELLED, EXPIRED, NO_SHOW or COMPLETED gives its slot up, and others may book
it.  Whether it can ever block again is a question about each operation's own status guard.

`create_checkin` turns away two statuses by name and checks in every other, so it takes an
EXPIRED, NO_SHOW or COMPLETED booking back to CHECKED_IN; no other operation revives one.

- `released_step_iff`: the one step that revives a released booking;
- `released_run_iff`: the runs along which it stays released, exactly.
-/

namespace Coworking

open Foundation

variable {rt : Runtime} {id : Uuid}

/-- The booking exists and blocks nothing. -/
def Released (id : Uuid) (x : State) : Prop :=
  ∃ b, x.store.bookings.get? id = some b ∧ ¬ b.status.blocking

/-- The call is a check-in of the booking that the guards of `create_checkin` let through. -/
def RevivingCheckin (id : Uuid) (x : State) (e : Event) : Prop :=
  ∃ payload b, e.op = .createCheckin id payload ∧
    CheckinAccepted e.call x.store id payload b ∧ id ∉ x.store.checkins.keys

/-! ## §1 One call -/

/-- An accepted check-in takes effect. -/
theorem createCheckin_of_accepted {c : Call} {s : Store} {payload : CheckinRequest} {b : Booking}
    (h : CheckinAccepted c s id payload b) (hnew : id ∉ s.checkins.keys) :
    ∃ s', createCheckin c s id payload = .ok s' ∧
      s'.bookings.get? id = some { b with status := .checkedIn } := by
  refine ⟨_, createCheckin_eq_ok.mpr ⟨_, checkCheckin_eq_ok.mpr ⟨b, h, rfl⟩,
    commitCheckin_eq_ok.mpr ⟨hnew, rfl⟩⟩, ?_⟩
  obtain ⟨rfl, hget⟩ := get?_of_bookingOf? h.owned
  exact get?_updateBooking_self hget

/-- A status change that is not a check-in leaves a released booking released. -/
theorem StatusChange.released {c : Call} {s : Store} {b : Booking} {op : Op} {v : BookingStatus}
    (h : StatusChange c s b op v) (hb : ¬ b.status.blocking) :
    ¬ v.blocking ∨ ∃ payload, op = .createCheckin b.id payload ∧
      CheckinAccepted c s b.id payload b ∧ b.id ∉ s.checkins.keys := by
  cases h with
  | keep => exact .inl hb
  | confirm hpending =>
    rw [hpending] at hb
    exact (hb rfl).elim
  | @checkIn payload haccepted hnew => exact .inr ⟨payload, rfl, haccepted, hnew⟩
  | cancel => exact .inl nofun

/-- A call that is not such a check-in keeps a released booking released. -/
theorem RecordChange.keeps_released {c : Call} {s s' : Store} {op : Op} {now now' : Instant}
    (hc : RecordChange rt c s op s') (h : Released id ⟨now, s⟩)
    (hop : ¬ RevivingCheckin id ⟨now, s⟩ ⟨c, op⟩) : Released id ⟨now', s'⟩ := by
  rcases h with ⟨b, hget, hb⟩
  obtain rfl : b.id = id := Table.key_of_get? hget
  obtain ⟨b', hget', hrow⟩ := hc.row hget
  refine ⟨b', hget', ?_⟩
  cases hrow with
  | kept => exact hb
  | moved hu =>
    -- A booking that moves is pending or confirmed.
    obtain ⟨b₀, _, _, _, howned, hstatus, -⟩ := checkReschedule_eq_ok.mp hu
    obtain rfl : b = b₀ :=
      Option.some.inj (hget.symm.trans (Store.bookingOf?_eq_some.mp howned).1)
    rcases hstatus with hs | hs <;> simp [hs, BookingStatus.blocking] at hb
  | restated _ _ hstatus =>
    -- The only change of status that makes it block is the check-in excluded here.
    exact (hstatus.released hb).resolve_right fun ⟨payload, hcheckin, haccepted, hnew⟩ =>
      hop ⟨payload, b, hcheckin, haccepted, hnew⟩

/-- **One call.**  A released booking blocks again exactly after an accepted check-in. -/
theorem released_step_iff {x y : State} {e : Event} (h : Released id x)
    (hstep : SerialStep rt x e y) : Released id y ↔ ¬ RevivingCheckin id x e := by
  constructor
  · rintro ⟨b', hget', hb'⟩ ⟨payload, b, hop, haccepted, hnew⟩
    obtain ⟨s', hok, hget⟩ := createCheckin_of_accepted haccepted hnew
    rw [hstep.store_of_ok hop hok, hget, Option.some.injEq] at hget'
    exact hb' (hget' ▸ rfl)
  · exact hstep.effect.recordChange.keeps_released h

/-! ## §2 Runs -/

/-- **Released bookings along a run.**  A booking that released its slot stays released in every
state of a run if and only if none of its calls is a check-in of that booking which the guards of
`create_checkin` let through. -/
theorem released_run_iff {x y : State} {es : List Event} (h : Released id x) :
    Run (Keeping (Released id) (SerialStep rt)) x es y ↔
      Run (Guarded (fun x e => ¬ RevivingCheckin id x e) (SerialStep rt)) x es y :=
  Run.keeping_iff_guarded (fun _ _ _ h hstep => released_step_iff h hstep) h

/-- The small venue with a completed booking of seat `A1`, from ten to eleven. -/
def completedStore : Store :=
  { smallStore with
    bookings := ⟨[⟨⟨7, .seat, some 1, some 2, some 3, minutes 600, minutes 660⟩, 1, none,
      .completed, 0, "RUB", none⟩], by decide⟩ }

def manualCheckin : CheckinRequest := ⟨.manual, none, none, none⟩

/-- Its owner cancels it and then tries to check in. -/
def cancelThenCheckin : List Event :=
  [⟨.plain 7 1, .cancelBooking 1⟩, ⟨.plain 7 2, .createCheckin 1 manualCheckin⟩]

theorem released_run_iff_completed :
    Run (Keeping (Released 1) (SerialStep .plain)) ⟨0, completedStore⟩ cancelThenCheckin
      ⟨2, replay .plain completedStore cancelThenCheckin⟩ := by
  have hcancel : ¬ RevivingCheckin 1 ⟨0, completedStore⟩ ⟨.plain 7 1, .cancelBooking 1⟩ :=
    fun ⟨_, _, hop, _⟩ => nomatch hop
  have hcheckin : ¬ RevivingCheckin 1
      ⟨1, replay .plain completedStore [⟨.plain 7 1, .cancelBooking 1⟩]⟩
      ⟨.plain 7 2, .createCheckin 1 manualCheckin⟩ := by
    rintro ⟨_, b, hop, haccepted, -⟩
    have hb : ((replay .plain completedStore [⟨.plain 7 1, .cancelBooking 1⟩]).bookingOf? 1 7).map
        (·.status) = some .cancelled := by decide
    have howned := haccepted.owned
    rw [show (Event.call ⟨.plain 7 2, .createCheckin 1 manualCheckin⟩).user = 7 from rfl] at howned
    rw [howned] at hb
    exact haccepted.notCancelled (Option.some.inj hb)
  exact (released_run_iff ⟨_, rfl, by decide⟩).mpr
    (.snoc (.single ⟨hcancel, by decide, le_rfl, rfl⟩) ⟨hcheckin, by decide, by decide, rfl⟩)

/-- The slot is sold again, and then the owner of the completed booking checks in. -/
def resaleThenCheckin : List Event :=
  [⟨.plain 8 1, .createBooking (smallBooking none)⟩, ⟨.plain 7 2, .createCheckin 1 manualCheckin⟩]

theorem completed_booking_revived :
    Released 1 ⟨0, completedStore⟩ ∧
    Run (SerialStep .plain) ⟨0, completedStore⟩
      resaleThenCheckin ⟨2, replay .plain completedStore resaleThenCheckin⟩ ∧
    ((replay .plain completedStore resaleThenCheckin).bookings.rows.map
      fun b => (b.id, b.status, b.seatId, b.startTime, b.endTime)) =
      [(1, .checkedIn, some 3, minutes 600, minutes 660),
        (2, .confirmed, some 3, minutes 600, minutes 660)] :=
  ⟨⟨_, rfl, by decide⟩, InOrder.run (by decide : InOrder 0 resaleThenCheckin) completedStore,
    by decide⟩

end Coworking
