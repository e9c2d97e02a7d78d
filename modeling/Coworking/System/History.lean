import Coworking.Services.Listing
import Coworking.System.Release

/-!
# The History of a User

`list_booking_history` shows what has ended or is over by its status.  Whether a booking stays
there is up to the guards of `reschedule_booking` and `create_checkin`, and these look at
statuses only: a booking whose window has passed unused can be moved into the future, and one in
COMPLETED or NO_SHOW can be checked in.

- `Reactivates`: the two calls that take a booking out of the history;
- `past_step`, `not_past_of_reactivates`: every other call keeps it there, and these do not;
- `history_final`: runs without these two.
-/

namespace Coworking

open Foundation

variable {rt : Runtime} {db : Database} {id user : Uuid} {x y : State} {e : Event}

/-- The user's booking belongs to the history at the clock of the state. -/
def PastAt (id user : Uuid) (x : State) : Prop :=
  ∃ b, x.store.bookings.get? id = some b ∧ b.userId = user ∧ b.Past x.now

/-- The call moves the booking, or checks it in before its window has passed. -/
inductive Reactivates (rt : Runtime) (id : Uuid) (x : State) (e : Event) : Prop
  | move {payload : BookingWindowUpdateRequest} :
      e.op = .rescheduleBooking id payload →
      Returns (rescheduleBooking rt e.call x.store id payload) → Reactivates rt id x e
  | checkIn {payload : CheckinRequest} {b : Booking} :
      e.op = .createCheckin id payload → Returns (createCheckin e.call x.store id payload) →
      x.store.bookings.get? id = some b → e.call.now 0 ≤ b.endTime → Reactivates rt id x e

/-! ## §1 One call -/

/-- What is past stays so as time passes. -/
theorem Booking.Past.mono {b : Booking} {now now' : Instant} (h : b.Past now) (hle : now ≤ now') :
    b.Past now' := by
  rcases h with hended | hstatus
  · exact .inl (hended.trans_le hle)
  · exact .inr hstatus

/-- A change of status keeps a booking past, check-ins before its end apart. -/
theorem StatusChange.past {c : Call} {s : Store} {b : Booking} {op : Op} {v : BookingStatus}
    (h : StatusChange c s b op v) {now : Instant} (hb : b.Past now)
    (hcheckin : ∀ payload, op = .createCheckin b.id payload →
      Returns (createCheckin c s b.id payload) → b.endTime < now) :
    b.endTime < now ∨ v ∈ [BookingStatus.cancelled, .completed, .noShow] := by
  cases h with
  | keep => exact hb
  | confirm hpending =>
    -- A pending booking is past by the clock.
    refine .inl (hb.resolve_right fun hstatus => ?_)
    simp [hpending] at hstatus
  | checkIn haccepted hnew =>
    obtain ⟨s', hok, -⟩ := createCheckin_of_accepted haccepted hnew
    exact .inl (hcheckin _ rfl ⟨s', hok⟩)
  | cancel => exact .inr (by simp)

/-- **One call.**  Unless it moves the booking or checks it in early, what is past stays past. -/
theorem past_step (h : PastAt id user x) (hstep : SerialStep rt x e y)
    (hkeep : ¬ Reactivates rt id x e) : PastAt id user y := by
  rcases h with ⟨b, hget, huser, hpast⟩
  obtain rfl : b.id = id := Table.key_of_get? hget
  have hlater : b.Past y.now := hpast.mono hstep.now_le
  obtain ⟨call, op⟩ := e
  obtain ⟨b', hget', hrow⟩ := hstep.effect.recordChange.row hget
  refine ⟨b', hget', ?_⟩
  cases hrow with
  | kept => exact ⟨huser, hlater⟩
  | moved hu =>
    exact (hkeep (.move rfl ⟨_, rescheduleBooking_eq_ok.mpr ⟨_, hu, rfl⟩⟩)).elim
  | @restated _ p hstart hstop hstatus =>
    refine ⟨huser, ?_⟩
    rw [Booking.Past, BookingPatch.apply_endTime, BookingPatch.apply_status, hstop,
      Option.getD_none]
    refine hstatus.past hlater fun payload hop hok => ?_
    subst hop
    -- A check-in that is not early comes after the end.
    have hafter : b.endTime < call.now 0 := not_le.mp fun hle => hkeep (.checkIn rfl hok hget hle)
    exact hafter.trans_le (hstep.reading (Nat.zero_le 3)).2

/-- When either of the two goes through, the booking is upcoming or active at that moment. -/
theorem not_past_of_reactivates (h : Reactivates rt id x e) (hstep : SerialStep rt x e y) :
    ∃ b, y.store.bookings.get? id = some b ∧ ¬ b.Past (e.call.now 0) := by
  cases h with
  | @move payload hop hok =>
    rcases hok with ⟨s', hok⟩
    have hstore : y.store = s' := hstep.store_of_ok hop hok
    obtain ⟨u, hu, rfl⟩ := rescheduleBooking_eq_ok.mp hok
    obtain ⟨b, start, stop, ctx, howned, -, -, -, -, hadm, -, rfl⟩ := checkReschedule_eq_ok.mp hu
    obtain ⟨rfl, hget⟩ := get?_of_bookingOf? howned
    rw [hstore]
    refine ⟨_, get?_updateBooking_self hget, ?_⟩
    -- The new window lies in the future, and the status is an initial one.
    rintro (hended | hstatus)
    · rw [BookingPatch.apply_endTime, dirty_getD] at hended
      exact lt_asymm (hadm.future.trans hadm.ordered) hended
    · rw [BookingPatch.apply_status, dirty_getD] at hstatus
      have hopen : ∀ needsPayment, initialStatus needsPayment ∉
          [BookingStatus.cancelled, .completed, .noShow] := by decide
      exact hopen _ hstatus
  | @checkIn payload b hop hok hget hbefore =>
    rcases hok with ⟨s', hok⟩
    obtain ⟨d, hd, hcommit⟩ := createCheckin_eq_ok.mp hok
    obtain ⟨hnew, -⟩ := commitCheckin_eq_ok.mp hcommit
    obtain ⟨b₀, haccepted, rfl⟩ := checkCheckin_eq_ok.mp hd
    obtain ⟨s'', hok', hget'⟩ := createCheckin_of_accepted haccepted hnew
    obtain rfl : b = b₀ :=
      Option.some.inj (hget.symm.trans (Store.bookingOf?_eq_some.mp haccepted.owned).1)
    have hstore : y.store = s'' := hstep.store_of_ok hop hok'
    refine ⟨_, hstore ▸ hget', ?_⟩
    rintro (hended | hstatus)
    · exact (not_lt.mpr hbefore) hended
    · simp at hstatus

/-! ## §2 Runs -/

/-- **History is final** along the runs in which no call moves a booking that is over or checks it
in before its window has passed: what the history reports at one time, on pages of any size, it
reports at every later time. -/
theorem history_final {es : List Event} {c₁ c₂ : Call} {query₁ query₂ : PageQuery}
    (hrun : Run (Guarded (fun x e => ¬ Reactivates rt id x e) (SerialStep rt)) x es y)
    (hbefore : c₁.now 0 ≤ x.now) (hafter : y.now ≤ c₂.now 0) (huser : c₂.user = c₁.user)
    (hreported : Reports (listBookingHistory db c₁ x.store) query₁ id) :
    Reports (listBookingHistory db c₂ y.store) query₂ id := by
  rw [reports_listBookingHistory] at hreported ⊢
  rcases hreported with ⟨b, hget, hb, hpast⟩
  have hx : PastAt id c₁.user x := ⟨b, hget, hb, hpast.mono hbefore⟩
  have hy : PastAt id c₁.user y :=
    hrun.invariant (I := PastAt id c₁.user) (fun _ _ _ h hstep => past_step h hstep.2 hstep.1) hx
  rcases hy with ⟨b', hget', hb', hpast'⟩
  exact ⟨b', hget', hb'.trans huser.symm, hpast'.mono hafter⟩

/-- User 7 books and cancels; later user 8 books the slot. -/
def bookThenCancel : List Event :=
  [⟨.plain 7 1, .createBooking (smallBooking none)⟩, ⟨.plain 7 2, .cancelBooking 1⟩]

def bookAgain : Event := ⟨.plain 8 3, .createBooking (smallBooking none)⟩

theorem history_final_cancelled :
    Reports (listBookingHistory .plain (.plain 7 3)
      (step .plain (replay .plain smallStore bookThenCancel) bookAgain)) firstPage 1 := by
  have hrun : Run (Guarded (fun x e => ¬ Reactivates .plain 1 x e) (SerialStep .plain))
      ⟨2, replay .plain smallStore bookThenCancel⟩ [bookAgain]
      ⟨3, step .plain (replay .plain smallStore bookThenCancel) bookAgain⟩ := by
    refine .single ⟨?_, by decide, le_rfl, rfl⟩
    intro h
    cases h with
    | move hop => cases hop
    | checkIn hop => cases hop
  have hreported : Reports (listBookingHistory .plain (.plain 7 2)
      (replay .plain smallStore bookThenCancel)) firstPage 1 :=
    reports_listBookingHistory.mpr ⟨_, rfl, rfl, .inr (by decide)⟩
  have huser : (Call.plain 7 3).user = (Call.plain 7 2).user := rfl
  exact history_final hrun le_rfl le_rfl huser hreported

/-- The booking from ten to eleven is not used; at 11:40 its owner moves it to twelve. -/
def unused : List Event := [⟨.plain 7 1, .createBooking (smallBooking none)⟩]

def moveToNoon : Event :=
  ⟨.plain 7 (minutes 700),
    .rescheduleBooking 1 ⟨.ofInstant (minutes 720), .ofInstant (minutes 780)⟩⟩

theorem ended_booking_upcoming :
    Run (SerialStep .plain) ⟨0, smallStore⟩ (unused ++ [moveToNoon])
      ⟨minutes 700, replay .plain smallStore (unused ++ [moveToNoon])⟩ ∧
    Reports (listBookingHistory .plain (.plain 7 (minutes 700)) (replay .plain smallStore unused))
      firstPage 1 ∧
    ¬ Reports (listBookingHistory .plain (.plain 7 (minutes 701))
      (replay .plain smallStore (unused ++ [moveToNoon]))) firstPage 1 := by
  refine ⟨(by decide : InOrder 0 (unused ++ [moveToNoon])).run smallStore,
    reports_listBookingHistory.mpr ⟨_, rfl, rfl, .inl (by decide)⟩, ?_⟩
  rw [reports_listBookingHistory]
  rintro ⟨b, hget, -, hpast⟩
  have hb : ((replay .plain smallStore (unused ++ [moveToNoon])).bookings.get? 1).map
      (fun b => (b.status, b.endTime)) = some (.confirmed, minutes 780) := by decide +kernel
  rw [hget, Option.map_some, Option.some.injEq, Prod.mk.injEq] at hb
  rcases hpast with hended | hstatus
  · rw [hb.2] at hended
    exact absurd hended (by decide)
  · simp [hb.1] at hstatus

end Coworking
