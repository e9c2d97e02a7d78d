import Coworking.System.Exclusivity

/-!
# Opening Hours

Holds and bookings store UTC instants; opening hours are about local dates and weekdays.  Four
services check one against the other before they write a window.

- `Slot.FitsHours`: a window within the opening hours, spelt out on the local clock;
- `Validated`, `RecordChange.slot?`: whatever window a call writes has passed the checks;
- `Accepted`: the call that wrote a window, before the window began;
- `stored_within_hours`: what every stored hold and booking has passed.
-/

namespace Coworking

open Foundation

variable {rt : Runtime} {c : Call} {s s' : Store} {op : Op} {a : Slot} {k : RecordId}

/-! ## §1 Windows on the local clock -/

/-- Is the room marked closed on the weekday of the date? -/
def Store.roomClosed (s : Store) (roomId : Uuid) (d : Date) : Bool :=
  (s.roomHours.get? (roomId, d.weekday)).any (·.isClosed)

/-- When the room opens on the weekday of the date: at 00:00 without a row or a bound. -/
def Store.roomOpens (s : Store) (roomId : Uuid) (d : Date) : LocalTime :=
  ((s.roomHours.get? (roomId, d.weekday)).bind (·.startLocalTime)).getD defaultOpenTime

/-- When it closes: at 23:59 without a row or a bound. -/
def Store.roomCloses (s : Store) (roomId : Uuid) (d : Date) : LocalTime :=
  ((s.roomHours.get? (roomId, d.weekday)).bind (·.endLocalTime)).getD defaultCloseTime

/-- The window starts and ends on one local date, between two times of day. -/
def Slot.FitsDay (slot : Slot) (tz : Zone) (openTime closeTime : Date → LocalTime) : Prop :=
  let d := Wall.date (tz.toWall slot.startTime)
  Wall.date (tz.toWall slot.endTime) = d ∧ combine d (openTime d) ≤ tz.toWall slot.startTime ∧
    tz.toWall slot.endTime ≤ combine d (closeTime d)

/-- The window lies within the opening hours of one day: those of its room, at level seat and
room, and the default ones at level venue. -/
structure Slot.FitsHours (rt : Runtime) (s : Store) (slot : Slot) : Prop where
  fits : ∃ venueId venue tz, slot.venueId = some venueId ∧ s.venue? venueId = some venue ∧
    rt.zoneInfo venue.timezone = some tz ∧
    (slot.level = .venue →
      slot.FitsDay tz (fun _ => defaultOpenTime) (fun _ => defaultCloseTime)) ∧
    (slot.level ≠ .venue → ∃ roomId, slot.roomId = some roomId ∧
      s.roomClosed roomId (Wall.date (tz.toWall slot.startTime)) = false ∧
      slot.FitsDay tz (s.roomOpens roomId) (s.roomCloses roomId))

/-- The hours that `_resolve_operating_hours` finds for a room. -/
theorem resolveOperatingHours_of_room {ctx : ResourceContext} {roomId : Uuid} {d : Date}
    {hours : LocalTime × LocalTime} (hroom : ctx.roomId = some roomId)
    (h : resolveOperatingHours s ctx d = some hours) :
    s.roomClosed roomId d = false ∧ hours = (s.roomOpens roomId d, s.roomCloses roomId d) := by
  simp only [resolveOperatingHours, hroom] at h
  simp only [Store.roomClosed, Store.roomOpens, Store.roomCloses]
  cases hrow : s.roomHours.get? (roomId, d.weekday) with
  | none =>
    rw [hrow] at h
    exact ⟨rfl, (Option.some.inj h).symm⟩
  | some row =>
    rw [hrow] at h
    by_cases hclosed : row.isClosed
    · simp [hclosed] at h
    · simp only [hclosed, Bool.false_eq_true, if_false, Option.some.injEq] at h
      exact ⟨by simp [hclosed], h.symm⟩

/-- The opening hours of a room stay what they are. -/
theorem Grows.roomHours_eq (hg : Grows s s') : s'.roomClosed = s.roomClosed ∧
    s'.roomOpens = s.roomOpens ∧ s'.roomCloses = s.roomCloses := by
  refine ⟨?_, ?_, ?_⟩ <;> funext roomId d
  · simp only [Store.roomClosed, hg.roomHours]
  · simp only [Store.roomOpens, hg.roomHours]
  · simp only [Store.roomCloses, hg.roomHours]

theorem Slot.FitsHours.grows (hg : Grows s s') (h : a.FitsHours rt s) : a.FitsHours rt s' := by
  obtain ⟨venueId, venue, tz, hv, hvenue, htz, hwhole, hroom⟩ := h.fits
  obtain ⟨hclosed, hopens, hcloses⟩ := hg.roomHours_eq
  refine ⟨venueId, venue, tz, hv, hg.venues _ _ hvenue, htz, hwhole, ?_⟩
  rw [hclosed, hopens, hcloses]
  exact hroom

/-! ## §2 What a call writes -/

/-- The window passed the checks of the call, for the resource it was written for. -/
structure Validated (rt : Runtime) (c : Call) (s : Store) (a : Slot) : Prop where
  resolved : ∃ level seatId roomId venueId ctx, Resolves s level seatId roomId venueId ctx ∧
    Admissible rt c.rows s ctx (c.now 0) a.startTime a.endTime ∧
    a = ctx.slot a.userId a.startTime a.endTime

theorem Validated.future (h : Validated rt c s a) : c.now 0 < a.startTime := by
  obtain ⟨_, _, _, _, _, -, hadm, -⟩ := h.resolved
  exact hadm.future

/-- A window that passed them fits the opening hours. -/
theorem Validated.fitsHours (h : Validated rt c s a) : a.FitsHours rt s := by
  obtain ⟨level, seatId, roomId, venueId, ctx, hres, hadm, ha⟩ := h.resolved
  obtain ⟨tz, htz, hday, hours, hhours, hopen, hclose⟩ := hadm.hours
  obtain ⟨venue, hvenue, hzone⟩ := hres.timezone
  have hvenueId : a.venueId = some ctx.venueId := by rw [ha]; rfl
  have hroomId : a.roomId = ctx.roomId := by rw [ha]; rfl
  have hlevel : a.level = ctx.level := by rw [ha]; rfl
  refine ⟨ctx.venueId, venue, tz, hvenueId, hvenue, hzone ▸ htz, fun hl => ?_, fun hl => ?_⟩
  · -- A venue has no room whose hours would apply.
    have hroom : ctx.roomId = none := by
      rcases ctx.roomId_cases with ⟨-, hroom⟩ | ⟨hne, -⟩
      · exact hroom
      · exact absurd (hlevel ▸ hl) hne
    simp only [resolveOperatingHours, hroom, Option.some.injEq] at hhours
    rw [← hhours] at hopen hclose
    exact ⟨hday.symm, hopen, hclose⟩
  · obtain ⟨roomId, hroom⟩ : ∃ roomId, ctx.roomId = some roomId := by
      rcases ctx.roomId_cases with ⟨hvenue, -⟩ | ⟨-, hroom⟩
      · exact absurd (hlevel.trans hvenue) hl
      · exact hroom
    obtain ⟨hopened, rfl⟩ := resolveOperatingHours_of_room hroom hhours
    exact ⟨roomId, hroomId.trans hroom, hopened, hday.symm, hopen, hclose⟩

/-- The operations that ask for a window. -/
def Op.asks : Op → Bool
  | .createHold _ | .createBooking _ | .rescheduleBooking _ _ | .repeatBooking _ _ => true
  | _ => false

/-- The window of a hold or a booking. -/
def Store.slot? (s : Store) : RecordId → Option Slot
  | .booking id => (s.bookings.get? id).map (·.toSlot)
  | .hold id => (s.holds.get? id).map (·.toSlot)

theorem slot?_eq (hh : s'.holds = s.holds) (hb : s'.bookings = s.bookings) :
    s'.slot? k = s.slot? k := by
  cases k with
  | booking id => simp only [Store.slot?, hb]
  | hold id => simp only [Store.slot?, hh]

theorem setStatus_slot {holds : Table Hold} {status : HoldStatus} {id own : Uuid} :
    ((holds.modify own (Hold.setStatus status) (Hold.setStatus_key status)).get? id).map
      (·.toSlot) = (holds.get? id).map (·.toSlot) :=
  Table.get?_modify_map (t := holds) (f := Hold.setStatus status) (fun _ => rfl) id

theorem updateBooking_slot {id own : Uuid} {p : BookingPatch} (hstart : p.startTime = none)
    (hstop : p.endTime = none) :
    ((s.updateBooking own p).bookings.get? id).map (·.toSlot) =
      (s.bookings.get? id).map (·.toSlot) := by
  show ((s.bookings.modify own p.apply p.apply_key).get? id).map (·.toSlot) = _
  exact Table.get?_modify_map (BookingPatch.apply_toSlot hstart hstop) id

theorem convertHold_slot {holds : Table Hold} {id : Uuid} (holdId : Option Uuid) :
    ((convertHold holds holdId).get? id).map (·.toSlot) = (holds.get? id).map (·.toSlot) := by
  cases holdId with
  | none => rfl
  | some own => exact setStatus_slot

/-- **Windows are validated.**  A window that is stored after a call was stored before, or was
asked for by the call and has passed its checks. -/
theorem RecordChange.slot? (hs : Sound s) (h : RecordChange rt c s op s')
    (hk : s'.slot? k = some a) : s.slot? k = some a ∨ op.asks ∧ Validated rt c s a := by
  cases h with
  | none hh hb => exact .inl (slot?_eq hh hb ▸ hk)
  | holdCreated hd hh hb =>
    -- A new row carries the window that was checked, an old one the window it had.
    obtain ⟨start, stop, ctx, -, -, hres, hadm, -, rfl⟩ := checkHold_eq_ok.mp hd
    cases k with
    | booking id => exact .inl (by simpa only [Store.slot?, hb] using hk)
    | hold id =>
      simp only [Store.slot?, hh, get?_insert_hold] at hk
      split at hk
      · obtain rfl := Option.some.inj hk
        exact .inr ⟨rfl, _, _, _, _, ctx, hres, hadm, rfl⟩
      · exact .inl hk
  | holdCancelled _ _ hh hb =>
    -- A status is no part of a window.
    left
    cases k with
    | booking id => simpa only [Store.slot?, hb] using hk
    | hold id => simpa only [Store.slot?, hh, setStatus_slot] using hk
  | bookingCreated hop hd hh hb =>
    obtain ⟨start, stop, ctx, -, -, hres, hadm, -, -, rfl⟩ := checkBooking_eq_ok.mp hd
    have hasks : op.asks := by rcases hop with rfl | ⟨_, _, rfl, -⟩ <;> rfl
    cases k with
    | booking id =>
      simp only [Store.slot?, hb, get?_insert_booking] at hk
      split at hk
      · obtain rfl := Option.some.inj hk
        exact .inr ⟨hasks, _, _, _, _, ctx, hres, hadm, rfl⟩
      · exact .inl hk
    | hold id =>
      left
      rw [Store.slot?, hh] at hk
      exact (convertHold_slot _).symm.trans hk
  | moved hu hh hb =>
    obtain ⟨b, start, stop, ctx, howned, -, -, -, hres, hadm, -, rfl⟩ :=
      checkReschedule_eq_ok.mp hu
    obtain ⟨rfl, hget⟩ := get?_of_bookingOf? howned
    cases k with
    | hold id => exact .inl (by simpa only [Store.slot?, hh] using hk)
    | booking id =>
      simp only [Store.slot?, hb, get?_updateBooking, Option.map_map] at hk
      by_cases hid : id = b.id
      · -- The moved row has the window that was checked.
        subst hid
        simp only [hget, Option.map_some, Function.comp_apply, if_true, Option.some.injEq] at hk
        rw [reschedule_toSlot hs (Table.mem_of_get? hget) hres (dirty_getD _ _) (dirty_getD _ _)]
          at hk
        subst hk
        exact .inr ⟨rfl, _, _, _, _, ctx, hres, hadm, rfl⟩
      · simp only [hid, if_false] at hk
        exact .inl hk
  | statusChanged _ hstart hstop _ hh hb =>
    left
    cases k with
    | hold id => simpa only [Store.slot?, hh] using hk
    | booking id =>
      rw [Store.slot?, hb] at hk
      exact (updateBooking_slot hstart hstop).symm.trans hk

/-! ## §3 Along a run -/

/-- The call returns and gives the record its window, which begins after the call read the clock. -/
structure Accepted (rt : Runtime) (k : RecordId) (a : Slot) (x : State) (e : Event) (y : State) :
    Prop where
  asks : e.op.asks
  returns : exec rt e.call x.store e.op = .ok y.store
  before : x.store.slot? k ≠ some a
  after : y.store.slot? k = some a
  future : e.call.now 0 < a.startTime

/-- What is known of the rows of a reached store. -/
structure WithinHours (rt : Runtime) (s : Store) : Prop where
  sound : Sound s
  fits : ∀ k a, s.slot? k = some a → a.FitsHours rt s

theorem Unreserved.slot? (h : Unreserved s) : s.slot? k = none := by
  cases k with
  | booking id =>
    rw [Store.slot?, Option.map_eq_none_iff, Option.eq_none_iff_forall_not_mem]
    exact fun b hget => h.bookings b (Table.mem_of_get? hget)
  | hold id =>
    rw [Store.slot?, Option.map_eq_none_iff, Option.eq_none_iff_forall_not_mem]
    exact fun x hget => h.holds x (Table.mem_of_get? hget)

theorem WithinHours.effect (hs : WithinHours rt s) (h : Effect rt c s op s') :
    WithinHours rt s' where
  sound := hs.sound.effect h
  fits := fun k a hk => by
    rcases h.recordChange.slot? hs.sound hk with hold | hvalid
    · exact (hs.fits k a hold).grows h.grows
    · exact hvalid.2.fitsHours.grows h.grows

theorem WithinHours.run {x y : State} {es : List Event} (hx : WithinHours rt x.store)
    (h : Run (SerialStep rt) x es y) : WithinHours rt y.store :=
  h.invariant (I := fun x => WithinHours rt x.store)
    (fun _ _ _ hx hstep => hx.effect hstep.effect) hx

/-- A window is new after a call only if the call was accepted. -/
theorem SerialStep.accepted {x y : State} {e : Event} (hx : Sound x.store)
    (h : SerialStep rt x e y) (hafter : y.store.slot? k = some a) :
    Accepted rt k a x e y ∨ x.store.slot? k = some a := by
  by_cases hbefore : x.store.slot? k = some a
  · exact .inr hbefore
  · left
    obtain ⟨hasks, hvalid⟩ := (h.effect.recordChange.slot? hx hafter).resolve_left hbefore
    refine ⟨hasks, ?_, hbefore, hafter, hvalid.future⟩
    -- A call that raises leaves the store as it was.
    cases hexec : exec rt e.call x.store e.op with
    | ok s' => rw [h.store, step_of_ok hexec]
    | error err =>
      have hsame : y.store = x.store := by rw [h.store, step, hexec]
      exact absurd (hsame ▸ hafter) hbefore

/-- A stored window fits the opening hours and was accepted before it began. -/
theorem within_hours_of_slot? {x y : State} {es : List Event} (hempty : Unreserved x.store)
    (hrun : Run (SerialStep rt) x es y) (hk : y.store.slot? k = some a) :
    a.FitsHours rt y.store ∧ Since (SerialStep rt) (Accepted rt k a)
      (fun _ _ z => z.store.slot? k ≠ some a) x es y := by
  have hx : WithinHours rt x.store :=
    ⟨hempty.sound, fun k a hk => by rw [hempty.slot?] at hk; cases hk⟩
  refine ⟨(hx.run hrun).fits k a hk, ?_⟩
  -- What holds at the end and not at the start has held since an acceptance.
  refine hrun.since_of (J := fun x => Sound x.store) (P := fun x => x.store.slot? k = some a)
    (fun x e y hx hstep hy => ?_) (fun x e y hx hstep => hx.effect hstep.effect) hempty.sound
    (by rw [hempty.slot?]; nofun) hk
  rcases hstep.accepted hx hy with hnew | hold
  · exact .inl hnew
  · exact .inr ⟨hold, not_not.mpr hy⟩

/-- **Everything stored fits the opening hours.**  Start with nothing held or booked and run any
calls: every hold and every booking lies within the opening hours of its day, and has had its
window ever since a call asked for that window, and got it before the window began. -/
theorem stored_within_hours {x y : State} {es : List Event} (hempty : Unreserved x.store)
    (hrun : Run (SerialStep rt) x es y) :
    (∀ b ∈ y.store.bookings, b.toSlot.FitsHours rt y.store ∧
      Since (SerialStep rt) (Accepted rt (.booking b.id) b.toSlot)
        (fun _ _ z => z.store.slot? (.booking b.id) ≠ some b.toSlot) x es y) ∧
    ∀ h ∈ y.store.holds, h.toSlot.FitsHours rt y.store ∧
      Since (SerialStep rt) (Accepted rt (.hold h.id) h.toSlot)
        (fun _ _ z => z.store.slot? (.hold h.id) ≠ some h.toSlot) x es y := by
  refine ⟨fun b hb => within_hours_of_slot? hempty hrun ?_,
    fun h hh => within_hours_of_slot? hempty hrun ?_⟩
  · have hget : y.store.bookings.get? b.id = some b := Table.get?_of_mem hb
    rw [Store.slot?, hget, Option.map_some]
  · have hget : y.store.holds.get? h.id = some h := Table.get?_of_mem hh
    rw [Store.slot?, hget, Option.map_some]

/-- User 7 holds and books seat `A1` from ten to eleven: within the default hours. -/
theorem stored_within_hours_smallRun :
    (replay .plain smallStore smallEvents).bookings.rows.length = 1 ∧
      ∀ b ∈ (replay .plain smallStore smallEvents).bookings,
        b.toSlot.FitsHours .plain (replay .plain smallStore smallEvents) :=
  ⟨by decide, fun b hb => ((stored_within_hours smallStore_unreserved smallRun).1 b hb).1⟩

end Coworking
