import Coworking.System.Tree

/-!
# Holds and Bookings along a Run

What an operation can do to the two tables that claim slots, and the invariant of the
rows in them.

- `RecordChange`: an operation as the holds and bookings tables see it;
- `Effect.recordChange`, `Effect.grows`: every operation is one of these and keeps the tree;
- `RowChange`, `RecordChange.row`: what it does to one booking;
- `Sound`: rows decode to themselves and no booking is in a status the services never write.
-/

namespace Coworking

open Foundation

/-! ## §1 The reservation view of an operation -/

/-- How an operation that moves no window changes the status of a booking. -/
inductive StatusChange (c : Call) (s : Store) (b : Booking) : Op → BookingStatus → Prop
  | keep {op : Op} : StatusChange c s b op b.status
  /-- A payment. -/
  | confirm {op : Op} : b.status = .pending → StatusChange c s b op .confirmed
  | checkIn {payload : CheckinRequest} :
      CheckinAccepted c s b.id payload b → b.id ∉ s.checkins.keys →
      StatusChange c s b (.createCheckin b.id payload) .checkedIn
  | cancel : StatusChange c s b (.cancelBooking b.id) .cancelled

/-- What an operation does to the tables of holds and bookings. -/
inductive RecordChange (rt : Runtime) (c : Call) (s : Store) : Op → Store → Prop
  | none {op : Op} {s' : Store} :
      s'.holds = s.holds → s'.bookings = s.bookings → RecordChange rt c s op s'
  | holdCreated {payload : HoldCreateRequest} {d : HoldDraft} {s' : Store} :
      checkHold rt c s payload = .ok d →
      s'.holds = s.holds.insert (d.row (rt.fresh s.holds)) (d.row_fresh rt s.holds) →
      s'.bookings = s.bookings → RecordChange rt c s (.createHold payload) s'
  | holdCancelled {holdId : Uuid} {h : Hold} {s' : Store} :
      s.holdOf? holdId c.user = some h → h.status = .pending →
      s'.holds =
        s.holds.modify holdId (Hold.setStatus .cancelled) (Hold.setStatus_key .cancelled) →
      s'.bookings = s.bookings → RecordChange rt c s (.cancelHold holdId) s'
  | bookingCreated {op : Op} {payload : BookingCreateRequest} {d : BookingDraft} {s' : Store} :
      (op = .createBooking payload ∨
        ∃ bookingId window, op = .repeatBooking bookingId window ∧ payload.holdId = .none) →
      checkBooking rt c s payload = .ok d →
      s'.holds = convertHold s.holds d.holdId →
      s'.bookings =
        s.bookings.insert (d.row (rt.fresh s.bookings)) (d.row_fresh rt s.bookings) →
      RecordChange rt c s op s'
  | moved {bookingId : Uuid} {payload : BookingWindowUpdateRequest} {u : BookingUpdate}
      {s' : Store} :
      checkReschedule rt c s bookingId payload = .ok u →
      s'.holds = s.holds → s'.bookings = (s.updateBooking bookingId u.patch).bookings →
      RecordChange rt c s (.rescheduleBooking bookingId payload) s'
  | statusChanged {op : Op} {b : Booking} {p : BookingPatch} {s' : Store} :
      s.bookings.get? b.id = some b → p.startTime = .none → p.endTime = .none →
      StatusChange c s b op (p.status.getD b.status) →
      s'.holds = s.holds → s'.bookings = (s.updateBooking b.id p).bookings →
      RecordChange rt c s op s'

variable {rt : Runtime} {c : Call} {s s' : Store} {op : Op}

/-- An owned row is the row with its id. -/
theorem get?_of_bookingOf? {bookingId userId : Uuid} {b : Booking}
    (h : s.bookingOf? bookingId userId = some b) :
    b.id = bookingId ∧ s.bookings.get? b.id = some b := by
  obtain ⟨hget, -⟩ := Store.bookingOf?_eq_some.mp h
  obtain rfl : b.id = bookingId := Table.key_of_get? hget
  exact ⟨rfl, hget⟩

theorem mem_updateBooking {id : Uuid} {p : BookingPatch} {b : Booking} :
    b ∈ (s.updateBooking id p).bookings ↔
      ∃ b₀ ∈ s.bookings, b = if b₀.id = id then p.apply b₀ else b₀ := by
  simp only [Store.updateBooking, Table.mem_modify]
  rfl

theorem updateBooking_of_get?_eq_none {id : Uuid} {p : BookingPatch}
    (h : s.bookings.get? id = none) : (s.updateBooking id p).bookings = s.bookings := by
  simp only [Store.updateBooking, Table.modify_of_get?_eq_none h]

private theorem confirm_change (b : Booking) (op : Op) :
    StatusChange c s b op (b.status.confirm.status.getD b.status) := by
  by_cases hs : b.status = .pending
  · rw [hs]
    exact .confirm hs
  · rw [BookingStatus.confirm_of_ne hs]
    exact .keep

/-- **The reservation view.** -/
theorem Effect.recordChange (h : Effect rt c s op s') : RecordChange rt c s op s' := by
  cases h with
  | holdCreated hd => exact .holdCreated hd rfl rfl
  | holdCancelled hx hs => exact .holdCancelled hx hs rfl rfl
  | bookingCreated hop hd => exact .bookingCreated hop hd rfl rfl
  | @rescheduled bookingId _ u hu =>
    have hid : u.bookingId = bookingId := by
      obtain ⟨_, _, _, _, -, -, -, -, -, -, -, rfl⟩ := checkReschedule_eq_ok.mp hu
      rfl
    exact .moved hu rfl (hid ▸ rfl)
  | @cancelled bookingId u hu =>
    obtain ⟨b, hb, hr⟩ := checkCancel_eq_ok.mp hu
    obtain ⟨rfl, hget⟩ := get?_of_bookingOf? hb
    by_cases hs : b.status = .cancelled
    · rw [if_pos hs] at hr
      cases hr
    · rw [if_neg hs, Option.some.injEq] at hr
      subst hr
      exact .statusChanged (b := b) hget rfl rfl (by simpa using .cancel) rfl rfl
  | checkedIn hnew hd =>
    obtain ⟨b, haccepted, rfl⟩ := checkCheckin_eq_ok.mp hd
    obtain ⟨rfl, hget⟩ := get?_of_bookingOf? haccepted.owned
    exact .statusChanged (b := b) (p := { status := some .checkedIn }) hget rfl rfl
      (.checkIn haccepted hnew) rfl rfl
  | paid hd =>
    obtain ⟨b, hb, -, hid, -, -, hpatch⟩ := checkPayment_eq_ok hd
    obtain ⟨hbid, hget⟩ := get?_of_bookingOf? hb
    refine .statusChanged hget b.status.confirm_startTime b.status.confirm_endTime
      (confirm_change b _) rfl ?_
    rw [hbid, ← hid, ← hpatch]
    rfl
  | @captured paymentId t r ht hcaptured hrefunded hr =>
    obtain ⟨-, hr⟩ := capturePayment_of_uncaptured ht hcaptured hrefunded hr
    rw [hr]
    cases hget : s.bookings.get? t.bookingId with
    -- The booking of a payment need not be there.
    | none => exact .none rfl (updateBooking_of_get?_eq_none hget)
    | some b =>
      have hid : b.id = t.bookingId := Table.key_of_get? hget
      refine .statusChanged (b := b) (hid ▸ hget) b.status.confirm_startTime
        b.status.confirm_endTime (confirm_change b _) rfl ?_
      rw [hid, confirmBooking, hget]
      rfl
  | refunded hd => exact .none rfl rfl
  | unchanged => exact .none rfl rfl
  | elsewhere hsame _ => exact .none hsame.holds hsame.bookings

/-- Every operation keeps the tree. -/
theorem Effect.grows (h : Effect rt c s op s') : Grows s s' := by
  cases h with
  | elsewhere _ hg => exact hg
  | captured ht hcaptured hrefunded hr =>
    obtain ⟨-, hr⟩ := capturePayment_of_uncaptured ht hcaptured hrefunded hr
    rw [hr]
    exact .of_eq rfl rfl rfl rfl rfl
  | unchanged => exact Grows.refl s
  | _ => exact .of_eq rfl rfl rfl rfl rfl

/-! ## §2 Rows after a change -/

theorem mem_convertHold {holds : Table Hold} {holdId : Option Uuid} {h : Hold}
    (hmem : h ∈ convertHold holds holdId) :
    ∃ h₀ ∈ holds, h = if some h₀.id = holdId then h₀.setStatus .converted else h₀ := by
  cases holdId with
  | none => exact ⟨h, hmem, by simp⟩
  | some id =>
    rw [convertHold, Table.mem_modify] at hmem
    rcases hmem with ⟨h₀, hmem₀, rfl⟩
    refine ⟨h₀, hmem₀, ?_⟩
    simp only [Option.some.injEq]
    rfl

theorem get?_insert_hold {d : HoldDraft} {k : Uuid} :
    (s.holds.insert (d.row (rt.fresh s.holds)) (d.row_fresh rt s.holds)).get? k =
      if k = rt.fresh s.holds then some (d.row (rt.fresh s.holds)) else s.holds.get? k := by
  rw [Table.get?_insert]
  exact if_congr eq_comm rfl rfl

theorem get?_insert_booking {d : BookingDraft} {k : Uuid} :
    (s.bookings.insert (d.row (rt.fresh s.bookings)) (d.row_fresh rt s.bookings)).get? k =
      if k = rt.fresh s.bookings then some (d.row (rt.fresh s.bookings))
      else s.bookings.get? k := by
  rw [Table.get?_insert]
  exact if_congr eq_comm rfl rfl

theorem get?_updateBooking {id : Uuid} {p : BookingPatch} {k : Uuid} :
    (s.updateBooking id p).bookings.get? k =
      (s.bookings.get? k).map fun b => if k = id then p.apply b else b := by
  simp only [Store.updateBooking, Table.get?_modify]

theorem get?_updateBooking_self {id : Uuid} {p : BookingPatch} {b : Booking}
    (hget : s.bookings.get? id = some b) :
    (s.updateBooking id p).bookings.get? id = some (p.apply b) := by
  rw [get?_updateBooking, hget, Option.map_some, if_pos rfl]

theorem get?_updateBooking_of_ne {id own : Uuid} {p : BookingPatch} (hne : id ≠ own) :
    (s.updateBooking own p).bookings.get? id = s.bookings.get? id := by
  rw [get?_updateBooking]
  simp only [if_neg hne, Option.map_id']

/-- A hold that is still pending after a booking was made is not the one converted. -/
theorem get?_convertHold {holds : Table Hold} {holdId : Option Uuid} {k : Uuid} {h : Hold}
    (hget : (convertHold holds holdId).get? k = some h) (hpending : h.status = .pending) :
    holds.get? k = some h ∧ some k ≠ holdId := by
  cases holdId with
  | none => exact ⟨hget, nofun⟩
  | some own =>
    simp only [convertHold, Table.get?_modify, Option.map_eq_some_iff] at hget
    rcases hget with ⟨h₀, hget₀, rfl⟩
    by_cases hk : k = own
    · rw [if_pos hk] at hpending
      cases hpending
    · rw [if_neg hk]
      exact ⟨hget₀, fun he => hk (Option.some.inj he)⟩

/-- What one call does to a booking that is there. -/
inductive RowChange (rt : Runtime) (c : Call) (s : Store) (b : Booking) : Op → Booking → Prop
  | kept {op : Op} : RowChange rt c s b op b
  | moved {payload : BookingWindowUpdateRequest} {u : BookingUpdate} :
      checkReschedule rt c s b.id payload = .ok u →
      RowChange rt c s b (.rescheduleBooking b.id payload) (u.patch.apply b)
  | restated {op : Op} {p : BookingPatch} :
      p.startTime = none → p.endTime = none → StatusChange c s b op (p.status.getD b.status) →
      RowChange rt c s b op (p.apply b)

/-- **A booking under one call.**  It is never deleted, and changes by a move or in its status. -/
theorem RecordChange.row (hc : RecordChange rt c s op s') {b : Booking}
    (hget : s.bookings.get? b.id = some b) :
    ∃ b', s'.bookings.get? b.id = some b' ∧ RowChange rt c s b op b' := by
  cases hc with
  | none _ hbk => exact ⟨b, hbk ▸ hget, .kept⟩
  | holdCreated _ _ hbk => exact ⟨b, hbk ▸ hget, .kept⟩
  | holdCancelled _ _ _ hbk => exact ⟨b, hbk ▸ hget, .kept⟩
  | bookingCreated _ _ _ hbk => exact ⟨b, hbk ▸ Table.get?_insert_of_some _ hget, .kept⟩
  | @moved bookingId payload u _ hu _ hbk =>
    by_cases he : b.id = bookingId
    · subst he
      exact ⟨_, hbk ▸ get?_updateBooking_self hget, .moved hu⟩
    · exact ⟨b, hbk ▸ (get?_updateBooking_of_ne he).trans hget, .kept⟩
  | @statusChanged _ b₀ p _ hget₀ hstart hstop hstatus _ hbk =>
    by_cases he : b.id = b₀.id
    · obtain rfl : b = b₀ := Option.some.inj (hget.symm.trans (he ▸ hget₀))
      exact ⟨_, hbk ▸ get?_updateBooking_self hget, .restated hstart hstop hstatus⟩
    · exact ⟨b, hbk ▸ (get?_updateBooking_of_ne he).trans hget, .kept⟩

theorem RowChange.userId {b b' : Booking} (h : RowChange rt c s b op b') :
    b'.userId = b.userId := by
  cases h <;> rfl

/-- A user keeps the bookings they have. -/
theorem RecordChange.keeps_owner (hc : RecordChange rt c s op s') {id user : Uuid} {b : Booking}
    (h : s.bookingOf? id user = some b) : ∃ b', s'.bookingOf? id user = some b' := by
  obtain ⟨hget, huser⟩ := Store.bookingOf?_eq_some.mp h
  obtain rfl : b.id = id := Table.key_of_get? hget
  obtain ⟨b', hget', hrow⟩ := hc.row hget
  exact ⟨b', Store.bookingOf?_eq_some.mpr ⟨hget', hrow.userId.trans huser⟩⟩

/-! ## §3 Sound stores -/

/-- The rows of a store that only the services have written to. -/
structure Sound (s : Store) : Prop where
  bookings : ∀ b ∈ s.bookings, b.toSlot.Decodes s
  holds : ∀ h ∈ s.holds, h.toSlot.Decodes s
  status : ∀ b ∈ s.bookings, b.status.blocking ∨ b.status = .cancelled

theorem Unreserved.sound (h : Unreserved s) : Sound s where
  bookings := fun b hb => (h.bookings b hb).elim
  holds := fun x hx => (h.holds x hx).elim
  status := fun b hb => (h.bookings b hb).elim

theorem initialStatus_blocking (needsPayment : Bool) : (initialStatus needsPayment).blocking := by
  cases needsPayment <;> rfl

/-- A status change never leaves the statuses the services write. -/
theorem StatusChange.written {b : Booking} {w : BookingStatus} (h : StatusChange c s b op w)
    (hb : b.status.blocking ∨ b.status = .cancelled) : w.blocking ∨ w = .cancelled := by
  cases h with
  | keep => exact hb
  | confirm => exact .inl rfl
  | checkIn => exact .inl rfl
  | cancel => exact .inr rfl

/-! The rows after each kind of write, of a sound store. -/

theorem Sound.decodes_insert {d : HoldDraft} (hs : Sound s) (hd : d.slot.Decodes s) {h : Hold}
    (hmem : h ∈ s.holds.insert (d.row (rt.fresh s.holds)) (d.row_fresh rt s.holds)) :
    h.toSlot.Decodes s := by
  rcases Table.mem_insert.mp hmem with hold | rfl
  · exact hs.holds h hold
  · exact hd

theorem Sound.decodes_convertHold {holdId : Option Uuid} (hs : Sound s) {h : Hold}
    (hmem : h ∈ convertHold s.holds holdId) : h.toSlot.Decodes s := by
  obtain ⟨h₀, hmem₀, rfl⟩ := mem_convertHold hmem
  have hslot := hs.holds h₀ hmem₀
  split
  · exact hslot
  · exact hslot

/-- A booking as the services leave it. -/
def Booking.Written (b : Booking) (s : Store) : Prop :=
  b.toSlot.Decodes s ∧ (b.status.blocking ∨ b.status = .cancelled)

theorem Sound.written_insert {d : BookingDraft} (hs : Sound s) (hd : d.slot.Decodes s)
    (hstatus : d.status.blocking) {b : Booking}
    (hmem : b ∈ s.bookings.insert (d.row (rt.fresh s.bookings)) (d.row_fresh rt s.bookings)) :
    b.Written s := by
  rcases Table.mem_insert.mp hmem with hold | rfl
  · exact ⟨hs.bookings b hold, hs.status b hold⟩
  · exact ⟨hd, .inl hstatus⟩

theorem Sound.written_update {id : Uuid} {p : BookingPatch} (hs : Sound s)
    (hstatus : ∀ b, s.bookings.get? id = some b →
      (p.apply b).status.blocking ∨ (p.apply b).status = .cancelled) {b : Booking}
    (hmem : b ∈ (s.updateBooking id p).bookings) : b.Written s := by
  obtain ⟨b₀, hmem₀, rfl⟩ := mem_updateBooking.mp hmem
  have hslot := hs.bookings b₀ hmem₀
  split
  -- The patched row keeps its resource, whatever window it is given.
  next hid =>
    refine ⟨hslot.window _ _, hstatus b₀ ?_⟩
    subst hid
    exact Table.get?_of_mem hmem₀
  · exact ⟨hslot, hs.status b₀ hmem₀⟩

/-- A store whose rows are as the services leave them, on a tree that only grew, is sound. -/
theorem Sound.of_rows (hg : Grows s s') (hb : ∀ b ∈ s'.bookings, b.Written s)
    (hh : ∀ h ∈ s'.holds, h.toSlot.Decodes s) : Sound s' where
  bookings := fun b hmem => (hb b hmem).1.grows hg
  holds := fun h hmem => (hh h hmem).grows hg
  status := fun b hmem => (hb b hmem).2

theorem Sound.written (hs : Sound s) : ∀ b ∈ s.bookings, b.Written s :=
  fun b hmem => ⟨hs.bookings b hmem, hs.status b hmem⟩

/-- **Soundness is kept.** -/
theorem Sound.recordChange (hs : Sound s) (hg : Grows s s') (h : RecordChange rt c s op s') :
    Sound s' := by
  cases h with
  | none hh hb => exact .of_rows hg (hb ▸ hs.written) (hh ▸ hs.holds)
  | holdCreated hd hh hb =>
    obtain ⟨start, stop, ctx, -, -, hres, -, -, rfl⟩ := checkHold_eq_ok.mp hd
    refine .of_rows hg (hb ▸ hs.written) fun x hmem => ?_
    rw [hh] at hmem
    exact hs.decodes_insert (hres.decodes c.user start stop) hmem
  | holdCancelled _ _ hh hb =>
    refine .of_rows hg (hb ▸ hs.written) fun x hmem => ?_
    rw [hh, Table.mem_modify] at hmem
    rcases hmem with ⟨x₀, hmem₀, rfl⟩
    have hslot := hs.holds x₀ hmem₀
    split
    · exact hslot
    · exact hslot
  | bookingCreated _ hd hh hb =>
    obtain ⟨start, stop, ctx, -, -, hres, -, -, -, rfl⟩ := checkBooking_eq_ok.mp hd
    refine .of_rows hg (fun b hmem => ?_) fun x hmem => ?_
    · rw [hb] at hmem
      exact hs.written_insert (hres.decodes c.user start stop) (initialStatus_blocking _) hmem
    · rw [hh] at hmem
      exact hs.decodes_convertHold hmem
  | moved hu hh hb =>
    obtain ⟨b, start, stop, ctx, howned, -, -, -, -, -, -, rfl⟩ := checkReschedule_eq_ok.mp hu
    obtain ⟨rfl, hget⟩ := get?_of_bookingOf? howned
    refine .of_rows hg (fun x hmem => hs.written_update (fun b' hget' => .inl ?_) (hb ▸ hmem))
      (hh ▸ hs.holds)
    -- The row is the one the move was computed from, so its status is the one computed.
    obtain rfl : b' = b := Option.mem_unique hget' hget
    rw [BookingPatch.apply_status, dirty_getD]
    exact initialStatus_blocking _
  | @statusChanged _ b p _ hget _ _ hstatus hh hb =>
    refine .of_rows hg (fun x hmem => hs.written_update (fun b' hget' => ?_) (hb ▸ hmem))
      (hh ▸ hs.holds)
    obtain rfl : b' = b := Option.mem_unique hget' hget
    exact hstatus.written (hs.status b' (Table.mem_of_get? hget))

theorem Sound.effect (hs : Sound s) (h : Effect rt c s op s') : Sound s' :=
  hs.recordChange h.grows h.recordChange

/-- Every store a run reaches from a sound one is sound. -/
theorem Sound.run {x y : State} {es : List Event} (hs : Sound x.store)
    (h : Run (SerialStep rt) x es y) : Sound y.store :=
  h.invariant (I := fun x => Sound x.store) (fun _ _ _ hs hstep => hs.effect hstep.effect) hs

/-- The tree only grows along a run. -/
theorem Grows.run {x y : State} {es : List Event} (h : Run (SerialStep rt) x es y) :
    Grows x.store y.store :=
  h.relates (R := fun x y => Grows x.store y.store) (fun _ => Grows.refl _)
    (fun _ _ _ => Grows.trans) fun _ _ _ hstep => hstep.effect.grows

end Coworking
