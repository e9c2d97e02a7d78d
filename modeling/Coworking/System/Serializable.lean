import Coworking.System.BookingRace
import Coworking.System.HoldOrBook
import Coworking.System.PaymentRace
import Coworking.System.PushTokens

/-!
# Serializable Interleavings

Requests that interleave are as good as requests one after the other, as long as each of them could
be granted once more at the moment it commits, with the same writes.  What that takes is different
for each kind of request: a free window, a hold that is still there, a status or a total that
nobody has written in between.

- `StillFree`, `Request.Fresh`: what a request has to find at its commit;
- `fresh_iff`: the serial call at that moment then writes the same, and only then;
- `serializable_iff`: the interleavings that are, at every moment, the serial replay of the requests
  that have committed, in the order of the commits.
-/

namespace Coworking

open Foundation

variable {rt : Runtime} {c : Call} {s₀ s s' : Store} {now : Instant} {x y : State}

/-! ## §1 What a commit has to find -/

/-- The window of a request is unclaimed. -/
def StillFree (now : Instant) (s : Store) (level : BookingLevel) (seatId roomId venueId : Option Uuid)
    (startTime endTime : DateTime) (ownBooking ownHold : Option Uuid) : Prop :=
  ∀ start stop ctx, startTime.instant? = some start → endTime.instant? = some stop →
    Resolves s level seatId roomId venueId ctx → Unclaimed now s ctx start stop ownBooking ownHold

/-- The hold of a booking request, if it has one, is pending and the user's, for that window. -/
def StillHeld (c : Call) (s : Store) (p : BookingCreateRequest) : Prop :=
  ∀ start stop ctx, p.startTime.instant? = some start → p.endTime.instant? = some stop →
    Resolves s p.level p.seatId p.roomId p.venueId ctx →
    ∀ id, p.holdId = some id → ∃ h, h.id = id ∧ HoldMatches c s ctx start stop h

/-- The columns that a move leaves out, because the row it loaded had the values it wants, have
them still. -/
structure StillMoves (rows : RowChoice) (s : Store) (p : BookingWindowUpdateRequest)
    (loaded current : Booking) : Prop where
  startTime : p.startTime.instant? = some loaded.startTime → current.startTime = loaded.startTime
  endTime : p.endTime.instant? = some loaded.endTime → current.endTime = loaded.endTime
  status : ∀ ctx, Resolves s loaded.level (resourceKwargsForLevel loaded.toSlot).1
      (resourceKwargsForLevel loaded.toSlot).2.1 (resourceKwargsForLevel loaded.toSlot).2.2 ctx →
    loaded.status = initialStatus (requiresPayment (resolveBookingRule rows s ctx)) →
    current.status = loaded.status

/-- The total of a payment is the one that was loaded, and it can be refunded. -/
structure StillRefunds (loaded current : Transaction) : Prop where
  refundedCents : current.refundedCents = loaded.refundedCents
  captured : current.status = .captured ∨ current.status = .refunded

/-- The status of a booking leads to the same status after a payment. -/
structure StillPays (loaded current : Booking) : Prop where
  notCancelled : current.status ≠ .cancelled
  confirms : loaded.status = .pending → current.status = .pending ∨ current.status = .confirmed
  pending : current.status = .pending → loaded.status = .pending

/-- What a request that has read `s₀` finds at its commit to `s`, so that it could be made there. -/
def Request.Fresh (r : Request) (s₀ s : Store) : Prop :=
  match r.body with
  | .createHold p => StillFree (r.call.now 1) s p.level p.seatId p.roomId p.venueId p.startTime
      p.endTime none none
  | .createBooking p => StillFree (r.call.now 2) s p.level p.seatId p.roomId p.venueId p.startTime
      p.endTime none p.holdId ∧ StillHeld r.call s p
  | .rescheduleBooking id p => ∀ b b', s₀.bookings.get? id = some b →
      s.bookings.get? id = some b' → (b'.status = .pending ∨ b'.status = .confirmed) ∧
        StillFree (r.call.now 2) s b.level (resourceKwargsForLevel b.toSlot).1
          (resourceKwargsForLevel b.toSlot).2.1 (resourceKwargsForLevel b.toSlot).2.2 p.startTime
          p.endTime (some id) none ∧
        StillMoves r.call.rows s p b b'
  | .cancelBooking id => ∀ b', s.bookings.get? id = some b' → b'.status ≠ .cancelled
  | .createCheckin id _ => ∀ b', s.bookings.get? id = some b' →
      b'.status ≠ .cancelled ∧ b'.status ≠ .checkedIn
  | .createPayment p => ∀ b b', s₀.bookings.get? p.bookingId = some b →
      s.bookings.get? p.bookingId = some b' → StillPays b b'
  | .refundPayment id _ => ∀ t t', s₀.transactions.get? id = some t →
      s.transactions.get? id = some t' → StillRefunds t t'

/-! ## §2 The serial call -/

/-- A commit adds a row. -/
theorem Draft.commit_ne {d : Draft} (h : d.commit rt now s = .ok s') : s' ≠ s := by
  have hlog : ∀ (s : Store) userId templateCode payload,
      (createNotificationRecord now s userId templateCode payload).notifications.length =
        s.notifications.length + 1 := fun _ _ _ _ => List.length_append
  rintro rfl
  cases d with
  | hold d =>
    have hholds := congrArg (fun s : Store => s.holds.rows.length) (Except.ok.inj h)
    simp [commitHold, Table.insert] at hholds
  | checkin d =>
    obtain ⟨_, hs⟩ := commitCheckin_eq_ok.mp h
    have hnotes := congrArg (fun s : Store => s.notifications.length) hs
    rw [commitBookingUpdate, hlog] at hnotes
    simp [Store.updateBooking] at hnotes
  | booking d =>
    have hnotes := congrArg (fun s : Store => s.notifications.length) (Except.ok.inj h)
    simp [commitBooking, hlog] at hnotes
  | update u =>
    have hnotes := congrArg (fun s : Store => s.notifications.length) (Except.ok.inj h)
    simp [commitBookingUpdate, hlog, Store.updateBooking] at hnotes
  | payment d =>
    have hnotes := congrArg (fun s : Store => s.notifications.length) (Except.ok.inj h)
    simp [commitPayment, hlog, Store.updateBooking] at hnotes
  | refund d =>
    have hnotes := congrArg (fun s : Store => s.notifications.length) (Except.ok.inj h)
    simp [commitRefund, hlog] at hnotes

/-- A request as a serial call. -/
def Request.event (r : Request) : Event := ⟨r.call, r.body.op⟩

/-- A call leaves the store that a draft of its request leaves, if and only if it drafts one that
leaves the same. -/
theorem step_eq_iff {r : Request} {d : Draft}
    (h : d.commit rt (r.call.now (r.body.lastReading + 1)) s = .ok s') :
    step rt s r.event = s' ↔ ∃ d', Drafted rt r.call s r.body d' ∧
      d'.commit rt (r.call.now (r.body.lastReading + 1)) s =
        d.commit rt (r.call.now (r.body.lastReading + 1)) s := by
  have hne := d.commit_ne h
  have hexec : exec rt r.call s r.body.op = _ := exec_op r.body
  constructor
  · intro hstep
    cases hrun : exec rt r.call s r.body.op with
    | error e =>
      have hsame : step rt s r.event = s := by simp [step, Request.event, hrun]
      exact absurd (hstep.symm.trans hsame) hne
    | ok s₁ =>
      obtain rfl : s₁ = s' := (step_of_ok (e := r.event) hrun).symm.trans hstep
      rw [hexec, bind_eq_ok] at hrun
      obtain ⟨d', hd', hcommit⟩ := hrun
      cases d' with
      | none => exact absurd ((pure_eq_ok _ _).mp hcommit).symm hne
      | some d' => exact ⟨d', check_eq_ok.mp hd', hcommit.trans h.symm⟩
  · rintro ⟨d', hd', hcommit⟩
    refine step_of_ok (e := r.event) ?_
    show exec rt r.call s r.body.op = _
    rw [hexec, check_eq_ok.mpr hd', ok_bind]
    exact hcommit.trans h

/-- The serial call drafts what leaves the same store as the draft. -/
def DraftedAgain (rt : Runtime) (c : Call) (now : Instant) (s : Store) (body : RequestBody)
    (d : Draft) : Prop :=
  ∃ d', Drafted rt c s body d' ∧ d'.commit rt now s = d.commit rt now s

/-! ## §3 Requests for a window -/

/-- **A hold.** -/
theorem draftedAgain_hold {p : HoldCreateRequest} {d : HoldDraft} (htree : SameTree s₀ s)
    (hd : checkHold rt c s₀ p = .ok d) :
    DraftedAgain rt c now s (.createHold p) (.hold d) ↔
      StillFree (c.now 1) s p.level p.seatId p.roomId p.venueId p.startTime p.endTime none none := by
  obtain ⟨start, stop, ctx, hstart, hstop, hres, hadm, -, rfl⟩ := checkHold_eq_ok.mp hd
  constructor
  · rintro ⟨_, hd', -⟩ start' stop' ctx' hstart' hstop' hres'
    cases hd' with
    | hold hd' =>
      obtain ⟨start₁, stop₁, ctx₁, hstart₁, hstop₁, hres₁, -, hfree, -⟩ := checkHold_eq_ok.mp hd'
      obtain rfl := Option.mem_unique hstart₁ hstart'
      obtain rfl := Option.mem_unique hstop₁ hstop'
      obtain rfl := hres₁.unique hres'
      exact hfree
  · intro hfree
    have hres' := hres.grows htree.grows
    refine ⟨_, .hold (checkHold_eq_ok.mpr ⟨start, stop, ctx, hstart, hstop, hres',
      htree.admissible_iff.mpr hadm, hfree start stop ctx hstart hstop hres', rfl⟩), ?_⟩
    rw [htree.grows.sameRule]

/-- **A booking.** -/
theorem draftedAgain_booking {p : BookingCreateRequest} {d : BookingDraft} (htree : SameTree s₀ s)
    (hd : checkBooking rt c s₀ p = .ok d) :
    DraftedAgain rt c now s (.createBooking p) (.booking d) ↔
      StillFree (c.now 2) s p.level p.seatId p.roomId p.venueId p.startTime p.endTime none p.holdId ∧
        StillHeld c s p := by
  obtain ⟨start, stop, ctx, hstart, hstop, hres, hadm, -, -, rfl⟩ := checkBooking_eq_ok.mp hd
  constructor
  · rintro ⟨_, hd', -⟩
    cases hd' with
    | booking hd' =>
      obtain ⟨start₁, stop₁, ctx₁, hstart₁, hstop₁, hres₁, -, hheld, hfree, -⟩ :=
        checkBooking_eq_ok.mp hd'
      -- The request names one window of one resource.
      have hsame : ∀ {start' stop' ctx'}, p.startTime.instant? = some start' →
          p.endTime.instant? = some stop' →
          Resolves s p.level p.seatId p.roomId p.venueId ctx' →
          start' = start₁ ∧ stop' = stop₁ ∧ ctx' = ctx₁ := fun hstart' hstop' hres' =>
        ⟨Option.mem_unique hstart' hstart₁, Option.mem_unique hstop' hstop₁, hres'.unique hres₁⟩
      constructor
      · intro start' stop' ctx' hstart' hstop' hres'
        obtain ⟨rfl, rfl, rfl⟩ := hsame hstart' hstop' hres'
        exact hfree
      · intro start' stop' ctx' hstart' hstop' hres'
        obtain ⟨rfl, rfl, rfl⟩ := hsame hstart' hstop' hres'
        exact hheld
  · rintro ⟨hfree, hheld⟩
    have hres' := hres.grows htree.grows
    refine ⟨_, .booking (checkBooking_eq_ok.mpr ⟨start, stop, ctx, hstart, hstop, hres',
      htree.admissible_iff.mpr hadm, hheld start stop ctx hstart hstop hres',
      hfree start stop ctx hstart hstop hres', rfl⟩), ?_⟩
    rw [htree.grows.sameRule]

/-- Two updates of one booking leave the same store if they leave the same row. -/
theorem commitUpdate_eq_iff {id user : Uuid} {patch patch' : BookingPatch} {template : String}
    {b : Booking} (hget : s.bookings.get? id = some b) :
    (Draft.update ⟨id, user, patch', template⟩).commit rt now s =
        (Draft.update ⟨id, user, patch, template⟩).commit rt now s ↔
      patch'.apply b = patch.apply b := by
  constructor
  · intro h
    have hbookings : s.bookings.modify id patch'.apply patch'.apply_key =
        s.bookings.modify id patch.apply patch.apply_key :=
      congrArg Store.bookings (Except.ok.inj h)
    exact (Table.modify_eq_modify_iff _ _ hget).mp hbookings
  · intro h
    have hbookings : s.bookings.modify id patch'.apply patch'.apply_key =
        s.bookings.modify id patch.apply patch.apply_key :=
      (Table.modify_eq_modify_iff _ _ hget).mpr h
    simp only [Draft.commit, commitBookingUpdate, Store.updateBooking, hbookings]

theorem Booking.Follows.level {b b' : Booking} (hf : b.Follows b') : b'.level = b.level := by
  unfold Booking.Follows at hf
  rw [hf]

theorem Booking.Follows.kwargs {b b' : Booking} (hf : b.Follows b') :
    resourceKwargsForLevel b'.toSlot = resourceKwargsForLevel b.toSlot := by
  unfold Booking.Follows at hf
  rw [hf]
  rfl

/-- The row is still its user's. -/
theorem Booking.Follows.bookingOf? {id user : Uuid} {b b' : Booking}
    (howned : s₀.bookingOf? id user = some b) (hb' : s.bookings.get? id = some b')
    (hf : b.Follows b') : s.bookingOf? id user = some b' :=
  Store.bookingOf?_eq_some.mpr ⟨hb', hf.userId.trans (Store.bookingOf?_eq_some.mp howned).2⟩

/-- The window and the status are what two patches may write differently. -/
theorem BookingPatch.apply_eq_iff {p q : BookingPatch} {b : Booking}
    (h : p.cancelledAt = q.cancelledAt) : p.apply b = q.apply b ↔
      p.startTime.getD b.startTime = q.startTime.getD b.startTime ∧
      p.endTime.getD b.endTime = q.endTime.getD b.endTime ∧
      p.status.getD b.status = q.status.getD b.status := by
  constructor
  · intro hrow
    exact ⟨congrArg (fun b => b.startTime) hrow, congrArg (fun b => b.endTime) hrow,
      congrArg (fun b => b.status) hrow⟩
  · rintro ⟨hstart, hstop, hstatus⟩
    simp only [BookingPatch.apply, hstart, hstop, hstatus, h]

/-- The row that a move makes of the current row, and the row that a move computed from an older
one makes of it. -/
theorem movedRow_eq_iff {loaded current : Booking} {start stop : Instant} {status : BookingStatus} :
    BookingPatch.apply
        { startTime := dirty current.startTime start
          endTime := dirty current.endTime stop
          status := dirty current.status status } current =
      BookingPatch.apply
        { startTime := dirty loaded.startTime start
          endTime := dirty loaded.endTime stop
          status := dirty loaded.status status } current ↔
      (loaded.startTime = start → current.startTime = start) ∧
        (loaded.endTime = stop → current.endTime = stop) ∧
        (loaded.status = status → current.status = status) := by
  refine (BookingPatch.apply_eq_iff (by rfl)).trans ?_
  simp only [dirty_getD]
  rw [eq_comm, dirty_getD_iff, eq_comm (a := stop), dirty_getD_iff, eq_comm (a := status),
    dirty_getD_iff]

/-- **A move.** -/
theorem draftedAgain_move {id : Uuid} {p : BookingWindowUpdateRequest} {u : BookingUpdate}
    {b b' : Booking} (htree : SameTree s₀ s) (hb : s₀.bookings.get? id = some b)
    (hb' : s.bookings.get? id = some b') (hf : b.Follows b')
    (hu : checkReschedule rt c s₀ id p = .ok u) :
    DraftedAgain rt c now s (.rescheduleBooking id p) (.update u) ↔
      (b'.status = .pending ∨ b'.status = .confirmed) ∧
        StillFree (c.now 2) s b.level (resourceKwargsForLevel b.toSlot).1
          (resourceKwargsForLevel b.toSlot).2.1 (resourceKwargsForLevel b.toSlot).2.2 p.startTime
          p.endTime (some id) none ∧
        StillMoves c.rows s p b b' := by
  obtain ⟨b₁, start, stop, ctx, howned, -, hstart, hstop, hres, hadm, -, rfl⟩ :=
    checkReschedule_eq_ok.mp hu
  obtain rfl := Option.mem_unique (Store.bookingOf?_eq_some.mp howned).1 hb
  have howned' := hf.bookingOf? howned hb'
  have hid : b'.id = id := Table.key_of_get? hb'
  have hres' := hres.grows htree.grows
  have hrule := htree.grows.sameRule c.rows ctx
  constructor
  · -- What the second draft writes is compared with what the first one has written.
    rintro ⟨_, hd', hcommit⟩
    cases hd' with
    | move hu' =>
      obtain ⟨b₂, start₁, stop₁, ctx₁, howned₁, hmovable, hstart₁, hstop₁, hres₁, -, hfree, rfl⟩ :=
        checkReschedule_eq_ok.mp hu'
      obtain rfl := Option.mem_unique howned₁ howned'
      rw [hf.level, hf.kwargs] at hres₁
      obtain rfl := Option.mem_unique hstart₁ hstart
      obtain rfl := Option.mem_unique hstop₁ hstop
      obtain rfl := hres₁.unique hres'
      rw [hrule] at hcommit
      obtain ⟨hs, he, hv⟩ := movedRow_eq_iff.mp ((commitUpdate_eq_iff hb').mp hcommit)
      refine ⟨hmovable, fun start' stop' ctx' hstart' hstop' hctx' => ?_, ⟨fun h => ?_, fun h => ?_,
        fun ctx' hctx' h => ?_⟩⟩
      · obtain rfl := Option.mem_unique hstart₁ hstart'
        obtain rfl := Option.mem_unique hstop₁ hstop'
        obtain rfl := hres₁.unique hctx'
        exact hid ▸ hfree
      · have hwanted := Option.mem_unique hstart₁ h
        exact (hs hwanted.symm).trans hwanted
      · have hwanted := Option.mem_unique hstop₁ h
        exact (he hwanted.symm).trans hwanted
      · obtain rfl := hres₁.unique hctx'
        rw [hrule] at h
        exact (hv h).trans h.symm
  · rintro ⟨hmovable, hfree, hmoves⟩
    have hown : some b'.id = some id := congrArg some hid
    -- The booking as it is now resolves to the same resource.
    refine ⟨_, .move (checkReschedule_eq_ok.mpr ⟨b', start, stop, ctx, howned', hmovable, hstart,
      hstop, ?_, htree.admissible_iff.mpr hadm, ?_, rfl⟩), ?_⟩
    · rw [hf.level, hf.kwargs]
      exact hres'
    · rw [hown]
      exact hfree start stop ctx hstart hstop hres'
    · rw [hrule]
      refine (commitUpdate_eq_iff hb').mpr (movedRow_eq_iff.mpr ⟨?_, ?_, fun h => ?_⟩)
      · rintro rfl
        exact hmoves.startTime hstart
      · rintro rfl
        exact hmoves.endTime hstop
      · exact (hmoves.status ctx hres' (hrule ▸ h)).trans h

/-! ## §4 Requests about one's own rows -/

/-- **A cancellation.** -/
theorem draftedAgain_cancel {id : Uuid} {u : BookingUpdate} {b b' : Booking}
    (hb : s₀.bookings.get? id = some b) (hb' : s.bookings.get? id = some b') (hf : b.Follows b')
    (hu : checkCancel c s₀ id = .ok (some u)) :
    DraftedAgain rt c now s (.cancelBooking id) (.update u) ↔ b'.status ≠ .cancelled := by
  obtain ⟨b₁, howned, hdraft⟩ := checkCancel_eq_ok.mp hu
  obtain rfl := Option.mem_unique (Store.bookingOf?_eq_some.mp howned).1 hb
  have howned' := hf.bookingOf? howned hb'
  have hne : b₁.status ≠ .cancelled := by
    intro h
    rw [if_pos h] at hdraft
    cases hdraft
  rw [if_neg hne, dirty_eq_some.mpr ⟨hne, rfl⟩, Option.some.injEq] at hdraft
  subst hdraft
  constructor
  · rintro ⟨_, hd', -⟩ hcancelled
    cases hd' with
    | cancel hu' =>
      obtain ⟨b₂, howned₂, hdraft'⟩ := checkCancel_eq_ok.mp hu'
      obtain rfl := Option.mem_unique howned₂ howned'
      rw [if_pos hcancelled] at hdraft'
      cases hdraft'
  · intro hne'
    refine ⟨_, .cancel (checkCancel_eq_ok.mpr ⟨b', howned', ?_⟩), rfl⟩
    rw [if_neg hne', dirty_eq_some.mpr ⟨hne', rfl⟩]

/-- **A check-in.** -/
theorem draftedAgain_checkin {id : Uuid} {p : CheckinRequest} {d : CheckinDraft} {b b' : Booking}
    (hb : s₀.bookings.get? id = some b) (hb' : s.bookings.get? id = some b') (hf : b.Follows b')
    (hd : checkCheckin c s₀ id p = .ok d) :
    DraftedAgain rt c now s (.createCheckin id p) (.checkin d) ↔
      b'.status ≠ .cancelled ∧ b'.status ≠ .checkedIn := by
  obtain ⟨b₁, haccepted, rfl⟩ := checkCheckin_eq_ok.mp hd
  obtain rfl := Option.mem_unique (Store.bookingOf?_eq_some.mp haccepted.owned).1 hb
  have howned' := hf.bookingOf? haccepted.owned hb'
  constructor
  · rintro ⟨_, hd', -⟩
    cases hd' with
    | checkin hd' =>
      obtain ⟨b₂, haccepted', -⟩ := checkCheckin_eq_ok.mp hd'
      obtain rfl := Option.mem_unique haccepted'.owned howned'
      exact ⟨haccepted'.notCancelled, haccepted'.notCheckedIn⟩
  · rintro ⟨hcancelled, hchecked⟩
    exact ⟨_, .checkin (checkCheckin_eq_ok.mpr
      ⟨b', ⟨howned', hcancelled, hchecked, haccepted.complete⟩, rfl⟩), rfl⟩

/-- The draft of a payment depends on the booking by its status. -/
theorem checkPayment_again {p : PaymentCreateRequest} {d d' : PaymentDraft} {b b' : Booking}
    (howned : s₀.bookingOf? p.bookingId c.user = some b)
    (howned' : s.bookingOf? p.bookingId c.user = some b') (hd : checkPayment rt c s₀ p = .ok d) :
    checkPayment rt c s p = .ok d' ↔
      b'.status ≠ .cancelled ∧ d' = { d with patch := b'.status.confirm } := by
  simp only [checkPayment, bind_eq_ok, raiseIf_eq_ok, found_eq_ok, pure_eq_ok, exists_const,
    howned, howned', Option.some.injEq, exists_eq_left'] at hd ⊢
  obtain ⟨-, hfits, rfl⟩ := hd
  constructor
  · rintro ⟨hcancelled, -, rfl⟩
    exact ⟨hcancelled, rfl⟩
  · rintro ⟨hcancelled, rfl⟩
    exact ⟨hcancelled, hfits, rfl⟩

/-- The status of the current row leads to the same row as the status that was loaded. -/
theorem confirm_apply_eq_iff {b b' : Booking} :
    b'.status.confirm.apply b' = b.status.confirm.apply b' ↔
      (b.status = .pending → b'.status = .pending ∨ b'.status = .confirmed) ∧
        (b'.status = .pending → b.status = .pending) := by
  have hstamp : ∀ v w : BookingStatus, v.confirm.cancelledAt = w.confirm.cancelledAt := by
    intro v w
    cases v <;> cases w <;> rfl
  refine (BookingPatch.apply_eq_iff (hstamp _ _)).trans ?_
  simp only [BookingStatus.confirm_startTime, BookingStatus.confirm_endTime, true_and]
  cases hs : b.status <;> cases hs' : b'.status <;> simp_all [BookingStatus.confirm]

/-- **A payment.** -/
theorem draftedAgain_payment {p : PaymentCreateRequest} {d : PaymentDraft} {b b' : Booking}
    (hb : s₀.bookings.get? p.bookingId = some b) (hb' : s.bookings.get? p.bookingId = some b')
    (hf : b.Follows b') (hd : checkPayment rt c s₀ p = .ok d) :
    DraftedAgain rt c now s (.createPayment p) (.payment d) ↔ StillPays b b' := by
  obtain ⟨b₁, howned, -, hid, -, -, hpatch⟩ := checkPayment_eq_ok hd
  obtain rfl := Option.mem_unique (Store.bookingOf?_eq_some.mp howned).1 hb
  have hagain {d' : PaymentDraft} : checkPayment rt c s p = .ok d' ↔ _ :=
    checkPayment_again howned (hf.bookingOf? howned hb') hd
  -- Two drafts of the payment differ in what they write to the booking only.
  have hcommit : ∀ q : BookingPatch,
      (Draft.payment { d with patch := q }).commit rt now s = (Draft.payment d).commit rt now s ↔
        q.apply b' = d.patch.apply b' := by
    intro q
    have hget : s.bookings.get? d.bookingId = some b' := hid ▸ hb'
    rw [← Table.modify_eq_modify_iff q.apply_key d.patch.apply_key hget]
    constructor
    · exact fun h => congrArg Store.bookings (Except.ok.inj h)
    · intro h
      simp only [Draft.commit, commitPayment, Store.updateBooking, h]
      rfl
  constructor
  · rintro ⟨_, hd', hsame⟩
    cases hd' with
    | payment hd' =>
      obtain ⟨hcancelled, rfl⟩ := hagain.mp hd'
      obtain ⟨hconfirms, hpending⟩ :=
        confirm_apply_eq_iff.mp (hpatch ▸ (hcommit _).mp hsame)
      exact ⟨hcancelled, hconfirms, hpending⟩
  · rintro ⟨hcancelled, hconfirms, hpending⟩
    refine ⟨_, .payment (hagain.mpr ⟨hcancelled, rfl⟩), (hcommit _).mpr ?_⟩
    rw [hpatch]
    exact confirm_apply_eq_iff.mpr ⟨hconfirms, hpending⟩

/-- Two refunds of one payment leave the same store if they are of one amount and leave the same
row. -/
theorem commitRefund_eq_iff {id user : Uuid} {amount amount' total total' : Int}
    {status status' : Option PaymentStatus} {at_ : Instant} {t : Transaction}
    (hget : s.transactions.get? id = some t) :
    (Draft.refund ⟨id, user, amount', total', status', at_⟩).commit rt now s =
        (Draft.refund ⟨id, user, amount, total, status, at_⟩).commit rt now s ↔
      amount' = amount ∧ total' = total ∧ status'.getD t.status = status.getD t.status := by
  have hrows := Table.modify_eq_modify_iff
    (RefundDraft.apply_key ⟨id, user, amount', total', status', at_⟩)
    (RefundDraft.apply_key ⟨id, user, amount, total, status, at_⟩) hget
  constructor
  · intro h
    have hstore := Except.ok.inj h
    have hlog := congrArg Store.notifications hstore
    have hrow := hrows.mp (congrArg Store.transactions hstore)
    refine ⟨?_, congrArg Transaction.refundedCents hrow, congrArg Transaction.status hrow⟩
    simpa [commitRefund, createNotificationRecord] using hlog
  · rintro ⟨rfl, rfl, hstatus⟩
    have hrow := hrows.mpr (by simp only [RefundDraft.apply, hstatus])
    simp only [Draft.commit, commitRefund, hrow]

/-- **A refund.** -/
theorem draftedAgain_refund {id : Uuid} {p : PaymentRefundRequest} {d : RefundDraft}
    {t t' : Transaction} (ht : s₀.transactions.get? id = some t)
    (ht' : s.transactions.get? id = some t') (hlater : t.Later t')
    (hd : checkRefund c s₀ id p = .ok d) :
    DraftedAgain rt c now s (.refundPayment id p) (.refund d) ↔ StillRefunds t t' := by
  obtain ⟨t₁, howned, -, hpos, hle, rfl⟩ := checkRefund_eq_ok.mp hd
  obtain rfl := Option.mem_unique (Store.transactionOf?_eq_some.mp howned).1 ht
  have huser : t'.userId = t₁.userId := by rw [hlater.1]
  have howned' : s.transactionOf? id c.user = some t' := Store.transactionOf?_eq_some.mpr
    ⟨ht', huser.trans (Store.transactionOf?_eq_some.mp howned).2⟩
  have hamount := hlater.amountCents
  constructor
  · rintro ⟨_, hd', hcommit⟩
    cases hd' with
    | refund hd' =>
      obtain ⟨t₂, howned₂, hcaptured, -, -, rfl⟩ := checkRefund_eq_ok.mp hd'
      obtain rfl := Option.mem_unique howned₂ howned'
      obtain ⟨hsame, htotal, -⟩ := (commitRefund_eq_iff ht').mp hcommit
      rw [hsame] at htotal
      exact ⟨add_right_cancel htotal, hcaptured⟩
  · rintro ⟨htotal, hcaptured⟩
    refine ⟨_, .refund (checkRefund_eq_ok.mpr ⟨t', howned', hcaptured, ?_, ?_, rfl⟩),
      (commitRefund_eq_iff ht').mpr ⟨?_, ?_, ?_⟩⟩
    · rw [htotal, hamount]
      exact hpos
    · rw [htotal, hamount]
      exact hle
    · rw [htotal, hamount]
    · rw [htotal, hamount]
    · rw [htotal, hamount]
      split
      · -- A payment that was refunded in full still is.
        rw [dirty_getD]
        exact (dirty_getD_iff.mpr hlater.2).symm
      · rfl

/-! ## §5 Interleavings -/

variable {k k' : RequestConfig} {m : RequestMove}

/-- The rows that a ticket has read are there, and so is what is not written to them. -/
structure StandingTickets (rt : Runtime) (k : RequestConfig) : Prop where
  extends_ : (requests rt).AllStanding Extends k
  payments : (requests rt).AllStanding KeepsPayments k

/-- **What a request has to find.**  The serial call at the moment of a commit leaves the same store
if and only if the request finds what it needs. -/
theorem fresh_iff {t : RequestTicket} (ht : StandingTicket rt t x) (hpay : StandingPayment rt t x)
    (hcommit : Commits rt x t.request t.plan y) :
    step rt x.store t.request.event = y.store ↔ t.request.Fresh t.seen.store x.store := by
  rw [step_eq_iff hcommit.commit]
  have hext := ht.extends
  have hkeeps := hpay.keeps
  have hdrafted := ht.drafted
  clear ht hpay hcommit
  obtain ⟨⟨c, body⟩, seen, plan⟩ := t
  show DraftedAgain rt c _ x.store body plan ↔ _
  -- A hold and a booking name no row; each other request finds a later version of the one it read.
  cases hdrafted with
  | hold hd => exact draftedAgain_hold hext.tree hd
  | booking hd => exact draftedAgain_booking hext.tree hd
  | @move id p u hu =>
    obtain ⟨b, _, _, _, howned, -⟩ := checkReschedule_eq_ok.mp hu
    have hb := (Store.bookingOf?_eq_some.mp howned).1
    obtain ⟨b', hb', hf⟩ := hext.bookings id b hb
    refine (draftedAgain_move hext.tree hb hb' hf hu).trans ⟨fun h b₁ b₂ h₁ h₂ => ?_, fun h => ?_⟩
    · obtain rfl := Option.mem_unique hb h₁
      obtain rfl := Option.mem_unique hb' h₂
      exact h
    · exact h b b' hb hb'
  | @cancel id u hu =>
    obtain ⟨b, howned, -⟩ := checkCancel_eq_ok.mp hu
    have hb := (Store.bookingOf?_eq_some.mp howned).1
    obtain ⟨b', hb', hf⟩ := hext.bookings id b hb
    refine (draftedAgain_cancel hb hb' hf hu).trans ⟨fun h b₂ h₂ => ?_, fun h => h b' hb'⟩
    exact Option.mem_unique hb' h₂ ▸ h
  | @checkin id p d hd =>
    obtain ⟨b, haccepted, -⟩ := checkCheckin_eq_ok.mp hd
    have hb := (Store.bookingOf?_eq_some.mp haccepted.owned).1
    obtain ⟨b', hb', hf⟩ := hext.bookings id b hb
    refine (draftedAgain_checkin hb hb' hf hd).trans ⟨fun h b₂ h₂ => ?_, fun h => h b' hb'⟩
    exact Option.mem_unique hb' h₂ ▸ h
  | @payment p d hd =>
    obtain ⟨b, howned, -⟩ := checkPayment_eq_ok hd
    have hb := (Store.bookingOf?_eq_some.mp howned).1
    obtain ⟨b', hb', hf⟩ := hext.bookings p.bookingId b hb
    refine (draftedAgain_payment hb hb' hf hd).trans ⟨fun h b₁ b₂ h₁ h₂ => ?_, fun h => ?_⟩
    · obtain rfl := Option.mem_unique hb h₁
      obtain rfl := Option.mem_unique hb' h₂
      exact h
    · exact h b b' hb hb'
  | @refund id p d hd =>
    obtain ⟨t, howned, -⟩ := checkRefund_eq_ok.mp hd
    have ht := (Store.transactionOf?_eq_some.mp howned).1
    obtain ⟨t', ht', hlater⟩ := hkeeps id t ht
    refine (draftedAgain_refund ht ht' hlater hd).trans ⟨fun h t₁ t₂ h₁ h₂ => ?_, fun h => ?_⟩
    · obtain rfl := Option.mem_unique ht h₁
      obtain rfl := Option.mem_unique ht' h₂
      exact h
    · exact h t t' ht ht'

/-- The store is what the committed requests make of the first one, called one after the other in
the order of their commits. -/
def IsReplay (rt : Runtime) (s₀ : Store) (k : RequestConfig) : Prop :=
  k.shared.store = replay rt s₀ (k.committed.reverse.map fun t => t.request.event)

/-- A request that commits finds what it needs. -/
def FindsFresh (k : RequestConfig) (m : RequestMove) : Prop :=
  ∀ t, m = .commit t → t.request.Fresh t.seen.store k.shared.store

/-- **One move.** -/
theorem isReplay_step (ht : StandingTickets rt k) (h : IsReplay rt s₀ k)
    (hstep : (requests rt).Step k m k') : IsReplay rt s₀ k' ↔ FindsFresh k m := by
  cases hstep with
  | @read x y q l r d hread =>
    have hstore : y.store = x.store := hread.store
    refine iff_of_true ?_ fun _ => nofun
    show y.store = _
    rw [hstore]
    exact h
  | abort => exact iff_of_true h fun _ => nofun
  | @commit x y q₁ q₂ l t hcommit =>
    have hbefore : x.store = replay rt s₀ (l.reverse.map fun t => t.request.event) := h
    have hafter : replay rt s₀ ((t :: l).reverse.map fun t => t.request.event) =
        step rt x.store t.request.event := by
      rw [List.reverse_cons, List.map_append, List.map_singleton, replay_snoc, ← hbefore]
    show y.store = _ ↔ _
    rw [hafter, eq_comm, fresh_iff ht.extends_.inFlight ht.payments.inFlight hcommit]
    constructor
    · rintro h _ ⟨⟩
      exact h
    · exact fun h => h t rfl

/-- **Serializability.**  Let any requests interleave.  At every moment the store is the one that
the committed requests leave when they are called one after the other, in the order in which they
committed, if and only if each request finds at its commit what it takes to be granted there: a
window that nobody else claims, its hold still pending, and in the row that it updates the status,
the window or the total that its writes were computed from. -/
theorem serializable_iff {k : RequestConfig} {ms : List RequestMove} :
    Run (Keeping (IsReplay rt x.store) (requests rt).Step) (.start x) ms k ↔
      Run (Guarded FindsFresh (requests rt).Step) (.start x) ms k :=
  Run.keeping_iff_guarded_of (fun _ _ _ => isReplay_step)
    (fun _ _ _ ht hstep => ⟨standing_step ht.extends_ hstep, standingPayment_step ht.payments hstep⟩)
    ⟨Protocol.allStanding_start x, Protocol.allStanding_start x⟩ rfl

end Coworking
