import Coworking.System.PaidAccess

/-!
# Moving a Paid Booking

A payment confirms a booking.  A move computes the status afresh from the booking rule, the way
`create_booking` does for a booking that cannot have been paid yet, and does not look at payments.

- `PaidAndConfirmed`: a confirmed booking with a captured payment;
- `MovedUnderPayment`: the moves that put it back to PENDING;
- `paid_booking_moves_iff`: the runs along which it stays confirmed, exactly.
-/

namespace Coworking

open Foundation

variable {rt : Runtime} {id : Uuid} {x y : State} {e : Event}

/-! ## §1 Paid bookings and moves -/

/-- The booking has a captured payment. -/
def HasCaptured (s : Store) (id : Uuid) : Prop :=
  ∃ t ∈ s.transactions, t.bookingId = id ∧ t.status = .captured

/-- The booking is confirmed and has a captured payment. -/
structure PaidAndConfirmed (id : Uuid) (x : State) : Prop where
  confirmed : ∃ b, x.store.bookings.get? id = some b ∧ b.status = .confirmed
  captured : HasCaptured x.store id

/-- The call does not cancel the booking, check it in or refund a payment of it.  It may try to and
be refused. -/
structure LeavesPaid (id : Uuid) (x : State) (e : Event) : Prop where
  noCancel : e.op = .cancelBooking id → ¬ Returns (cancelBooking e.call x.store id)
  noCheckin : ∀ payload, e.op = .createCheckin id payload →
    ¬ Returns (createCheckin e.call x.store id payload)
  noRefund : ∀ paymentId payload t, e.op = .refundPayment paymentId payload →
    x.store.transactions.get? paymentId = some t → t.bookingId = id →
    ¬ Returns (refundPayment e.call x.store paymentId payload)

/-- The call moves the booking, under a rule that requires payment. -/
def MovedUnderPayment (rt : Runtime) (id : Uuid) (x : State) (e : Event) : Prop :=
  ∃ payload b ctx, e.op = .rescheduleBooking id payload ∧
    Returns (rescheduleBooking rt e.call x.store id payload) ∧
    x.store.bookings.get? id = some b ∧ b.toSlot.ResolvesTo x.store ctx ∧
    requiresPayment (resolveBookingRule e.call.rows x.store ctx)

/-! ## §2 One call -/

/-- A captured payment that is not refunded stays captured. -/
theorem HasCaptured.change {c : Call} {s s' : Store} {op : Op} (h : HasCaptured s id)
    (hc : TransactionChange rt c s op s')
    (hrefund : ∀ paymentId payload t, op = .refundPayment paymentId payload →
      s.transactions.get? paymentId = some t → t.bookingId ≠ id) : HasCaptured s' id := by
  rcases h with ⟨t, hmem, hid, hcaptured⟩
  cases hc with
  | none ht => exact ⟨t, ht ▸ hmem, hid, hcaptured⟩
  | paid _ ht => exact ⟨t, ht ▸ Table.mem_insert.mpr (.inl hmem), hid, hcaptured⟩
  | captured _ _ _ ht =>
    refine ⟨_, ht ▸ Table.mem_modify.mpr ⟨t, hmem, rfl⟩, ?_, ?_⟩
    · split <;> exact hid
    · split
      · rfl
      · exact hcaptured
  | @refunded paymentId payload d _ _ ht =>
    -- The payment that is refunded is one of another booking.
    have hne : Keyed.key t ≠ paymentId := fun hkey =>
      hrefund paymentId payload t rfl (Table.get?_eq_some.mpr ⟨hmem, hkey⟩) hid
    exact ⟨t, ht ▸ Table.mem_modify.mpr ⟨t, hmem, (if_neg hne).symm⟩, hid, hcaptured⟩

/-- Apart from moves, cancellations and check-ins of it, a confirmed booking stays confirmed. -/
theorem RecordChange.keeps_confirmed {c : Call} {s s' : Store} {op : Op} {b : Booking}
    (hc : RecordChange rt c s op s') (hget : s.bookings.get? id = some b)
    (hb : b.status = .confirmed)
    (hmove : ∀ payload u, op = .rescheduleBooking id payload →
      checkReschedule rt c s id payload ≠ .ok u)
    (hcancel : op ≠ .cancelBooking id) (hcheckin : ∀ payload, op ≠ .createCheckin id payload) :
    ∃ b', s'.bookings.get? id = some b' ∧ b'.status = .confirmed := by
  obtain rfl : b.id = id := Table.key_of_get? hget
  obtain ⟨b', hget', hrow⟩ := hc.row hget
  refine ⟨b', hget', ?_⟩
  cases hrow with
  | kept => exact hb
  | moved hu => exact (hmove _ _ rfl hu).elim
  | @restated _ p _ _ hstatus =>
    -- The only change of status that a confirmed booking can still undergo is none.
    rw [BookingPatch.apply_status]
    generalize p.status.getD b.status = w at hstatus
    cases hstatus with
    | keep => exact hb
    | confirm => rfl
    | checkIn => exact (hcheckin _ rfl).elim
    | cancel => exact (hcancel rfl).elim

/-- After a move, the status is the initial one under the rule. -/
theorem rescheduled_status {c : Call} {s s' : Store} {payload : BookingWindowUpdateRequest}
    (h : rescheduleBooking rt c s id payload = .ok s') :
    ∃ b b' ctx, s.bookings.get? id = some b ∧ b.toSlot.ResolvesTo s ctx ∧
      s'.bookings.get? id = some b' ∧ s'.transactions = s.transactions ∧
      b'.status = initialStatus (requiresPayment (resolveBookingRule c.rows s ctx)) := by
  obtain ⟨u, hu, rfl⟩ := rescheduleBooking_eq_ok.mp h
  obtain ⟨b, start, stop, ctx, howned, -, -, -, hres, -, -, rfl⟩ := checkReschedule_eq_ok.mp hu
  obtain ⟨rfl, hget⟩ := get?_of_bookingOf? howned
  refine ⟨b, _, ctx, hget, hres, get?_updateBooking_self hget, rfl, ?_⟩
  exact dirty_getD _ _

/-- A call that moves a booking leaves payments alone. -/
theorem leavesPaid_of_reschedule {bookingId : Uuid} {payload : BookingWindowUpdateRequest}
    (hop : e.op = .rescheduleBooking bookingId payload) : LeavesPaid id x e := by
  refine ⟨?_, fun payload' => ?_, fun paymentId payload' t hrefund => ?_⟩
  · rw [hop]
    nofun
  · rw [hop]
    nofun
  · rw [hop] at hrefund
    cases hrefund

/-- **One call.**  A paid and confirmed booking is no longer so exactly after a move under a rule
that requires payment. -/
theorem paidAndConfirmed_step_iff (h : PaidAndConfirmed id x)
    (hstep : Guarded (LeavesPaid id) (SerialStep rt) x e y) :
    PaidAndConfirmed id y ↔ ¬ MovedUnderPayment rt id x e := by
  rcases hstep with ⟨hleaves, hstep⟩
  by_cases hreturns : Returns (exec rt e.call x.store e.op)
  swap
  · -- A refused call changes nothing, and in particular moves nothing.
    have hstore : y.store = x.store := hstep.store_of_refused hreturns
    refine iff_of_true ⟨hstore ▸ h.confirmed, hstore ▸ h.captured⟩ ?_
    rintro ⟨payload, _, _, hop, hok, -⟩
    exact hreturns (hop ▸ hok)
  have hran : ∀ op, e.op = op → Returns (exec rt e.call x.store op) := by
    rintro _ rfl
    exact hreturns
  obtain ⟨b, hget, hb⟩ := h.confirmed
  have hcaptured : HasCaptured y.store id := by
    refine h.captured.change hstep.effect.transactionChange fun paymentId payload t hop ht hid => ?_
    exact hleaves.noRefund paymentId payload t hop ht hid (hran _ hop)
  by_cases hmove : ∃ payload s', e.op = .rescheduleBooking id payload ∧
      rescheduleBooking rt e.call x.store id payload = .ok s'
  · rcases hmove with ⟨payload, s', hop, hok⟩
    have hstore : y.store = s' := hstep.store_of_ok hop hok
    obtain ⟨b₀, b', ctx, hget₀, hres, hget', -, hstatus⟩ := rescheduled_status hok
    rw [← hstore] at hget'
    cases hrule : requiresPayment (resolveBookingRule e.call.rows x.store ctx) with
    | true =>
      refine iff_of_false (fun hy => ?_)
        (not_not.mpr ⟨payload, b₀, ctx, hop, ⟨s', hok⟩, hget₀, hres, hrule⟩)
      obtain ⟨b'', hget'', hb''⟩ := hy.confirmed
      obtain rfl : b' = b'' := Option.mem_unique hget' hget''
      rw [hstatus, hrule] at hb''
      cases hb''
    | false =>
      refine iff_of_true ⟨⟨b', hget', by rw [hstatus, hrule]; rfl⟩, hcaptured⟩ ?_
      rintro ⟨_, b'', ctx', -, -, hget'', hres', hrule'⟩
      -- The booking resolves to one resource, and so is under one rule.
      obtain rfl : b₀ = b'' := Option.mem_unique hget₀ hget''
      obtain rfl := hres.unique hres'
      rw [hrule] at hrule'
      cases hrule'
  · refine iff_of_true ⟨?_, hcaptured⟩ ?_
    · refine hstep.effect.recordChange.keeps_confirmed hget hb (fun payload u hop hu => ?_)
        (fun hop => hleaves.noCancel hop (hran _ hop))
        (fun payload hop => hleaves.noCheckin payload hop (hran _ hop))
      exact hmove ⟨payload, _, hop, rescheduleBooking_eq_ok.mpr ⟨u, hu, rfl⟩⟩
    · rintro ⟨payload, _, _, hop, ⟨s', hok⟩, -⟩
      exact hmove ⟨payload, s', hop, hok⟩

/-! ## §3 Runs -/

/-- **Moving a paid booking.**  Along a run that does not cancel, check in or refund it, a
confirmed booking with a captured payment stays so in every state if and only if it is never moved
under a rule that requires payment. -/
theorem paid_booking_moves_iff {es : List Event} (h : PaidAndConfirmed id x) :
    Run (Keeping (PaidAndConfirmed id) (Guarded (LeavesPaid id) (SerialStep rt))) x es y ↔
      Run (Guarded (fun x e => ¬ MovedUnderPayment rt id x e)
        (Guarded (LeavesPaid id) (SerialStep rt))) x es y :=
  Run.keeping_iff_guarded (fun _ _ _ h hstep => paidAndConfirmed_step_iff h hstep) h

/-- From eleven to twelve. -/
def elevenToTwelve : BookingWindowUpdateRequest :=
  ⟨.ofInstant (minutes 660), .ofInstant (minutes 720)⟩

/-- User 7 moves the booking an hour back. -/
def moveLater : Event := ⟨.plain 7 2, .rescheduleBooking 1 elevenToTwelve⟩

/-- Without a rule, a booking that is made, paid and moved stays confirmed. -/
theorem paid_booking_moves_iff_noRule :
    Run (Keeping (PaidAndConfirmed 1) (Guarded (LeavesPaid 1) (SerialStep .plain)))
      ⟨1, replay .plain smallStore bookThenPay⟩ [moveLater]
      ⟨2, step .plain (replay .plain smallStore bookThenPay) moveLater⟩ := by
  have hpaid : PaidAndConfirmed 1 ⟨1, replay .plain smallStore bookThenPay⟩ :=
    ⟨⟨_, rfl, rfl⟩, _, List.mem_singleton_self _, rfl, rfl⟩
  refine (paid_booking_moves_iff hpaid).mpr
    (.single ⟨?_, leavesPaid_of_reschedule rfl, by decide, le_rfl, rfl⟩)
  rintro ⟨_, _, ctx, _, _, _, _, hrule⟩
  cases hresolve : resolveBookingRule (moveLater.call.rows)
      (replay .plain smallStore bookThenPay) ctx with
  | none =>
    rw [hresolve] at hrule
    cases hrule
  | some rule => exact (Table.mem_empty rule).mp (mem_of_resolveBookingRule hresolve)

/-- Under a rule that requires payment, the move puts it back to PENDING, payment and all. -/
theorem paid_booking_unconfirmed :
    PaidAndConfirmed 1 ⟨1, replay .plain payingStore bookThenPay⟩ ∧
      Run (SerialStep .plain) ⟨0, payingStore⟩ (bookThenPay ++ [moveLater])
        ⟨2, replay .plain payingStore (bookThenPay ++ [moveLater])⟩ ∧
      Returns (rescheduleBooking .plain (.plain 7 2) (replay .plain payingStore bookThenPay) 1
        elevenToTwelve) ∧
      ((replay .plain payingStore (bookThenPay ++ [moveLater])).bookings.get? 1).map (·.status) =
        some .pending ∧
      HasCaptured (replay .plain payingStore (bookThenPay ++ [moveLater])) 1 :=
  ⟨⟨⟨_, rfl, rfl⟩, _, List.mem_singleton_self _, rfl, rfl⟩,
    (by decide : InOrder 0 (bookThenPay ++ [moveLater])).run payingStore, by decide +kernel,
    by decide +kernel, _, List.mem_singleton_self _, rfl, rfl⟩

end Coworking
