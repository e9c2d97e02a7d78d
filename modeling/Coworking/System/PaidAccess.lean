import Coworking.System.Ledger
import Coworking.System.Records

/-!
# Payment and Access

A booking under a rule with `requires_payment` starts PENDING and is confirmed by a payment.
Two things follow that a reader may not expect: `create_checkin` admits a PENDING booking, and
`refund_payment` leaves the booking alone.

What does hold is `confirmed_booking_has_payment`: a CONFIRMED booking under such a rule has a
payment, captured or refunded to its last cent, and a CHECKED_IN one has a payment unless a call
checked it in while it was PENDING.

The rule is the row a query without `ORDER BY` returns; `R` is any set of row choices that
contains those the database made during the run.
-/

namespace Coworking

open Foundation

variable {rt : Runtime} {c : Call} {s s' : Store} {op : Op} {R : RowChoice → Prop}

/-! ## §1 Payments of a booking, and the rule it is under -/

/-- The payment is captured, or was and has been refunded in full. -/
def Transaction.Paid (t : Transaction) : Prop :=
  t.status = .captured ∨ t.status = .refunded ∧ t.refundedCents = t.amountCents

/-- The booking has a payment. -/
def HasPayment (s : Store) (bookingId : Uuid) : Prop :=
  ∃ t ∈ s.transactions, t.bookingId = bookingId ∧ t.Paid

/-- Whichever rule of the row's resource the database returns, it requires payment. -/
def EnforcesPayment (R : RowChoice → Prop) (s : Store) (slot : Slot) : Prop :=
  ∃ ctx, slot.ResolvesTo s ctx ∧ ∀ rows, R rows → requiresPayment (resolveBookingRule rows s ctx)

/-- One of the calls checked the booking in while it was PENDING. -/
def CheckedInPending (rt : Runtime) (s : Store) (es : List Event) (bookingId : Uuid) : Prop :=
  ∃ es₁ e es₂ payload b, es = es₁ ++ e :: es₂ ∧ e.op = .createCheckin bookingId payload ∧
    Returns (createCheckin e.call (replay rt s es₁) bookingId payload) ∧
    (replay rt s es₁).bookings.get? bookingId = some b ∧ b.status = .pending

/-- A refund leaves a payment paid: it turns REFUNDED with its last cent, and is then refused. -/
theorem Transaction.Paid.refund {paymentId : Uuid} {payload : PaymentRefundRequest}
    {d : RefundDraft} {t : Transaction} (hd : checkRefund c s paymentId payload = .ok d)
    (hget : s.transactions.get? paymentId = some t) (h : t.Paid) : (d.apply t).Paid := by
  obtain ⟨t', hrow, hremaining, hstatus⟩ := checkRefund_status hd
  obtain rfl : t' = t :=
    Option.some.inj ((Store.transactionOf?_eq_some.mp hrow).1.symm.trans hget)
  by_cases hfull : d.refundedCents = t'.amountCents
  · rw [if_pos hfull] at hstatus
    exact .inr ⟨hstatus, hfull⟩
  · rw [if_neg hfull] at hstatus
    rcases h with hcaptured | ⟨-, hnone⟩
    · exact .inl (hstatus.trans hcaptured)
    · exact absurd hnone hremaining.ne

/-- No operation takes a payment from a booking. -/
theorem HasPayment.change {id : Uuid} (h : HasPayment s id) (hc : TransactionChange rt c s op s') :
    HasPayment s' id := by
  rcases h with ⟨t, hmem, hid, hpaid⟩
  cases hc with
  | none ht => exact ⟨t, ht ▸ hmem, hid, hpaid⟩
  | paid _ ht => exact ⟨t, ht ▸ Table.mem_insert.mpr (.inl hmem), hid, hpaid⟩
  | captured _ _ _ ht =>
    refine ⟨_, ht ▸ Table.mem_modify.mpr ⟨t, hmem, rfl⟩, ?_, ?_⟩
    · split <;> exact hid
    · split
      · exact .inl rfl
      · exact hpaid
  | refunded hd ht =>
    refine ⟨_, ht ▸ Table.mem_modify.mpr ⟨t, hmem, rfl⟩, ?_, ?_⟩
    · split <;> exact hid
    · split
      next hkey => exact hpaid.refund hd (Table.get?_eq_some.mpr ⟨hmem, hkey⟩)
      · exact hpaid

/-- Capturing a payment gives its booking one. -/
theorem HasPayment.of_capture {paymentId : Uuid} {t : Transaction} {now : Instant}
    (hget : s.transactions.get? paymentId = some t)
    (ht : s'.transactions = s.transactions.modify paymentId (Transaction.capture now)
      (Transaction.capture_key now)) : HasPayment s' t.bookingId := by
  have hkey : Keyed.key t = paymentId := Table.key_of_get? hget
  refine ⟨t.capture now, ?_, rfl, .inl rfl⟩
  rw [ht, Table.mem_modify]
  exact ⟨t, Table.mem_of_get? hget, (if_pos hkey).symm⟩

theorem CheckedInPending.snoc {es : List Event} {id : Uuid} (h : CheckedInPending rt s es id)
    (e : Event) : CheckedInPending rt s (es ++ [e]) id := by
  rcases h with ⟨es₁, f, es₂, payload, b, rfl, hrest⟩
  exact ⟨es₁, f, es₂ ++ [e], payload, b, by simp, hrest⟩

/-- The rule a row is under is the same in a grown store. -/
theorem EnforcesPayment.of_grows {slot : Slot} (hg : Grows s s') (hslot : slot.Decodes s)
    (h : EnforcesPayment R s' slot) : EnforcesPayment R s slot := by
  rcases hslot with ⟨ctx, hres, -⟩
  rcases h with ⟨ctx', hres', hrule⟩
  obtain rfl := (hres.grows hg).unique hres'
  refine ⟨ctx, hres, fun rows hR => ?_⟩
  rw [← hg.sameRule]
  exact hrule rows hR

/-- Where every stored rule requires payment and the venue has one, payment is enforced. -/
theorem enforcesPayment_of_rules {slot : Slot} {ctx : ResourceContext} {rule : BookingRule}
    (hres : slot.ResolvesTo s ctx) (hall : ∀ rule ∈ s.bookingRules, rule.requiresPayment)
    (hmem : rule ∈ s.bookingRules) (hv : rule.venueId = some ctx.venueId) :
    EnforcesPayment R s slot := by
  refine ⟨ctx, hres, fun rows _ => ?_⟩
  have hsome : (resolveBookingRule rows s ctx).isSome := resolveBookingRule_isSome hmem hv
  obtain ⟨enforced, henforced⟩ := Option.isSome_iff_exists.mp hsome
  rw [henforced]
  exact hall enforced (mem_of_resolveBookingRule henforced)

/-- Under such a rule a window is accepted as PENDING. -/
theorem EnforcesPayment.initialStatus {slot : Slot} {ctx : ResourceContext}
    (h : EnforcesPayment R s slot) (hres : slot.ResolvesTo s ctx) {rows : RowChoice} (hR : R rows) :
    initialStatus (requiresPayment (resolveBookingRule rows s ctx)) = .pending := by
  rcases h with ⟨ctx', hres', hrule⟩
  obtain rfl := hres.unique hres'
  rw [hrule rows hR]
  rfl

/-! ## §2 One row along one call -/

/-- What is known about a booking after the calls `es` from `s₀`. -/
structure RowSettled (rt : Runtime) (R : RowChoice → Prop) (s₀ : Store) (es : List Event)
    (s : Store) (b : Booking) : Prop where
  decodes : b.toSlot.Decodes s
  written : b.status.blocking ∨ b.status = .cancelled
  confirmed : b.status = .confirmed → EnforcesPayment R s b.toSlot → HasPayment s b.id
  checkedIn : b.status = .checkedIn → EnforcesPayment R s b.toSlot →
    HasPayment s b.id ∨ CheckedInPending rt s₀ es b.id

variable {s₀ : Store} {es : List Event} {b : Booking}

/-- A row that the call does not touch stays settled. -/
theorem RowSettled.untouched (h : RowSettled rt R s₀ es s b) (hg : Grows s s')
    (hp : ∀ id, HasPayment s id → HasPayment s' id) (e : Event) :
    RowSettled rt R s₀ (es ++ [e]) s' b where
  decodes := h.decodes.grows hg
  written := h.written
  confirmed := fun hs hr => hp b.id (h.confirmed hs (hr.of_grows hg h.decodes))
  checkedIn := fun hs hr =>
    (h.checkedIn hs (hr.of_grows hg h.decodes)).imp (hp b.id) fun h => h.snoc e

/-- A row in a status without access is settled. -/
theorem RowSettled.of_status (hslot : b.toSlot.Decodes s)
    (hstatus : b.status = .pending ∨ b.status = .cancelled) : RowSettled rt R s₀ es s b := by
  refine ⟨hslot, ?_, fun hs => ?_, fun hs => ?_⟩
  · rcases hstatus with hs | hs
    · exact .inl (by rw [hs]; rfl)
    · exact .inr hs
  · rcases hstatus with h | h <;> simp [h] at hs
  · rcases hstatus with h | h <;> simp [h] at hs

/-- A row with a payment is settled. -/
theorem RowSettled.of_payment (hslot : b.toSlot.Decodes s)
    (hstatus : b.status.blocking ∨ b.status = .cancelled) (hp : HasPayment s b.id) :
    RowSettled rt R s₀ es s b :=
  ⟨hslot, hstatus, fun _ _ => hp, fun _ _ => .inl hp⟩

/-- A booking that a payment confirmed is settled. -/
theorem RowSettled.confirm (h : RowSettled rt R s₀ es s b) (hg : Grows s s')
    (hp : HasPayment s' b.id) {es' : List Event} :
    RowSettled rt R s₀ es' s' (b.status.confirm.apply b) := by
  refine .of_payment ?_ ?_ hp
  · rw [BookingPatch.apply_toSlot b.status.confirm_startTime b.status.confirm_endTime]
    exact h.decodes.grows hg
  · by_cases hs : b.status = .pending
    · exact .inl (by simp [hs, BookingStatus.confirm, BookingStatus.blocking])
    · rw [BookingStatus.confirm_of_ne hs]
      exact h.written

/-- A window accepted under the rules leaves the row settled: PENDING if a payment is due. -/
theorem RowSettled.accepted {ctx : ResourceContext} {rows : RowChoice} (hR : R rows)
    (hg : Grows s s') (hres : b.toSlot.ResolvesTo s ctx) (hslot : b.toSlot.Decodes s)
    (hstatus : b.status = initialStatus (requiresPayment (resolveBookingRule rows s ctx))) :
    RowSettled rt R s₀ es s' b := by
  have hpending : EnforcesPayment R s' b.toSlot → b.status = .pending := fun hr =>
    hstatus.trans ((hr.of_grows hg hslot).initialStatus hres hR)
  refine ⟨hslot.grows hg, .inl ?_, fun hs hr => ?_, fun hs hr => ?_⟩
  · rw [hstatus]
    exact initialStatus_blocking _
  · simp [hpending hr] at hs
  · simp [hpending hr] at hs

/-- A booking that is checked in is settled: it was PENDING, or CONFIRMED and so with a payment. -/
theorem RowSettled.checkin {payload : CheckinRequest}
    (h : RowSettled rt R s₀ es (replay rt s₀ es) b) (hg : Grows (replay rt s₀ es) s')
    (hp : ∀ id, HasPayment (replay rt s₀ es) id → HasPayment s' id)
    (hget : (replay rt s₀ es).bookings.get? b.id = some b)
    (haccepted : CheckinAccepted c (replay rt s₀ es) b.id payload b)
    (hreturns : Returns (createCheckin c (replay rt s₀ es) b.id payload)) :
    RowSettled rt R s₀ (es ++ [⟨c, .createCheckin b.id payload⟩]) s'
      { b with status := .checkedIn } := by
  refine ⟨h.decodes.grows hg, .inl rfl, nofun, fun _ hr => ?_⟩
  by_cases hpending : b.status = .pending
  · exact .inr ⟨es, _, [], payload, b, rfl, rfl, hreturns, hget, hpending⟩
  · -- Of the statuses the services write, only CONFIRMED is left.
    have hconfirmed : b.status = .confirmed := by
      have hblocking : b.status.blocking := h.written.resolve_right haccepted.notCancelled
      have hchecked := haccepted.notCheckedIn
      cases hbs : b.status <;> simp_all [BookingStatus.blocking]
    exact .inl (hp b.id (h.confirmed hconfirmed (hr.of_grows hg h.decodes)))

/-! ## §3 The whole table along one call -/

/-- Every booking is settled. -/
def Settled (rt : Runtime) (R : RowChoice → Prop) (s₀ : Store) (es : List Event) (s : Store) :
    Prop :=
  ∀ b ∈ s.bookings, RowSettled rt R s₀ es s b

/-- A patch of one booking keeps the table settled if it keeps that booking so. -/
theorem Settled.updateBooking {e : Event} {p : BookingPatch} (h : Settled rt R s₀ es s)
    (hg : Grows s s') (hp : ∀ id, HasPayment s id → HasPayment s' id)
    (hget : s.bookings.get? b.id = some b)
    (hb : s'.bookings = (s.updateBooking b.id p).bookings)
    (hrow : RowSettled rt R s₀ (es ++ [e]) s' (p.apply b)) : Settled rt R s₀ (es ++ [e]) s' := by
  intro x hx
  rw [hb] at hx
  obtain ⟨x₀, hx₀, rfl⟩ := mem_updateBooking.mp hx
  split
  next hid =>
    obtain rfl : x₀ = b := Table.key_injective hx₀ (Table.mem_of_get? hget) hid
    exact hrow
  · exact (h x₀ hx₀).untouched hg hp e

/-- **One call.** -/
theorem Settled.call {e : Event} (h : Settled rt R s₀ es (replay rt s₀ es)) (hR : R e.call.rows) :
    Settled rt R s₀ (es ++ [e]) (step rt (replay rt s₀ es) e) := by
  have heffect := step_effect rt (replay rt s₀ es) e
  have hg := heffect.grows
  have hp : ∀ id, HasPayment (replay rt s₀ es) id → HasPayment (step rt (replay rt s₀ es) e) id :=
    fun id hid => hid.change heffect.transactionChange
  have hsame : (step rt (replay rt s₀ es) e).bookings = (replay rt s₀ es).bookings →
      Settled rt R s₀ (es ++ [e]) (step rt (replay rt s₀ es) e) := fun hb b hmem =>
    (h b (hb ▸ hmem)).untouched hg hp e
  -- The two stores are named, so that the call can be inverted.
  generalize hs' : step rt (replay rt s₀ es) e = s' at *
  rcases e with ⟨c, op⟩
  generalize hs : replay rt s₀ es = s at *
  cases heffect with
  | holdCreated => exact hsame rfl
  | holdCancelled => exact hsame rfl
  | refunded => exact hsame rfl
  | unchanged => exact hsame rfl
  | elsewhere hrecords => exact hsame hrecords.bookings
  | @bookingCreated _ payload d _ hd =>
    obtain ⟨start, stop, ctx, -, -, hres, -, -, -, rfl⟩ := checkBooking_eq_ok.mp hd
    intro b hmem
    rw [commitBooking_bookings, Table.mem_insert] at hmem
    rcases hmem with hold | rfl
    · exact (h b hold).untouched hg hp _
    · exact .accepted hR hg (hres.slot c.user start stop) (hres.decodes c.user start stop) rfl
  | @rescheduled bookingId payload u hu =>
    obtain ⟨b, start, stop, ctx, howned, -, -, -, hres, -, -, rfl⟩ := checkReschedule_eq_ok.mp hu
    obtain ⟨rfl, hget⟩ := get?_of_bookingOf? howned
    have hrow := h b (Table.mem_of_get? hget)
    exact h.updateBooking hg hp hget rfl
      (.accepted hR hg hres (hrow.decodes.window _ _) (dirty_getD _ _))
  | @cancelled bookingId u hu =>
    obtain ⟨b, howned, hr⟩ := checkCancel_eq_ok.mp hu
    obtain ⟨rfl, hget⟩ := get?_of_bookingOf? howned
    have hrow := h b (Table.mem_of_get? hget)
    by_cases hcancelled : b.status = .cancelled
    · rw [if_pos hcancelled] at hr
      cases hr
    · rw [if_neg hcancelled, Option.some.injEq] at hr
      subst hr
      exact h.updateBooking hg hp hget rfl
        (.of_status ((hrow.decodes.grows hg).window _ _) (.inr (dirty_getD _ _)))
  | @checkedIn bookingId payload d hnew hd =>
    have hreturns : Returns (createCheckin c s bookingId payload) :=
      ⟨_, createCheckin_eq_ok.mpr ⟨d, hd, commitCheckin_eq_ok.mpr ⟨hnew, rfl⟩⟩⟩
    obtain ⟨b, haccepted, rfl⟩ := checkCheckin_eq_ok.mp hd
    obtain ⟨rfl, hget⟩ := get?_of_bookingOf? haccepted.owned
    have hrow := h b (Table.mem_of_get? hget)
    subst hs
    exact h.updateBooking hg hp hget rfl (hrow.checkin hg hp hget haccepted hreturns)
  | @paid payload d hd =>
    obtain ⟨b, howned, -, hid, -, -, hpatch⟩ := checkPayment_eq_ok hd
    obtain ⟨hbid, hget⟩ := get?_of_bookingOf? howned
    have hpaid : HasPayment (commitPayment rt (c.now 1) s d).1 b.id := by
      refine ⟨d.row (rt.fresh s.transactions), ?_, hid.trans hbid.symm, .inl rfl⟩
      rw [commitPayment_transactions, Table.mem_insert]
      exact .inr rfl
    refine h.updateBooking hg hp hget ?_ ((h b (Table.mem_of_get? hget)).confirm hg hpaid)
    rw [commitPayment_bookings, hbid, ← hid, ← hpatch]
  | @captured paymentId t r ht hcaptured hrefunded hr =>
    obtain ⟨-, hr⟩ := capturePayment_of_uncaptured ht hcaptured hrefunded hr
    obtain ⟨htget, -⟩ := Store.transactionOf?_eq_some.mp ht
    cases hget : s.bookings.get? t.bookingId with
    | none =>
      -- A payment whose booking is not there changes no booking.
      refine hsame ?_
      rw [hr]
      exact updateBooking_of_get?_eq_none hget
    | some b =>
      have hbid : b.id = t.bookingId := Table.key_of_get? hget
      have hpaid : HasPayment r.1 b.id := hbid ▸ .of_capture htget (by rw [hr]; rfl)
      have hrow := h b (Table.mem_of_get? hget)
      refine h.updateBooking hg hp (hbid ▸ hget) ?_ (hrow.confirm hg hpaid)
      rw [hr, hbid, confirmBooking, hget]
      rfl

/-! ## §4 Runs -/

/-- **Access and payment.**  In every state a run reaches from a store without bookings, a booking
whose enforced rule requires payment and which is CONFIRMED has a payment, captured or refunded in
full; if it is CHECKED_IN it has one too, unless it was checked in while PENDING. -/
theorem confirmed_booking_has_payment {x y : State} (hbookings : ∀ b, b ∉ x.store.bookings)
    (hrows : ∀ e ∈ es, R e.call.rows) (hrun : Run (SerialStep rt) x es y) :
    ∀ b ∈ y.store.bookings, EnforcesPayment R y.store b.toSlot →
      (b.status = .confirmed → HasPayment y.store b.id) ∧
      (b.status = .checkedIn →
        HasPayment y.store b.id ∨ CheckedInPending rt x.store es b.id) := by
  suffices h : Settled rt R x.store es y.store from fun b hb hr =>
    ⟨fun hs => (h b hb).confirmed hs hr, fun hs => (h b hb).checkedIn hs hr⟩
  have hinv : (∀ e ∈ es, R e.call.rows) → Settled rt R x.store es y.store := by
    refine hrun.history
      (I := fun es y => (∀ e ∈ es, R e.call.rows) → Settled rt R x.store es y.store)
      (fun es z e w hprefix h hstep hR => ?_) ?_
    · rw [hstep.store, serialRun_store hprefix]
      have hz := h fun e' he' => hR e' (List.mem_append_left _ he')
      exact (serialRun_store hprefix ▸ hz : Settled rt R x.store es _).call
        (hR e (List.mem_append_right _ (List.mem_singleton_self e)))
    · exact fun _ b hb => (hbookings b hb).elim
  exact hinv hrows

/-! ## §5 A venue with a paying rule -/

/-- The small venue under a rule that requires payment. -/
def payingStore : Store :=
  { smallStore with
    bookingRules := ⟨[⟨9, some 1, none, 15, 480, 30, 60, true, 900, 30, 150, 0⟩], by decide⟩ }

/-- The claim of seat `A1` that user 7's booking makes. -/
def smallSlot : Slot := ⟨7, .seat, some 1, some 2, some 3, minutes 600, minutes 660⟩

/-- Its rule stays enforced along every run. -/
theorem enforcesPayment_payingStore {x y : State} (hx : x.store = payingStore)
    (hrun : Run (SerialStep rt) x es y) : EnforcesPayment R y.store smallSlot := by
  have hg : Grows payingStore y.store := hx ▸ Grows.run hrun
  have hres : smallSlot.ResolvesTo payingStore ⟨.seat, 1, some 2, some 3, "UTC", ⟨rfl, rfl⟩⟩ :=
    resolveResource_eq_ok.mp rfl
  have hall : ∀ rule ∈ payingStore.bookingRules.rows, rule.requiresPayment := by decide
  have hrule : (⟨9, some 1, none, 15, 480, 30, 60, true, 900, 30, 150, 0⟩ : BookingRule) ∈
      y.store.bookingRules := by
    rw [hg.bookingRules]
    exact List.mem_singleton_self _
  refine enforcesPayment_of_rules (hres.grows hg) (fun rule hmem => hall rule ?_) hrule rfl
  rw [hg.bookingRules] at hmem
  exact hmem

/-- The seat is booked, the booking is paid. -/
def bookThenPay : List Event :=
  [⟨.plain 7 0, .createBooking (smallBooking none)⟩,
    ⟨.plain 7 1, .createPayment smallPayment⟩]

/-- A booking that is made and paid ends up confirmed, with its payment. -/
theorem confirmed_booking_has_payment_bookThenPay :
    ∃ b ∈ (replay .plain payingStore bookThenPay).bookings, b.status = .confirmed ∧
      EnforcesPayment (fun _ => True) (replay .plain payingStore bookThenPay) b.toSlot ∧
      HasPayment (replay .plain payingStore bookThenPay) b.id := by
  have hrun : Run (SerialStep .plain) ⟨0, payingStore⟩ bookThenPay
      ⟨1, replay .plain payingStore bookThenPay⟩ :=
    (by decide : InOrder 0 bookThenPay).run payingStore
  have hb : ⟨smallSlot, 1, none, .confirmed, 0, "RUB", none⟩ ∈
      (replay .plain payingStore bookThenPay).bookings :=
    List.mem_singleton_self _
  have hrule := enforcesPayment_payingStore (R := fun _ => True) rfl hrun
  have hpaid := (confirmed_booking_has_payment (fun _ => (Table.mem_empty _).mp)
    (fun _ _ => trivial) hrun _ hb hrule).1 rfl
  exact ⟨_, hb, rfl, hrule, hpaid⟩

/-- The seat is booked, nothing is paid, the user checks in. -/
def bookThenCheckin : List Event :=
  [⟨.plain 7 0, .createBooking (smallBooking none)⟩,
    ⟨.plain 7 1, .createCheckin 1 ⟨.manual, none, none, none⟩⟩]

/-- The seat is booked, paid and refunded. -/
def bookPayRefund : List Event := bookThenPay ++ [⟨.plain 7 2, .refundPayment 1 fullRefund⟩]

/-- The booking of seat `A1` has access, its rule requires payment, and no payment of it is
captured. -/
def UnpaidAccess (s : Store) : Prop :=
  ∃ b ∈ s.bookings, (b.status = .confirmed ∨ b.status = .checkedIn) ∧
    EnforcesPayment (fun _ => True) s b.toSlot ∧
    ∀ t ∈ s.transactions, t.bookingId = b.id → t.status ≠ .captured

/-- A booking is checked in without any payment, and one stays confirmed after a full refund. -/
theorem access_without_payment :
    (Run (SerialStep .plain) ⟨0, payingStore⟩ bookThenCheckin
        ⟨1, replay .plain payingStore bookThenCheckin⟩ ∧
      UnpaidAccess (replay .plain payingStore bookThenCheckin)) ∧
    (Run (SerialStep .plain) ⟨0, payingStore⟩ bookPayRefund
        ⟨2, replay .plain payingStore bookPayRefund⟩ ∧
      UnpaidAccess (replay .plain payingStore bookPayRefund)) := by
  have hcheckin : Run (SerialStep .plain) ⟨0, payingStore⟩ bookThenCheckin
      ⟨1, replay .plain payingStore bookThenCheckin⟩ :=
    (by decide : InOrder 0 bookThenCheckin).run payingStore
  have hrefund : Run (SerialStep .plain) ⟨0, payingStore⟩ bookPayRefund
      ⟨2, replay .plain payingStore bookPayRefund⟩ :=
    (by decide : InOrder 0 bookPayRefund).run payingStore
  have hunpaid : ∀ t ∈ (replay .plain payingStore bookThenCheckin).transactions.rows,
      t.status ≠ .captured := by decide +kernel
  have hrefunded : ∀ t ∈ (replay .plain payingStore bookPayRefund).transactions.rows,
      t.status ≠ .captured := by decide +kernel
  have hrow : (replay .plain payingStore bookThenCheckin).bookings.get? 1 =
      some ⟨smallSlot, 1, none, .checkedIn, 0, "RUB", none⟩ := by decide +kernel
  have hrow' : (replay .plain payingStore bookPayRefund).bookings.get? 1 =
      some ⟨smallSlot, 1, none, .confirmed, 0, "RUB", none⟩ := by decide +kernel
  exact ⟨⟨hcheckin, _, Table.mem_of_get? hrow, .inr rfl, enforcesPayment_payingStore rfl hcheckin,
      fun t ht _ => hunpaid t ht⟩,
    hrefund, _, Table.mem_of_get? hrow', .inl rfl, enforcesPayment_payingStore rfl hrefund,
    fun t ht _ => hrefunded t ht⟩

end Coworking
