import Coworking.Services.Booking

/-!
# Payments

`create_payment`, `capture_payment` and `refund_payment`.  The payment provider is a
mock: a payment is captured when it is created.

The writes of a refund are plain values computed from the loaded row, not increments;
`RefundDraft` is that `SET` clause.

## Specifications

- `checkPayment_eq_ok`, `checkRefund_eq_ok`: acceptance and the values to be written;
- `checkRefund_status`: the status a refund leaves behind;
- `capturePayment_of_captured`: a captured or refunded payment is not captured again.
-/

namespace Coworking

open Foundation

/-! ## §1 Creating a payment -/

/-- `booking.status = CONFIRMED` on a pending booking. -/
def BookingStatus.confirm : BookingStatus → BookingPatch
  | .pending => { status := some .confirmed }
  | _ => {}

@[simp] theorem BookingStatus.confirm_startTime (v : BookingStatus) :
    v.confirm.startTime = none := by
  cases v <;> rfl

@[simp] theorem BookingStatus.confirm_endTime (v : BookingStatus) :
    v.confirm.endTime = none := by
  cases v <;> rfl

theorem BookingStatus.confirm_of_ne {v : BookingStatus} (h : v ≠ .pending) : v.confirm = {} := by
  cases v <;> first | rfl | exact (h rfl).elim

/-- A captured payment before its insert draws an id, and the booking it confirms. -/
structure PaymentDraft where
  bookingId : Uuid
  userId : Uuid
  provider : String
  amountCents : Int
  currency : String
  paidAt : Instant
  patch : BookingPatch
  deriving DecidableEq

/-- `create_payment` up to the flush of the transaction. -/
def checkPayment (rt : Runtime) (c : Call) (s : Store) (payload : PaymentCreateRequest) :
    Except ServiceError PaymentDraft := do
  let booking ← found (s.bookingOf? payload.bookingId c.user)
    (.paymentNotFound "Booking not found.")
  raiseIf (booking.status = .cancelled) (.paymentValidation "Cancelled booking cannot be paid.")
  let now := c.now 0
  -- `payload.provider or "mock"`: an empty provider counts as none.
  let provider := (payload.provider.filter (· ≠ "")).getD "mock"
  let currency := rt.upper payload.currency
  -- What the schema admits and the columns do not fails at the flush.
  raiseIf (!fitsInteger payload.amountCents || !fitsVarchar 64 provider ||
    !fitsVarchar 3 currency) .data
  pure
    { bookingId := payload.bookingId
      userId := c.user
      provider
      amountCents := payload.amountCents
      currency
      paidAt := now
      patch := booking.status.confirm }

/-- The row a payment insert writes. -/
def PaymentDraft.row (d : PaymentDraft) (id : Uuid) : Transaction where
  id
  bookingId := d.bookingId
  userId := d.userId
  provider := d.provider
  status := .captured
  amountCents := d.amountCents
  refundedCents := 0
  currency := d.currency
  authorizedAt := some d.paidAt
  capturedAt := some d.paidAt
  refundedAt := none

theorem PaymentDraft.row_fresh (d : PaymentDraft) (rt : Runtime) (t : Table Transaction) :
    Keyed.key (d.row (rt.fresh t)) ∉ t.keys := rt.fresh_notMem t

/-- `create_payment` from the flush on. -/
def commitPayment (rt : Runtime) (now : Instant) (s : Store) (d : PaymentDraft) :
    Store × Transaction :=
  let transaction := d.row (rt.fresh s.transactions)
  let s :=
    { s with
      transactions := s.transactions.insert transaction (d.row_fresh rt s.transactions) }
  (createNotificationRecord now (s.updateBooking d.bookingId d.patch) d.userId "payment_captured"
    [("bookingId", .id d.bookingId), ("transactionId", .id transaction.id)], transaction)

@[simp] theorem commitPayment_transactions (rt : Runtime) (now : Instant) (s : Store)
    (d : PaymentDraft) : (commitPayment rt now s d).1.transactions =
      s.transactions.insert (d.row (rt.fresh s.transactions)) (d.row_fresh rt s.transactions) := rfl

@[simp] theorem commitPayment_bookings (rt : Runtime) (now : Instant) (s : Store)
    (d : PaymentDraft) :
    (commitPayment rt now s d).1.bookings = (s.updateBooking d.bookingId d.patch).bookings := rfl

/-- `create_payment`. -/
def createPayment (rt : Runtime) (c : Call) (s : Store) (payload : PaymentCreateRequest) :
    Except ServiceError (Store × Transaction) := do
  let draft ← checkPayment rt c s payload
  pure (commitPayment rt (c.now 1) s draft)

/-! ## §2 Capturing a payment -/

/-- The column writes of `capture_payment`. -/
def Transaction.capture (now : Instant) (t : Transaction) : Transaction :=
  { t with
    status := .captured
    authorizedAt := some (t.authorizedAt.getD now)
    capturedAt := some now }

theorem Transaction.capture_key (now : Instant) (t : Transaction) :
    Keyed.key (t.capture now) = Keyed.key t := rfl

/-- What capturing a payment writes to its booking. -/
def confirmBooking (s : Store) (bookingId : Uuid) : BookingPatch :=
  match s.bookings.get? bookingId with
  | some booking => booking.status.confirm
  | none => {}

/-- `capture_payment`. -/
def capturePayment (c : Call) (s : Store) (paymentId : Uuid) :
    Except ServiceError (Store × Transaction) := do
  let transaction ← found (s.transactionOf? paymentId c.user)
    (.paymentNotFound "Payment not found.")
  if transaction.status = .captured ∨ transaction.status = .refunded then
    -- A repeated capture is answered with the payment as it is, and notifies nobody.
    pure (s, transaction)
  else do
    raiseIf (transaction.status ≠ .pending ∧ transaction.status ≠ .authorized)
      (.paymentValidation "Payment cannot be captured.")
    let now := c.now 0
    let captured := transaction.capture now
    let patch := confirmBooking s transaction.bookingId
    let s :=
      { s with
        transactions := s.transactions.modify paymentId (Transaction.capture now)
          (Transaction.capture_key now) }
    pure (createNotificationRecord (c.now 1) (s.updateBooking transaction.bookingId patch) c.user
      "payment_captured" [("transactionId", .id paymentId)], captured)

/-! ## §3 Refunding a payment -/

/-- The `SET` clause of a refund and the notification that goes with it. -/
structure RefundDraft where
  transactionId : Uuid
  userId : Uuid
  amount : Int
  refundedCents : Int
  status : Option PaymentStatus
  refundedAt : Instant
  deriving DecidableEq

/-- `payload.amountCents or remaining`. -/
def PaymentRefundRequest.amountOr (payload : PaymentRefundRequest) (remaining : Int) : Int :=
  match payload.amountCents with
  | some n => if n = 0 then remaining else n
  | none => remaining

/-- `refund_payment` up to its writes. -/
def checkRefund (c : Call) (s : Store) (paymentId : Uuid) (payload : PaymentRefundRequest) :
    Except ServiceError RefundDraft := do
  let transaction ← found (s.transactionOf? paymentId c.user)
    (.paymentNotFound "Payment not found.")
  raiseIf (transaction.status ≠ .captured ∧ transaction.status ≠ .refunded)
    (.paymentValidation "Only captured payments can be refunded.")
  -- A payment refunded in full gets this far and has nothing remaining.
  let remaining := transaction.amountCents - transaction.refundedCents
  let refundAmount := payload.amountOr remaining
  raiseIf (refundAmount ≤ 0 ∨ remaining < refundAmount)
    (.paymentValidation "Invalid refund amount.")
  let refundedCents := transaction.refundedCents + refundAmount
  pure
    { transactionId := paymentId
      userId := c.user
      amount := refundAmount
      refundedCents
      status :=
        if refundedCents = transaction.amountCents then dirty transaction.status .refunded
        else none
      refundedAt := c.now 0 }

/-- The transaction after the `UPDATE`. -/
def RefundDraft.apply (d : RefundDraft) (t : Transaction) : Transaction :=
  { t with
    refundedCents := d.refundedCents
    status := d.status.getD t.status
    refundedAt := some d.refundedAt }

@[simp] theorem RefundDraft.apply_amountCents (d : RefundDraft) (t : Transaction) :
    (d.apply t).amountCents = t.amountCents := rfl

@[simp] theorem RefundDraft.apply_refundedCents (d : RefundDraft) (t : Transaction) :
    (d.apply t).refundedCents = d.refundedCents := rfl

@[simp] theorem RefundDraft.apply_status (d : RefundDraft) (t : Transaction) :
    (d.apply t).status = d.status.getD t.status := rfl

@[simp] theorem RefundDraft.apply_refundedAt (d : RefundDraft) (t : Transaction) :
    (d.apply t).refundedAt = some d.refundedAt := rfl

theorem RefundDraft.apply_key (d : RefundDraft) (t : Transaction) :
    Keyed.key (d.apply t) = Keyed.key t := rfl

/-- `refund_payment` from its writes on. -/
def commitRefund (now : Instant) (s : Store) (d : RefundDraft) : Store :=
  createNotificationRecord now
    { s with transactions := s.transactions.modify d.transactionId d.apply d.apply_key }
    d.userId "payment_refunded"
    [("transactionId", .id d.transactionId), ("amountCents", .cents d.amount)]

@[simp] theorem commitRefund_transactions (now : Instant) (s : Store) (d : RefundDraft) :
    (commitRefund now s d).transactions =
      s.transactions.modify d.transactionId d.apply d.apply_key := rfl

/-- `refund_payment`. -/
def refundPayment (c : Call) (s : Store) (paymentId : Uuid) (payload : PaymentRefundRequest) :
    Except ServiceError Store := do
  let draft ← checkRefund c s paymentId payload
  pure (commitRefund (c.now 1) s draft)

/-! ## §4 Specifications -/

variable {rt : Runtime} {c : Call} {s s' : Store} {paymentId : Uuid}

/-- **Acceptance of a payment.** -/
theorem checkPayment_eq_ok {payload : PaymentCreateRequest} {d : PaymentDraft}
    (h : checkPayment rt c s payload = .ok d) :
    ∃ booking, s.bookingOf? payload.bookingId c.user = some booking ∧
      booking.status ≠ .cancelled ∧ d.bookingId = payload.bookingId ∧ d.userId = c.user ∧
      0 ≤ d.amountCents ∧
      d.patch = booking.status.confirm := by
  simp only [checkPayment, bind_eq_ok, raiseIf_eq_ok, found_eq_ok, pure_eq_ok, exists_const] at h
  rcases h with ⟨booking, hb, hcancelled, -, rfl⟩
  exact ⟨booking, hb, hcancelled, rfl, rfl, payload.amountCents_ge, rfl⟩

theorem createPayment_eq_ok {payload : PaymentCreateRequest} {r : Store × Transaction} :
    createPayment rt c s payload = .ok r ↔
      ∃ d, checkPayment rt c s payload = .ok d ∧ commitPayment rt (c.now 1) s d = r := by
  simp only [createPayment, bind_eq_ok, pure_eq_ok]

/-- A capture that returns has loaded a payment of its caller. -/
theorem transactionOf?_of_capturePayment {r : Store × Transaction}
    (h : capturePayment c s paymentId = .ok r) :
    ∃ t, s.transactionOf? paymentId c.user = some t := by
  obtain ⟨t, ht, -⟩ := (bind_eq_ok _ _ _).mp h
  exact ⟨t, (found_eq_ok _ _ _).mp ht⟩

/-- Capturing a captured or refunded payment changes nothing. -/
theorem capturePayment_of_captured {r : Store × Transaction} {t : Transaction}
    (ht : s.transactionOf? paymentId c.user = some t)
    (hstatus : t.status = .captured ∨ t.status = .refunded)
    (h : capturePayment c s paymentId = .ok r) : r = (s, t) := by
  simp only [capturePayment, bind_eq_ok, found_eq_ok, ht, Option.some.injEq, exists_eq_left',
    if_pos hstatus, pure_eq_ok] at h
  exact h.symm

/-- Capturing any other payment: it was pending or authorized. -/
theorem capturePayment_of_uncaptured {r : Store × Transaction} {t : Transaction}
    (ht : s.transactionOf? paymentId c.user = some t) (hcaptured : t.status ≠ .captured)
    (hrefunded : t.status ≠ .refunded) (h : capturePayment c s paymentId = .ok r) :
    (t.status = .pending ∨ t.status = .authorized) ∧ r.1 =
      createNotificationRecord (c.now 1)
        ({ s with
            transactions := s.transactions.modify paymentId (Transaction.capture (c.now 0))
              (Transaction.capture_key (c.now 0))
          }.updateBooking t.bookingId (confirmBooking s t.bookingId))
        c.user "payment_captured" [("transactionId", .id paymentId)] := by
  have hnot : ¬ (t.status = .captured ∨ t.status = .refunded) := not_or.mpr ⟨hcaptured, hrefunded⟩
  simp only [capturePayment, bind_eq_ok, found_eq_ok, ht, Option.some.injEq, exists_eq_left',
    if_neg hnot, raiseIf_eq_ok, pure_eq_ok, exists_const] at h
  rcases h with ⟨hstatus, rfl⟩
  refine ⟨?_, rfl⟩
  rw [not_and_or, not_not, not_not] at hstatus
  exact hstatus

/-- **Acceptance of a refund.**  The new total is computed from the loaded row. -/
theorem checkRefund_eq_ok {payload : PaymentRefundRequest} {d : RefundDraft} :
    checkRefund c s paymentId payload = .ok d ↔ ∃ t, s.transactionOf? paymentId c.user = some t ∧
      (t.status = .captured ∨ t.status = .refunded) ∧
      0 < payload.amountOr (t.amountCents - t.refundedCents) ∧
      payload.amountOr (t.amountCents - t.refundedCents) ≤ t.amountCents - t.refundedCents ∧
      d =
        { transactionId := paymentId
          userId := c.user
          amount := payload.amountOr (t.amountCents - t.refundedCents)
          refundedCents := t.refundedCents + payload.amountOr (t.amountCents - t.refundedCents)
          status :=
            if t.refundedCents + payload.amountOr (t.amountCents - t.refundedCents) = t.amountCents
            then dirty t.status .refunded else none
          refundedAt := c.now 0 } := by
  simp only [checkRefund, bind_eq_ok, raiseIf_eq_ok, found_eq_ok, pure_eq_ok, exists_const,
    not_or, not_le, not_lt]
  refine exists_congr fun t => and_congr_right fun _ => ?_
  constructor
  · intro hok
    rcases hok with ⟨hstatus, ⟨hpos, hle⟩, rfl⟩
    refine ⟨?_, hpos, hle, rfl⟩
    rw [not_and_or, not_not, not_not] at hstatus
    exact hstatus
  · intro hspec
    rcases hspec with ⟨hstatus, hpos, hle, rfl⟩
    refine ⟨?_, ⟨hpos, hle⟩, rfl⟩
    rw [not_and_or, not_not, not_not]
    exact hstatus

/-- A refund leaves REFUNDED a payment with nothing remaining, and the status alone otherwise. -/
theorem checkRefund_status {payload : PaymentRefundRequest} {d : RefundDraft}
    (h : checkRefund c s paymentId payload = .ok d) :
    ∃ t, s.transactionOf? paymentId c.user = some t ∧ t.refundedCents < t.amountCents ∧
      (d.apply t).status = if d.refundedCents = t.amountCents then .refunded else t.status := by
  obtain ⟨t, hrow, -, hpos, hle, rfl⟩ := checkRefund_eq_ok.mp h
  refine ⟨t, hrow, by omega, ?_⟩
  rw [RefundDraft.apply_status]
  split
  · exact dirty_getD _ _
  · rfl

theorem refundPayment_eq_ok {payload : PaymentRefundRequest} :
    refundPayment c s paymentId payload = .ok s' ↔
      ∃ d, checkRefund c s paymentId payload = .ok d ∧ commitRefund (c.now 1) s d = s' := by
  simp only [refundPayment, bind_eq_ok, pure_eq_ok]

end Coworking
