import Coworking.System.Operation

/-!
# The Payment Ledger

Payments are created captured and refunded in parts.  What the table says about a payment is
compared with the refunds that were accepted for it, call by call.

- `refundTotal`: the amounts of the refunds a list of calls got accepted for a payment;
- `Transaction.Balanced`: a payment row in agreement with such a total;
- `ledger_consistent`: every payment of every reached store is balanced.
-/

namespace Coworking

open Foundation

variable {rt : Runtime} {c : Call} {s s' : Store} {op : Op}

/-! ## §1 The payment view of an operation -/

/-- What an operation does to the table of payments. -/
inductive TransactionChange (rt : Runtime) (c : Call) (s : Store) : Op → Store → Prop
  | none {op : Op} {s' : Store} :
      s'.transactions = s.transactions → TransactionChange rt c s op s'
  | paid {payload : PaymentCreateRequest} {d : PaymentDraft} {s' : Store} :
      checkPayment rt c s payload = .ok d →
      s'.transactions =
        s.transactions.insert (d.row (rt.fresh s.transactions)) (d.row_fresh rt s.transactions) →
      TransactionChange rt c s (.createPayment payload) s'
  | captured {paymentId : Uuid} {t : Transaction} {s' : Store} :
      s.transactionOf? paymentId c.user = some t → t.status ≠ .captured → t.status ≠ .refunded →
      s'.transactions = s.transactions.modify paymentId (Transaction.capture (c.now 0))
        (Transaction.capture_key (c.now 0)) →
      TransactionChange rt c s (.capturePayment paymentId) s'
  | refunded {paymentId : Uuid} {payload : PaymentRefundRequest} {d : RefundDraft} {s' : Store} :
      checkRefund c s paymentId payload = .ok d →
      s'.transactions = s.transactions.modify paymentId d.apply d.apply_key →
      TransactionChange rt c s (.refundPayment paymentId payload) s'

/-- **The payment view.** -/
theorem Effect.transactionChange (h : Effect rt c s op s') : TransactionChange rt c s op s' := by
  cases h with
  | paid hd => exact .paid hd rfl
  | captured ht hcaptured hrefunded hr =>
    obtain ⟨-, hr⟩ := capturePayment_of_uncaptured ht hcaptured hrefunded hr
    rw [hr]
    exact .captured ht hcaptured hrefunded rfl
  | refunded hd =>
    obtain ⟨t, -, -, -, -, rfl⟩ := checkRefund_eq_ok.mp hd
    exact .refunded hd rfl
  | elsewhere hsame _ => exact .none hsame.transactions
  | _ => exact .none rfl

/-- A user keeps the payments they have. -/
theorem TransactionChange.keeps_owner (hc : TransactionChange rt c s op s') {id user : Uuid}
    {t : Transaction} (h : s.transactionOf? id user = some t) :
    ∃ t', s'.transactionOf? id user = some t' := by
  obtain ⟨hget, huser⟩ := Store.transactionOf?_eq_some.mp h
  simp only [Store.transactionOf?_eq_some]
  cases hc with
  | none ht => exact ⟨t, ht ▸ hget, huser⟩
  | paid _ ht => exact ⟨t, ht ▸ Table.get?_insert_of_some _ hget, huser⟩
  | captured _ _ _ ht =>
    refine ⟨_, by rw [ht, Table.get?_modify, hget, Option.map_some], ?_⟩
    split <;> exact huser
  | refunded _ ht =>
    refine ⟨_, by rw [ht, Table.get?_modify, hget, Option.map_some], ?_⟩
    split <;> exact huser

/-! ## §2 Accepted refunds -/

/-- The amount a call got refunded on a payment. -/
def acceptedRefund (id : Uuid) (s : Store) (e : Event) : Int :=
  match e.op with
  | .refundPayment paymentId payload =>
    match checkRefund e.call s paymentId payload with
    | .ok d => if paymentId = id then d.amount else 0
    | .error _ => 0
  | _ => 0

/-- The amounts a list of calls got refunded on a payment. -/
def refundTotal (rt : Runtime) (id : Uuid) : Store → List Event → Int
  | _, [] => 0
  | s, e :: es => acceptedRefund id s e + refundTotal rt id (step rt s e) es

theorem refundTotal_snoc (id : Uuid) (s : Store) (es : List Event) (e : Event) :
    refundTotal rt id s (es ++ [e]) =
      refundTotal rt id s es + acceptedRefund id (replay rt s es) e := by
  induction es generalizing s with
  | nil => simp [refundTotal]
  | cons f es ih =>
    rw [List.cons_append, refundTotal, refundTotal, ih, add_assoc]
    rfl

/-- An accepted refund is for a payment in the table. -/
theorem acceptedRefund_of_get?_eq_none {id : Uuid} {e : Event}
    (h : s.transactions.get? id = none) : acceptedRefund id s e = 0 := by
  unfold acceptedRefund
  split
  next paymentId payload _ =>
    split
    next d hd =>
      obtain ⟨t, ht, -⟩ := checkRefund_eq_ok.mp hd
      obtain ⟨hget, -⟩ := Store.transactionOf?_eq_some.mp ht
      exact if_neg fun he => nomatch (he ▸ hget).symm.trans h
    · rfl
  · rfl

/-! ## §3 Balanced payments -/

/-- The row of a payment agrees with the refunds accepted for it. -/
structure Transaction.Balanced (t : Transaction) (total : Int) : Prop where
  nonneg : 0 ≤ t.refundedCents
  le_amount : t.refundedCents ≤ t.amountCents
  total : t.refundedCents = total
  refunded_iff : t.status = .refunded ↔ t.refundedCents = t.amountCents ∧ 0 < t.amountCents
  captured_or_refunded : t.status = .captured ∨ t.status = .refunded
  refundedAt : t.refundedAt.isSome ↔ 0 < t.refundedCents

/-- A new payment is balanced with nothing refunded. -/
theorem PaymentDraft.row_balanced {d : PaymentDraft} (hd : 0 ≤ d.amountCents) (id : Uuid) :
    (d.row id).Balanced 0 where
  nonneg := le_rfl
  le_amount := hd
  total := rfl
  refunded_iff := ⟨nofun, fun ⟨h₁, h₂⟩ => absurd h₂ (h₁ ▸ lt_irrefl _)⟩
  captured_or_refunded := .inl rfl
  refundedAt := by simp [PaymentDraft.row]

/-- A refund computed from a balanced row keeps it balanced. -/
theorem RefundDraft.apply_balanced {paymentId : Uuid} {payload : PaymentRefundRequest}
    {d : RefundDraft} {t : Transaction} {total : Int} (h : t.Balanced total)
    (ht : s.transactions.get? paymentId = some t) (hd : checkRefund c s paymentId payload = .ok d) :
    (d.apply t).Balanced (total + d.amount) := by
  obtain ⟨t', ht', -, hpos, hle, rfl⟩ := checkRefund_eq_ok.mp hd
  obtain ⟨hget, -⟩ := Store.transactionOf?_eq_some.mp ht'
  obtain rfl : t = t' := Option.mem_unique ht hget
  have hnonneg := h.nonneg
  have hamount := h.le_amount
  have htotal := h.total
  -- From here on only the amount matters, not how the request gave it.
  generalize payload.amountOr (t.amountCents - t.refundedCents) = n at hpos hle ⊢
  refine ⟨?_, ?_, ?_, ?_, ?_, ?_⟩ <;>
    simp only [RefundDraft.apply_refundedCents, RefundDraft.apply_amountCents,
      RefundDraft.apply_status, RefundDraft.apply_refundedAt]
  · omega
  · omega
  · omega
  · by_cases hfull : t.refundedCents + n = t.amountCents
    · rw [if_pos hfull, dirty_getD]
      exact ⟨fun _ => ⟨hfull, by omega⟩, fun _ => rfl⟩
    · -- Something is left, so the payment was not refunded before either.
      rw [if_neg hfull, Option.getD_none, h.refunded_iff]
      omega
  · by_cases hfull : t.refundedCents + n = t.amountCents
    · rw [if_pos hfull, dirty_getD]
      exact .inr rfl
    · rw [if_neg hfull, Option.getD_none]
      exact h.captured_or_refunded
  · simp only [Option.isSome_some, true_iff]
    omega

/-! ## §4 Runs -/

/-- The whole table agrees with the refunds accepted so far. -/
structure LedgerBalanced (total : Uuid → Int) (s : Store) : Prop where
  rows : ∀ id t, s.transactions.get? id = some t → t.Balanced (total id)
  absent : ∀ id, s.transactions.get? id = none → total id = 0

/-- An accepted refund: its row and its total grow by the same amount. -/
theorem ledgerBalanced_refund {total : Uuid → Int} (h : LedgerBalanced total s) {e : Event}
    {paymentId : Uuid} {payload : PaymentRefundRequest} {d : RefundDraft}
    (hop : e.op = .refundPayment paymentId payload)
    (hd : checkRefund e.call s paymentId payload = .ok d) :
    LedgerBalanced (fun id => total id + acceptedRefund id s e) (step rt s e) := by
  have hadd : ∀ id, acceptedRefund id s e = if paymentId = id then d.amount else 0 := by
    intro id
    simp only [acceptedRefund, hop, hd]
  have hid : d.transactionId = paymentId := by
    obtain ⟨t, -, -, -, -, rfl⟩ := checkRefund_eq_ok.mp hd
    rfl
  -- The call succeeds, and rewrites the one row it has read.
  have hstep : step rt s e = commitRefund (e.call.now 1) s d :=
    step_of_ok (by rw [hop]; exact refundPayment_eq_ok.mpr ⟨d, hd, rfl⟩)
  have hget : ∀ id, (step rt s e).transactions.get? id =
      (s.transactions.get? id).map fun t => if id = paymentId then d.apply t else t := by
    intro id
    rw [hstep, commitRefund_transactions, Table.get?_modify, hid]
  refine ⟨fun id t ht => ?_, fun id hnone => ?_⟩
  · rw [hget, Option.map_eq_some_iff] at ht
    rcases ht with ⟨t₀, ht₀, rfl⟩
    by_cases hp : id = paymentId
    · subst hp
      rw [if_pos rfl, hadd, if_pos rfl]
      exact RefundDraft.apply_balanced (h.rows id t₀ ht₀) ht₀ hd
    · rw [if_neg hp, hadd, if_neg (Ne.symm hp), add_zero]
      exact h.rows id t₀ ht₀
  · rw [hget, Option.map_eq_none_iff] at hnone
    rw [h.absent id hnone, acceptedRefund_of_get?_eq_none hnone, add_zero]

/-- Any other call adds nothing to a total, and at most a balanced row to the table. -/
theorem ledgerBalanced_other {total : Uuid → Int} (h : LedgerBalanced total s) {e : Event}
    (hrefund : ∀ paymentId payload d, e.op = .refundPayment paymentId payload →
      checkRefund e.call s paymentId payload ≠ .ok d) :
    LedgerBalanced (fun id => total id + acceptedRefund id s e) (step rt s e) := by
  have hadd : ∀ id, acceptedRefund id s e = 0 := by
    intro id
    unfold acceptedRefund
    split
    next paymentId payload hop =>
      split
      next d hd => exact (hrefund paymentId payload d hop hd).elim
      · rfl
    · rfl
  simp only [hadd, add_zero]
  obtain ⟨call, op⟩ := e
  cases (step_effect rt s ⟨call, op⟩).transactionChange with
  | none ht =>
    refine ⟨fun id t hget => ?_, fun id hnone => ?_⟩
    · rw [ht] at hget
      exact h.rows id t hget
    · rw [ht] at hnone
      exact h.absent id hnone
  | @paid payload d _ hd ht =>
    obtain ⟨_, -, -, -, -, hnonneg, -⟩ := checkPayment_eq_ok hd
    refine ⟨fun id t hget => ?_, fun id hnone => ?_⟩
    · rw [ht, Table.get?_insert] at hget
      split at hget
      next hkey =>
        -- The new row: nothing was refunded under a key that was not in use.
        obtain rfl : rt.fresh s.transactions = id := hkey
        rw [← Option.some.inj hget, h.absent _ (rt.get?_fresh s.transactions)]
        exact PaymentDraft.row_balanced hnonneg _
      · exact h.rows id t hget
    · rw [ht, Table.get?_insert] at hnone
      split at hnone
      · cases hnone
      · exact h.absent id hnone
  | captured ht hcaptured hrefunded _ =>
    -- In a balanced table there is nothing left to capture.
    obtain ⟨hget, -⟩ := Store.transactionOf?_eq_some.mp ht
    exact ((h.rows _ _ hget).captured_or_refunded.elim hcaptured hrefunded).elim
  | refunded hd _ => exact (hrefund _ _ _ rfl hd).elim

/-- **One call.** -/
theorem ledgerBalanced_step {total : Uuid → Int} (h : LedgerBalanced total s) (e : Event) :
    LedgerBalanced (fun id => total id + acceptedRefund id s e) (step rt s e) := by
  by_cases hrefund : ∃ paymentId payload d, e.op = .refundPayment paymentId payload ∧
      checkRefund e.call s paymentId payload = .ok d
  · rcases hrefund with ⟨paymentId, payload, d, hop, hd⟩
    exact ledgerBalanced_refund h hop hd
  · exact ledgerBalanced_other h fun paymentId payload d hop hd =>
      hrefund ⟨paymentId, payload, d, hop, hd⟩

/-- The ledger along a run from a store without payments. -/
theorem ledgerBalanced_run {x y : State} {es : List Event} (hempty : ∀ t, t ∉ x.store.transactions)
    (hrun : Run (SerialStep rt) x es y) :
    LedgerBalanced (fun id => refundTotal rt id x.store es) y.store := by
  refine hrun.history
    (I := fun es y => LedgerBalanced (fun id => refundTotal rt id x.store es) y.store)
    (fun es z e w hprefix h hstep => ?_) ?_
  · simp only [refundTotal_snoc, ← serialRun_store hprefix, hstep.store]
    exact ledgerBalanced_step h e
  · exact ⟨fun id t ht => (hempty t (Table.mem_of_get? ht)).elim, fun _ _ => rfl⟩

/-- **The payment ledger is consistent.**  In every state a run reaches from a store without
payments, each payment agrees with the refunds accepted for it, a refunded payment accepts no
further refund, and `capture_payment` changes nothing. -/
theorem ledger_consistent {x y : State} {es : List Event} (hempty : ∀ t, t ∉ x.store.transactions)
    (hrun : Run (SerialStep rt) x es y) :
    (∀ t ∈ y.store.transactions, t.Balanced (refundTotal rt t.id x.store es) ∧
      (t.status = .refunded → ∀ c payload, ¬ Returns (refundPayment c y.store t.id payload))) ∧
    ∀ c paymentId r, capturePayment c y.store paymentId = .ok r → r.1 = y.store := by
  have h := ledgerBalanced_run hempty hrun
  refine ⟨fun t ht => ?_, fun c paymentId r hr => ?_⟩
  · have hbalanced := h.rows t.id t (Table.get?_of_mem ht)
    refine ⟨hbalanced, fun hstatus c payload ⟨s', hs'⟩ => ?_⟩
    obtain ⟨d, hd, -⟩ := refundPayment_eq_ok.mp hs'
    obtain ⟨t', ht', -, hpos, hle, -⟩ := checkRefund_eq_ok.mp hd
    obtain ⟨hget, -⟩ := Store.transactionOf?_eq_some.mp ht'
    obtain rfl : t = t' := Option.some.inj ((Table.get?_of_mem ht).symm.trans hget)
    -- Nothing remains of a refunded payment, and a refund is for more than nothing.
    have hfull := (hbalanced.refunded_iff.mp hstatus).1
    omega
  · obtain ⟨t, ht⟩ := transactionOf?_of_capturePayment hr
    obtain ⟨hget, -⟩ := Store.transactionOf?_eq_some.mp ht
    rw [capturePayment_of_captured ht (h.rows _ _ hget).captured_or_refunded hr]

/-- A booking, a payment of 100 and two refunds: 30, then the rest. -/
def smallPayments : List Event :=
  [⟨.plain 7 0, .createBooking (smallBooking none)⟩,
    ⟨.plain 7 1, .createPayment smallPayment⟩,
    ⟨.plain 7 2, .refundPayment 1 ⟨some 30, by decide⟩⟩,
    ⟨.plain 7 3, .refundPayment 1 fullRefund⟩]

theorem smallPayments_run :
    Run (SerialStep .plain) ⟨0, smallStore⟩ smallPayments
      ⟨3, replay .plain smallStore smallPayments⟩ :=
  (by decide : InOrder 0 smallPayments).run smallStore

theorem ledger_consistent_smallPayments :
    (replay .plain smallStore smallPayments).transactions.rows.map
        (fun t => (t.amountCents, t.refundedCents, t.status)) = [(100, 100, .refunded)] ∧
    (∀ t ∈ (replay .plain smallStore smallPayments).transactions,
      t.Balanced (refundTotal .plain t.id smallStore smallPayments) ∧
      (t.status = .refunded → ∀ c payload,
        ¬ Returns (refundPayment c (replay .plain smallStore smallPayments) t.id payload))) ∧
    ∀ c paymentId r,
      capturePayment c (replay .plain smallStore smallPayments) paymentId = .ok r →
      r.1 = replay .plain smallStore smallPayments :=
  have hempty : ∀ t, t ∉ smallStore.transactions := fun _ => (Table.mem_empty _).mp
  ⟨by decide +kernel, ledger_consistent hempty smallPayments_run⟩

end Coworking
