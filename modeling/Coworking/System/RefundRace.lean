import Coworking.System.Concurrent

/-!
# Refunds that Race

`refund_payment` writes the new total of a payment as a plain value, computed from the row it
loaded.  When another refund commits in between, that value no longer contains it: the
payment forgets a refund that was paid out, and accepts another one in its place.

- `refundedTo`: what the committed refunds of a payment add up to;
- `refundsExact_step`: the one move after which the row disagrees with that sum;
- `refunds_exact_iff`: the interleavings along which it always agrees, exactly;
- `refunds_lost`: two refunds of 60 on a payment of 100.
-/

namespace Coworking

open Foundation

variable {rt : Runtime} {id : Uuid} {base : Int}

/-- What a committed request has refunded on a payment. -/
def Draft.refundedTo (id : Uuid) : Draft → Int
  | .refund d => if d.transactionId = id then d.amount else 0
  | _ => 0

/-- What the committed requests have refunded on a payment. -/
def refundedTo (id : Uuid) (committed : List RequestTicket) : Int :=
  (committed.map fun t => t.plan.refundedTo id).sum

@[simp] theorem refundedTo_cons (id : Uuid) (t : RequestTicket) (l : List RequestTicket) :
    refundedTo id (t :: l) = t.plan.refundedTo id + refundedTo id l := by
  simp [refundedTo]

/-- The row of the payment counts every committed refund, on top of what had been refunded
before, and no more than was paid. -/
def RefundsExact (id : Uuid) (base : Int) (k : RequestConfig) : Prop :=
  ∃ t, k.shared.store.transactions.get? id = some t ∧
    t.refundedCents = base + refundedTo id k.committed ∧ t.refundedCents ≤ t.amountCents

/-- A refund that commits finds the total it has read. -/
def CurrentRefund (id : Uuid) (k : RequestConfig) (m : RequestMove) : Prop :=
  ∀ t payload, m = .commit t → t.request.body = .refundPayment id payload →
    (k.shared.store.transactions.get? id).map (·.refundedCents) =
      (t.seen.store.transactions.get? id).map (·.refundedCents)

/-! ## §1 One move -/

/-- A draft that is not a refund of the payment leaves its row and its sum alone. -/
theorem Draft.refundedTo_of_ne {d : Draft} (t : Transaction)
    (h : ∀ r, d = .refund r → r.transactionId ≠ id) :
    d.refundedTo id = 0 ∧ d.refundOf id t = t := by
  cases d with
  | refund r => exact ⟨if_neg (h r rfl), if_neg (h r rfl)⟩
  | _ => exact ⟨rfl, rfl⟩

/-- A refund draft names the payment of its request, and was computed from the row it saw. -/
theorem StandingTicket.refund {t : RequestTicket} {x : State} {r : RefundDraft}
    (h : StandingTicket rt t x) (hplan : t.plan = .refund r) :
    (∃ payload, t.request.body = .refundPayment r.transactionId payload) ∧
    ∃ row, t.seen.store.transactions.get? r.transactionId = some row ∧
      r.refundedCents = row.refundedCents + r.amount ∧ r.refundedCents ≤ row.amountCents := by
  have hd := h.drafted
  rw [hplan] at hd
  cases hbody : t.request.body with
  | refundPayment paymentId payload =>
    rw [hbody] at hd
    cases hd with
    | refund hr =>
      obtain ⟨row, hrow, -, -, hle, rfl⟩ := checkRefund_eq_ok.mp hr
      obtain ⟨hget, -⟩ := Store.transactionOf?_eq_some.mp hrow
      refine ⟨⟨payload, rfl⟩, row, hget, rfl, ?_⟩
      show row.refundedCents + payload.amountOr (row.amountCents - row.refundedCents) ≤ _
      omega
  | _ => rw [hbody] at hd; cases hd

section Commit

variable {x y : State} {q q' l : List RequestTicket} {t : RequestTicket} {row : Transaction}

/-- What exactness says after a commit, in terms of the row before it. -/
theorem refundsExact_commit_iff (hcommit : Commits rt x t.request t.plan y)
    (hrow : x.store.transactions.get? id = some row) :
    RefundsExact id base ⟨y, q, t :: l⟩ ↔
      (t.plan.refundOf id row).refundedCents = base + (t.plan.refundedTo id + refundedTo id l) ∧
      (t.plan.refundOf id row).refundedCents ≤ (t.plan.refundOf id row).amountCents := by
  have hrow' : y.store.transactions.get? id = some (t.plan.refundOf id row) :=
    t.plan.get?_transactions hcommit.commit hrow
  simp only [RefundsExact, hrow', Option.some.injEq, exists_eq_left', refundedTo_cons]

/-- A refund of the payment: what it writes counts every refund exactly when the total it was
computed from is the one in the row. -/
theorem refundsExact_refund {r : RefundDraft} (ht : StandingTicket rt t x)
    (hcommit : Commits rt x t.request t.plan y) (hplan : t.plan = .refund r)
    (hrow : x.store.transactions.get? r.transactionId = some row)
    (htotal : row.refundedCents = base + refundedTo r.transactionId l) :
    RefundsExact r.transactionId base ⟨y, q, t :: l⟩ ↔
      CurrentRefund r.transactionId ⟨x, q', l⟩ (.commit t) := by
  obtain ⟨⟨payload, hbody⟩, old, hold, hnew, hle⟩ := ht.refund hplan
  -- The amount paid is what it was when the refund read the row.
  obtain ⟨row', hrow', hpaid⟩ := ht.extends.transactions _ old hold
  obtain rfl : row' = row := Option.mem_unique hrow' hrow
  have hcurrent : CurrentRefund r.transactionId ⟨x, q', l⟩ (.commit t) ↔
      row'.refundedCents = old.refundedCents := by
    constructor
    · intro hc
      simpa [hrow, hold] using hc t payload rfl hbody
    · rintro hc _ _ ⟨⟩ -
      simp [hrow, hold, hc]
  rw [hcurrent, refundsExact_commit_iff hcommit hrow, hplan]
  simp only [Draft.refundOf, Draft.refundedTo, if_true, RefundDraft.apply_refundedCents,
    RefundDraft.apply_amountCents]
  constructor
  · intro hexact
    have hsum := hexact.1
    omega
  · intro hc
    exact ⟨by omega, by omega⟩

/-- Any other commit leaves the row and the sum alone, and is not a request to refund it. -/
theorem refundsExact_other (ht : StandingTicket rt t x) (hcommit : Commits rt x t.request t.plan y)
    (hother : ∀ r, t.plan = .refund r → r.transactionId ≠ id)
    (hrow : x.store.transactions.get? id = some row)
    (htotal : row.refundedCents = base + refundedTo id l)
    (hamount : row.refundedCents ≤ row.amountCents) :
    RefundsExact id base ⟨y, q, t :: l⟩ ∧ CurrentRefund id ⟨x, q', l⟩ (.commit t) := by
  obtain ⟨hzero, hsame⟩ := Draft.refundedTo_of_ne row hother
  constructor
  · rw [refundsExact_commit_iff hcommit hrow, hzero, hsame, zero_add]
    exact ⟨htotal, hamount⟩
  · -- A request to refund this payment would have drafted a refund of it.
    rintro _ payload ⟨⟩ hbody
    have hd := ht.drafted
    rw [hbody] at hd
    cases hplan : t.plan with
    | refund r =>
      obtain ⟨⟨_, hbody'⟩, -⟩ := ht.refund hplan
      rw [hbody] at hbody'
      injection hbody' with hid
      exact (hother r hplan hid.symm).elim
    | _ => rw [hplan] at hd; cases hd

end Commit

/-- **One move.**  A row that counts every refund counts every refund afterwards exactly when the
move is not a refund computed from another total. -/
theorem refundsExact_step {k k' : RequestConfig} {m : RequestMove}
    (hstanding : (requests rt).AllStanding Extends k) (h : RefundsExact id base k)
    (hstep : (requests rt).Step k m k') : RefundsExact id base k' ↔ CurrentRefund id k m := by
  obtain ⟨row, hrow, htotal, hamount⟩ := h
  cases hstep with
  | read hread =>
    -- A read changes neither the table nor the list of commits.
    have hstore := hread.store
    exact ⟨fun _ _ _ => nofun, fun _ => ⟨row, by rw [hstore]; exact hrow, htotal, hamount⟩⟩
  | abort => exact ⟨fun _ _ _ => nofun, fun _ => ⟨row, hrow, htotal, hamount⟩⟩
  | @commit x y q₁ q₂ l t hcommit =>
    have ht : StandingTicket rt t x := hstanding.inFlight
    by_cases hr : ∃ r, t.plan = .refund r ∧ r.transactionId = id
    · rcases hr with ⟨r, hplan, rfl⟩
      exact refundsExact_refund ht hcommit hplan hrow htotal
    · have hother : ∀ r, t.plan = .refund r → r.transactionId ≠ id :=
        fun r hplan hid => hr ⟨r, hplan, hid⟩
      obtain ⟨hexact, hcurrent⟩ := refundsExact_other ht hcommit hother hrow htotal hamount
      exact ⟨fun _ => hcurrent, fun _ => hexact⟩

/-! ## §2 Interleavings -/

/-- **Refunds under concurrency.**  Start with a payment refunded up to at most its amount, and let
any requests interleave.  The row counts every committed refund, and no more than was paid, in
every state reached if and only if each refund of the payment that commits finds the total it has
read. -/
theorem refunds_exact_iff {x : State} {k : RequestConfig} {ms : List RequestMove} {t : Transaction}
    (hget : x.store.transactions.get? id = some t) (hle : t.refundedCents ≤ t.amountCents) :
    Run (Keeping (RefundsExact id t.refundedCents) (requests rt).Step) (.start x) ms k ↔
      Run (Guarded (CurrentRefund id) (requests rt).Step) (.start x) ms k :=
  Run.keeping_iff_guarded_of (fun _ _ _ hstanding h hstep => refundsExact_step hstanding h hstep)
    (fun _ _ _ => standing_step) (Protocol.allStanding_start x)
    ⟨t, hget, by simp [Config.start, refundedTo], hle⟩

/-! ## §3 Two refunds of one payment -/

/-- The small venue with a captured payment of 100. -/
def paidStore : Store :=
  { smallStore with
    transactions :=
      ⟨[⟨1, 1, 7, "mock", .captured, 100, 0, "RUB", some 0, some 0, none⟩], by decide⟩ }

/-- A refund of 60, and what it computes from that payment. -/
def refund60 : Request := ⟨.plain 7 0, .refundPayment 1 ⟨some 60, by decide⟩⟩

def refund60Ticket : RequestTicket :=
  ⟨refund60, ⟨0, paidStore⟩, .refund ⟨1, 7, 60, 60, none, 0⟩⟩

/-- The payment after one of them. -/
def refundedStore (s : Store) : Store := commitRefund 0 s ⟨1, 7, 60, 60, none, 0⟩

theorem refund60_reads :
    (requests .plain).reads ⟨0, paidStore⟩ refund60 refund60Ticket.plan ⟨0, paidStore⟩ :=
  ⟨le_rfl, le_rfl, rfl, rfl⟩

theorem refund60_commits (s : Store) :
    (requests .plain).commits ⟨0, s⟩ refund60 refund60Ticket.plan ⟨0, refundedStore s⟩ :=
  ⟨le_rfl, le_rfl, rfl⟩

theorem refunds_exact_iff_alone :
    Run (Keeping (RefundsExact 1 0) (requests .plain).Step) (.start ⟨0, paidStore⟩)
      [.read refund60Ticket, .commit refund60Ticket]
      ⟨⟨0, refundedStore paidStore⟩, [], [refund60Ticket]⟩ := by
  refine (refunds_exact_iff (t := ⟨1, 1, 7, "mock", .captured, 100, 0, "RUB", some 0, some 0, none⟩)
    rfl (by decide)).mpr ?_
  refine .snoc (.single ⟨fun _ _ => nofun, .read refund60_reads⟩)
    ⟨?_, .commit_last (refund60_commits paidStore)⟩
  rintro _ _ ⟨⟩ -
  rfl

/-- Both refunds read the payment before either writes. -/
def refundMoves : List RequestMove :=
  [.read refund60Ticket, .read refund60Ticket, .commit refund60Ticket, .commit refund60Ticket]

def refundsLost : RequestConfig :=
  ⟨⟨0, refundedStore (refundedStore paidStore)⟩, [], [refund60Ticket, refund60Ticket]⟩

/-- Of a payment of 100, 120 is refunded, and the row says 60. -/
theorem refunds_lost :
    Run (requests .plain).Step (.start ⟨0, paidStore⟩) refundMoves refundsLost ∧
    refundedTo 1 refundsLost.committed = 120 ∧
    refundsLost.shared.store.transactions.rows.map
      (fun t => (t.amountCents, t.refundedCents, t.status)) = [(100, 60, .captured)] ∧
    ¬ RefundsExact 1 0 refundsLost := by
  refine ⟨?_, by decide, by decide, ?_⟩
  · have hreads : Run (requests .plain).Step (.start ⟨0, paidStore⟩)
        [.read refund60Ticket, .read refund60Ticket]
        ⟨⟨0, paidStore⟩, [refund60Ticket, refund60Ticket], []⟩ :=
      .snoc (.single (.read refund60_reads)) (.read refund60_reads)
    exact .snoc (.snoc hreads (.commit_last (refund60_commits paidStore)))
      (.commit_last (refund60_commits (refundedStore paidStore)))
  · rintro ⟨t, hget, htotal, -⟩
    have hrow : (refundsLost.shared.store.transactions.get? 1).map (·.refundedCents) = some 60 := by
      decide
    have hsum : refundedTo 1 refundsLost.committed = 120 := by decide
    rw [hget, Option.map_some, Option.some.injEq] at hrow
    omega

end Coworking
