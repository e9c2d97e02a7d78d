import Coworking.System.BookingRace
import Coworking.System.RefundRace

/-!
# Payments under Concurrency

What the row of a payment says, along any interleaving of requests.  The bounds always hold: a
refund writes a total that was checked against the amount, and the amount never changes.  The
status is another matter: a partial refund writes its total over that of a full one, and leaves
the status REFUNDED that the full one has set.

- `Transaction.Settled`: what is true of every row, however requests interleave;
- `KeepsPayments`: what does not change once a payment is there;
- `PaymentCommit`: what a commit does to the table of payments;
- `RefundsFull`, `HeedsRefunded`: REFUNDED means fully refunded, and the commit that ends it;
- `payments_interleaved`: all of it, along all interleavings.
-/

namespace Coworking

open Foundation

variable {rt : Runtime} {id : Uuid} {x y : State} {t : RequestTicket} {r : RefundDraft}

/-! ## §1 One row under a refund -/

/-- The bounds of a payment, and what its status and its date of refund say at least. -/
structure Transaction.Settled (p : Transaction) : Prop where
  nonneg : 0 ≤ p.refundedCents
  le_amount : p.refundedCents ≤ p.amountCents
  status : p.status = .captured ∨ p.status = .refunded
  full : 0 < p.amountCents → p.refundedCents = p.amountCents → p.status = .refunded
  refundedAt : p.refundedAt.isSome ↔ 0 < p.refundedCents

/-- A later version of a payment: what was paid for what stays, and REFUNDED is not taken back. -/
def Transaction.Later (p p' : Transaction) : Prop :=
  p' = { p with
    refundedCents := p'.refundedCents
    status := p'.status
    refundedAt := p'.refundedAt } ∧
  (p.status = .refunded → p'.status = .refunded)

theorem Transaction.Later.refl (p : Transaction) : p.Later p := ⟨rfl, fun h => h⟩

theorem Transaction.Later.trans {p q s : Transaction} (h₁ : p.Later q) (h₂ : q.Later s) :
    p.Later s := by
  refine ⟨?_, fun h => h₂.2 (h₁.2 h)⟩
  rw [h₂.1, h₁.1]

theorem Transaction.Later.amountCents {p p' : Transaction} (h : p.Later p') :
    p'.amountCents = p.amountCents := by
  rw [h.1]

theorem PaymentDraft.row_settled {d : PaymentDraft} (hd : 0 ≤ d.amountCents) (id : Uuid) :
    (d.row id).Settled where
  nonneg := le_rfl
  le_amount := hd
  status := .inl rfl
  full := fun hpos hfull => absurd hpos (hfull ▸ lt_irrefl _)
  refundedAt := by simp [PaymentDraft.row]

/-- What a refund is about to write, in terms of the row it has loaded. -/
structure RefundDraft.From (r : RefundDraft) (old : Transaction) : Prop where
  pos : 0 < r.amount
  total : r.refundedCents = old.refundedCents + r.amount
  le_amount : r.refundedCents ≤ old.amountCents
  status : r.status =
    if r.refundedCents = old.amountCents then dirty old.status .refunded else none

/-- The status after a refund, when the row is no older than the one it was computed from. -/
theorem RefundDraft.From.apply_status {old row : Transaction} (h : r.From old)
    (hlater : old.Later row) :
    (r.apply row).status =
      if r.refundedCents = row.amountCents then .refunded else row.status := by
  rw [RefundDraft.apply_status, h.status, hlater.amountCents]
  split
  · exact dirty_getD_of fun hsame => (hlater.2 hsame.symm).trans hsame
  · rfl

theorem RefundDraft.From.apply_later {old row : Transaction} (h : r.From old)
    (hlater : old.Later row) : row.Later (r.apply row) := by
  refine ⟨rfl, fun hrefunded => ?_⟩
  rw [h.apply_status hlater]
  split
  · rfl
  · exact hrefunded

theorem RefundDraft.From.apply_settled {old row : Transaction} (h : r.From old)
    (hlater : old.Later row) (hold : old.Settled) (hrow : row.Settled) :
    (r.apply row).Settled := by
  have hpos := h.pos
  have htotal := h.total
  have hle := h.le_amount
  have hnonneg := hold.nonneg
  have hpaid := hlater.amountCents
  have hstatus := h.apply_status hlater
  -- The total is the one that the draft has computed, from a total that was not negative.
  refine ⟨?_, ?_, ?_, fun _ hfull => ?_, ?_⟩
  · rw [RefundDraft.apply_refundedCents]
    omega
  · rw [RefundDraft.apply_refundedCents, RefundDraft.apply_amountCents]
    omega
  · rw [hstatus]
    split
    · exact .inr rfl
    · exact hrow.status
  · -- All of it is refunded only if the draft says so.
    have hall : r.refundedCents = row.amountCents := hfull
    rw [hstatus, if_pos hall]
  · rw [RefundDraft.apply_refundedCents, RefundDraft.apply_refundedAt]
    simp only [Option.isSome_some, true_iff]
    omega

/-! ## §2 The payments under a commit -/

/-- No payment is gone, and each is a later version of itself. -/
def KeepsPayments (x y : State) : Prop :=
  ∀ id p, x.store.transactions.get? id = some p →
    ∃ p', y.store.transactions.get? id = some p' ∧ p.Later p'

theorem KeepsPayments.refl (x : State) : KeepsPayments x x := fun _ p h => ⟨p, h, .refl p⟩

theorem KeepsPayments.trans {x y z : State} (h₁ : KeepsPayments x y) (h₂ : KeepsPayments y z) :
    KeepsPayments x z := by
  intro id p hget
  obtain ⟨p', hget', hlater⟩ := h₁ id p hget
  obtain ⟨p'', hget'', hlater'⟩ := h₂ id p' hget'
  exact ⟨p'', hget'', hlater.trans hlater'⟩

theorem KeepsPayments.of_store (h : y.store = x.store) : KeepsPayments x y :=
  fun _ p hget => ⟨p, h ▸ hget, .refl p⟩

/-- A ticket whose payments are still there. -/
abbrev StandingPayment (rt : Runtime) (t : RequestTicket) (x : State) : Prop :=
  (requests rt).Standing KeepsPayments t x

theorem StandingPayment.drafted (h : StandingPayment rt t x) :
    Drafted rt t.request.call t.seen.store t.request.body t.plan := by
  obtain ⟨s₀, hread, -⟩ := h
  exact hread.drafted

theorem StandingPayment.keeps (h : StandingPayment rt t x) : KeepsPayments t.seen x := by
  obtain ⟨s₀, hread, hlater⟩ := h
  exact (KeepsPayments.of_store hread.store).trans hlater

/-- What the commit of a request does to the table of payments. -/
inductive PaymentCommit (rt : Runtime) (t : RequestTicket) (s s' : Store) : Prop
  | none : (∀ r, t.plan ≠ .refund r) → s'.transactions = s.transactions → PaymentCommit rt t s s'
  | paid {d : PaymentDraft} : (∀ r, t.plan ≠ .refund r) → 0 ≤ d.amountCents →
      s'.transactions =
        s.transactions.insert (d.row (rt.fresh s.transactions)) (d.row_fresh rt s.transactions) →
      PaymentCommit rt t s s'
  | refunded {r : RefundDraft} {old : Transaction} : t.plan = .refund r →
      t.seen.store.transactions.get? r.transactionId = some old → r.From old →
      s'.transactions = s.transactions.modify r.transactionId r.apply r.apply_key →
      PaymentCommit rt t s s'

/-- **Inversion of a commit.** -/
theorem StandingPayment.commit (ht : StandingPayment rt t x)
    (hcommit : Commits rt x t.request t.plan y) : PaymentCommit rt t x.store y.store := by
  obtain ⟨⟨c, body⟩, seen, plan⟩ := t
  have hd : Drafted rt c seen.store body plan := ht.drafted
  have hstore : plan.commit rt (c.now (body.lastReading + 1)) x.store = .ok y.store :=
    hcommit.commit
  cases hd with
  | hold => exact .none (fun _ => nofun) (Except.ok.inj hstore ▸ rfl)
  | booking => exact .none (fun _ => nofun) (Except.ok.inj hstore ▸ rfl)
  | move => exact .none (fun _ => nofun) (Except.ok.inj hstore ▸ rfl)
  | cancel => exact .none (fun _ => nofun) (Except.ok.inj hstore ▸ rfl)
  | checkin =>
    obtain ⟨_, hs'⟩ := commitCheckin_eq_ok.mp hstore
    exact .none (fun _ => nofun) (hs' ▸ rfl)
  | @payment payload d hd =>
    obtain ⟨_, -, -, -, -, hnonneg, -⟩ := checkPayment_eq_ok hd
    exact .paid (d := d) (fun _ => nofun) hnonneg (Except.ok.inj hstore ▸ rfl)
  | @refund paymentId payload d hd =>
    obtain ⟨old, hrow, -, hpos, hle, hdraft⟩ := checkRefund_eq_ok.mp hd
    obtain ⟨hget, -⟩ := Store.transactionOf?_eq_some.mp hrow
    have htransactions : y.store.transactions =
        x.store.transactions.modify d.transactionId d.apply d.apply_key :=
      Except.ok.inj hstore ▸ rfl
    subst hdraft
    exact .refunded rfl hget ⟨hpos, rfl, by dsimp only; omega, rfl⟩ htransactions

/-- The row a refund is written to: a later version of the one it was computed from. -/
theorem StandingPayment.row {old : Transaction} (ht : StandingPayment rt t x)
    (hold : t.seen.store.transactions.get? id = some old) :
    ∃ row, x.store.transactions.get? id = some row ∧ old.Later row := ht.keeps id old hold

/-- A row after the commit: a settled new payment, one that was there, or the one refunded. -/
theorem StandingPayment.origin (ht : StandingPayment rt t x)
    (hcommit : Commits rt x t.request t.plan y) {p' : Transaction}
    (hget : y.store.transactions.get? id = some p') :
    (p'.Settled ∧ p'.status = .captured ∧ x.store.transactions.get? id = none) ∨
    (x.store.transactions.get? id = some p' ∧ ∀ r, t.plan = .refund r → r.transactionId ≠ id) ∨
    ∃ r old row, t.plan = .refund r ∧ r.transactionId = id ∧
      t.seen.store.transactions.get? id = some old ∧ r.From old ∧
      x.store.transactions.get? id = some row ∧ old.Later row ∧ p' = r.apply row := by
  cases ht.commit hcommit with
  | none hplan hsame => exact .inr (.inl ⟨hsame ▸ hget, fun r hr => (hplan r hr).elim⟩)
  | @paid d hplan hnonneg hinsert =>
    rw [hinsert, Table.get?_insert] at hget
    split at hget
    next hkey =>
      obtain rfl : rt.fresh x.store.transactions = id := hkey
      obtain rfl := Option.some.inj hget
      exact .inl ⟨PaymentDraft.row_settled hnonneg _, rfl, rt.get?_fresh x.store.transactions⟩
    · exact .inr (.inl ⟨hget, fun r hr => (hplan r hr).elim⟩)
  | @refunded r old hplan hold hfrom hmodify =>
    rw [hmodify, Table.get?_modify, Option.map_eq_some_iff] at hget
    obtain ⟨row, hrow, rfl⟩ := hget
    -- The refunded row was there at the commit, and is a later version of the one that was read.
    by_cases hid : id = r.transactionId
    · subst hid
      obtain ⟨row', hrow', hlater⟩ := ht.row hold
      obtain rfl : row' = row := Option.mem_unique hrow' hrow
      exact .inr (.inr ⟨r, old, row', hplan, rfl, hold, hfrom, hrow, hlater, if_pos rfl⟩)
    · refine .inr (.inl ⟨?_, ?_⟩)
      · rw [if_neg hid]
        exact hrow
      · rintro r' hr' rfl
        rw [hplan] at hr'
        cases hr'
        exact hid rfl

theorem StandingPayment.keepsPayments (ht : StandingPayment rt t x)
    (hcommit : Commits rt x t.request t.plan y) : KeepsPayments x y := by
  intro id p hget
  refine ⟨_, t.plan.get?_transactions hcommit.commit hget, ?_⟩
  rcases ht.origin hcommit (t.plan.get?_transactions hcommit.commit hget) with
    ⟨-, -, hnone⟩ | ⟨hsame, -⟩ | ⟨r, old, row, -, -, -, hfrom, hrow, hlater, hp'⟩
  · cases hnone.symm.trans hget
  · rw [← Option.mem_unique hget hsame]
    exact .refl p
  · obtain rfl : row = p := Option.mem_unique hrow hget
    rw [hp']
    exact hfrom.apply_later hlater

/-! ## §3 All interleavings -/

variable {k k' : RequestConfig} {m : RequestMove} {ms : List RequestMove}

/-- Every payment of the store is settled. -/
def PaymentsSettled (x : State) : Prop :=
  ∀ id p, x.store.transactions.get? id = some p → p.Settled

/-- The payments are settled, and were when the open requests read them. -/
abbrev SettledThroughout (rt : Runtime) (k : RequestConfig) : Prop :=
  (requests rt).Throughout KeepsPayments PaymentsSettled k

theorem standingPayment_step (h : (requests rt).AllStanding KeepsPayments k)
    (hstep : (requests rt).Step k m k') : (requests rt).AllStanding KeepsPayments k' :=
  Protocol.allStanding_step KeepsPayments.refl (fun _ _ _ => KeepsPayments.trans)
    (fun _ _ _ _ hread => .of_store hread.store)
    (fun _ _ _ ht hcommit => StandingPayment.keepsPayments ht hcommit) h hstep

/-- **One move.** -/
theorem settledThroughout_step (h : SettledThroughout rt k)
    (hstep : (requests rt).Step k m k') : SettledThroughout rt k' := by
  refine Protocol.throughout_step (fun h => standingPayment_step h hstep)
    (fun x _ _ y hx hread => ?_) (fun x t y ht hseen hx hcommit => ?_) h hstep
  · intro id p hget
    rw [hread.store] at hget
    exact hx id p hget
  · intro id p' hget
    rcases StandingPayment.origin ht hcommit hget with
      ⟨hsettled, -⟩ | ⟨hsame, -⟩ | ⟨r, old, row, -, -, hold, hfrom, hrow, hlater, rfl⟩
    · exact hsettled
    · exact hx id p' hsame
    · exact hfrom.apply_settled hlater (hseen id old hold) (hx id row hrow)

/-- REFUNDED means fully refunded. -/
def RefundsFull (k : RequestConfig) : Prop :=
  ∀ id p, k.shared.store.transactions.get? id = some p → p.status = .refunded →
    p.refundedCents = p.amountCents

/-- The move is not a partial refund of a payment that has been fully refunded. -/
def HeedsRefunded (k : RequestConfig) (m : RequestMove) : Prop :=
  ∀ t r p, m = .commit t → t.plan = .refund r →
    k.shared.store.transactions.get? r.transactionId = some p → p.status = .refunded →
    r.refundedCents = p.amountCents

theorem refundsFull_step (hk : SettledThroughout rt k) (h : RefundsFull k)
    (hstep : (requests rt).Step k m k') : RefundsFull k' ↔ HeedsRefunded k m := by
  cases hstep with
  | @read x y q l r p hread =>
    have hstore : y.store = x.store := hread.store
    refine ⟨fun _ _ _ _ => nofun, fun _ id p hget => ?_⟩
    rw [show (⟨y, _, _⟩ : RequestConfig).shared.store = x.store from hstore] at hget
    exact h id p hget
  | abort => exact ⟨fun _ _ _ _ => nofun, fun _ => h⟩
  | @commit x y q₁ q₂ l t hcommit =>
    have ht : StandingPayment rt t x := hk.standing.inFlight
    constructor
    · -- The row that is refunded stays REFUNDED, so its total is the amount afterwards.
      rintro hfull _ r p ⟨⟩ hplan hget hrefunded
      have hget' : y.store.transactions.get? r.transactionId = some (r.apply p) := by
        rw [t.plan.get?_transactions hcommit.commit hget, hplan, Draft.refundOf, if_pos rfl]
      obtain ⟨p', hp', -, hlater⟩ := ht.keepsPayments hcommit _ p hget
      obtain rfl : p' = r.apply p := Option.mem_unique hp' hget'
      exact hfull _ _ hget' (hlater hrefunded)
    · intro hheeds id p' hget hrefunded
      rcases ht.origin hcommit hget with
        ⟨-, hcaptured, -⟩ | ⟨hsame, -⟩ | ⟨r, old, row, hplan, rfl, -, hfrom, hrow, hlater, rfl⟩
      · cases hcaptured.symm.trans hrefunded
      · exact h id p' hsame hrefunded
      · rw [RefundDraft.apply_refundedCents, RefundDraft.apply_amountCents]
        rw [hfrom.apply_status hlater] at hrefunded
        split at hrefunded
        next hfull => exact hfull
        · exact hheeds t r row rfl hplan hrow hrefunded

/-- **Payments under concurrency.**  Let any requests interleave, from a store without payments.
In every state reached each payment is refunded by no less than nothing and no more than its
amount, is captured or refunded, and is REFUNDED when nothing remains of what was paid, if that is
anything; from then on only its total, its status and its date of refund change, and REFUNDED is
not taken back.  That REFUNDED always means fully refunded holds if and only if no partial refund is
committed to a payment that another request has fully refunded. -/
theorem payments_interleaved (hempty : ∀ p, p ∉ x.store.transactions) :
    (∀ ms k, Run (requests rt).Step (.start x) ms k → PaymentsSettled k.shared ∧
      ∀ ms' k', Run (requests rt).Step k ms' k' → KeepsPayments k.shared k'.shared) ∧
    ∀ ms k, Run (Keeping RefundsFull (requests rt).Step) (.start x) ms k ↔
      Run (Guarded HeedsRefunded (requests rt).Step) (.start x) ms k := by
  have hnone : ∀ id p, x.store.transactions.get? id ≠ some p := fun _ p hget =>
    hempty p (Table.mem_of_get? hget)
  have hstart : SettledThroughout rt (.start x) :=
    Protocol.throughout_start fun id p hget => (hnone id p hget).elim
  refine ⟨fun ms k hrun => ?_, fun ms k => ?_⟩
  · have hk : SettledThroughout rt k :=
      hrun.invariant (fun _ _ _ => settledThroughout_step) hstart
    refine ⟨hk.shared, fun ms' k' hrun' => ?_⟩
    -- Along the rest of the run, the tickets that are standing keep the payments.
    refine (hrun'.invariant (I := fun k' => (requests rt).AllStanding KeepsPayments k' ∧
      KeepsPayments k.shared k'.shared) (fun a _ b ⟨ha, hkept⟩ hstep => ?_)
      ⟨hk.standing, .refl _⟩).2
    refine ⟨standingPayment_step ha hstep, hkept.trans ?_⟩
    cases hstep with
    | read hread => exact .of_store hread.store
    | commit hcommit => exact StandingPayment.keepsPayments ha.inFlight hcommit
    | abort => exact .refl _
  · exact Run.keeping_iff_guarded_of (fun _ _ _ hk h hstep => refundsFull_step hk h hstep)
      (fun _ _ _ => settledThroughout_step) hstart fun id p hget => (hnone id p hget).elim

/-! ## §4 Two refunds of everything -/

/-- The small venue once user 7 has booked seat `A1`, and what it takes to pay for that. -/
def seatBooked : Store := seatStore smallStore 7

def seatPayTicket : RequestTicket :=
  ⟨⟨.plain 7 0, .createPayment smallPayment⟩, ⟨0, seatBooked⟩,
    .payment ⟨1, 7, "mock", 100, "RUB", 0, {}⟩⟩

/-- The payment has committed, and what a refund of all that remains computes from it. -/
def seatPaid : Store := (commitPayment .plain 0 seatBooked ⟨1, 7, "mock", 100, "RUB", 0, {}⟩).1

def allRefund : RefundDraft := ⟨1, 7, 100, 100, some .refunded, 0⟩

def allRefundTicket : RequestTicket :=
  ⟨⟨.plain 7 0, .refundPayment 1 fullRefund⟩, ⟨0, seatPaid⟩, .refund allRefund⟩

/-- The payment, and then two refunds of it which both read before either commits. -/
def paidConfig : RequestConfig := ⟨⟨0, seatPaid⟩, [], [seatPayTicket, seatTicket 7]⟩

def twiceRefunded : RequestConfig :=
  ⟨⟨0, commitRefund 0 (commitRefund 0 seatPaid allRefund) allRefund⟩, [],
    [allRefundTicket, allRefundTicket, seatPayTicket, seatTicket 7]⟩

def paidMoves : List RequestMove :=
  [.read (seatTicket 7), .commit (seatTicket 7), .read seatPayTicket, .commit seatPayTicket]

def twiceMoved : List RequestMove :=
  [.read allRefundTicket, .read allRefundTicket, .commit allRefundTicket, .commit allRefundTicket]

/-- No commit is a partial refund, so none overwrites a full one. -/
theorem paidMoves_run :
    Run (Guarded HeedsRefunded (requests .plain).Step) (.start ⟨0, smallStore⟩) paidMoves
      paidConfig := by
  have hbook : Run (Guarded HeedsRefunded (requests .plain).Step) (.start ⟨0, smallStore⟩)
      [.read (seatTicket 7), .commit (seatTicket 7)] ⟨⟨0, seatBooked⟩, [], [seatTicket 7]⟩ := by
    refine .snoc (.single ⟨fun _ _ _ => nofun, .read (seatTicket_reads 7)⟩)
      ⟨?_, .commit_last (seatTicket_commits smallStore 7)⟩
    rintro _ _ _ ⟨⟩ ⟨⟩
  refine .snoc (.snoc hbook ⟨fun _ _ _ => nofun, .read ⟨le_rfl, le_rfl, rfl, rfl⟩⟩)
    ⟨?_, .commit_last ⟨le_rfl, le_rfl, rfl⟩⟩
  rintro _ _ _ ⟨⟩ ⟨⟩

theorem twiceMoved_run :
    Run (Guarded HeedsRefunded (requests .plain).Step) paidConfig twiceMoved twiceRefunded := by
  have hreads : Run (Guarded HeedsRefunded (requests .plain).Step) paidConfig
      [.read allRefundTicket, .read allRefundTicket]
      ⟨⟨0, seatPaid⟩, [allRefundTicket, allRefundTicket], [seatPayTicket, seatTicket 7]⟩ :=
    .snoc (.single ⟨fun _ _ _ => nofun, .read ⟨le_rfl, le_rfl, rfl, rfl⟩⟩)
      ⟨fun _ _ _ => nofun, .read ⟨le_rfl, le_rfl, rfl, rfl⟩⟩
  have hfirst : (requests .plain).Step
      ⟨⟨0, seatPaid⟩, [allRefundTicket, allRefundTicket], [seatPayTicket, seatTicket 7]⟩
      (.commit allRefundTicket)
      ⟨⟨0, commitRefund 0 seatPaid allRefund⟩, [allRefundTicket],
        [allRefundTicket, seatPayTicket, seatTicket 7]⟩ :=
    .commit_last ⟨le_rfl, le_rfl, rfl⟩
  -- Both refunds are of the whole amount.
  refine .snoc (.snoc hreads ⟨?_, hfirst⟩) ⟨?_, .commit_last ⟨le_rfl, le_rfl, rfl⟩⟩
  · rintro _ _ p ⟨⟩ ⟨⟩ hget -
    obtain rfl := Option.some.inj hget
    rfl
  · rintro _ _ p ⟨⟩ ⟨⟩ hget -
    obtain rfl := Option.some.inj hget
    rfl

/-- Along that run. -/
theorem payments_interleaved_twice :
    twiceRefunded.shared.store.transactions.rows.map
        (fun p => (p.amountCents, p.refundedCents, p.status)) = [(100, 100, .refunded)] ∧
    PaymentsSettled twiceRefunded.shared ∧
    KeepsPayments paidConfig.shared twiceRefunded.shared ∧
    Run (Keeping RefundsFull (requests .plain).Step) (.start ⟨0, smallStore⟩)
      (paidMoves ++ twiceMoved) twiceRefunded := by
  have hempty : ∀ p, p ∉ smallStore.transactions := fun _ => (Table.mem_empty _).mp
  have hpaid := paidMoves_run.mono fun _ _ _ hstep => hstep.2
  have htwice := twiceMoved_run.mono fun _ _ _ hstep => hstep.2
  obtain ⟨hsettled, hfull⟩ := @payments_interleaved .plain ⟨0, smallStore⟩ hempty
  exact ⟨by decide, (hsettled _ _ (hpaid.append htwice)).1, (hsettled _ _ hpaid).2 _ _ htwice,
    (hfull _ _).mpr (paidMoves_run.append twiceMoved_run)⟩

end Coworking
