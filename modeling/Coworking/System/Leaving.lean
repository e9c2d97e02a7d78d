import Coworking.System.AvailabilityChange
import Coworking.System.Isolation

/-!
# Taking Everything Back

Nothing a user does here is final for the user: a pending hold and a booking in any status can be
cancelled, and what remains of a payment can be refunded.  What is left to do of this is an agenda
that only the user's own calls work off.

- `outstanding`: the agenda of a user;
- `outstanding_taken`, `outstanding_others`: what a call of the user, and of anybody else, does to it;
- `take_everything_back`: a run in which the user works it off.
-/

namespace Coworking

open Foundation

variable {rt : Runtime} {c : Call} {s s' : Store} {user : Uuid} {op k : Op}

/-! ## §1 The agenda -/

/-- The cancellations and refunds by which the user takes back what is theirs. -/
def outstanding (user : Uuid) (s : Store) : List Op :=
  (s.holds.rows.filter fun h => h.userId = user ∧ h.status = .pending).map (fun h =>
      .cancelHold h.id) ++
    (s.bookings.rows.filter fun b => b.userId = user ∧ b.status ≠ .cancelled).map (fun b =>
      .cancelBooking b.id) ++
    (s.transactions.rows.filter fun t => t.userId = user ∧ t.refundedCents ≠ t.amountCents).map
      fun t => .refundPayment t.id fullRefund

theorem mem_outstanding : k ∈ outstanding user s ↔
    (∃ h ∈ s.holds, (h.userId = user ∧ h.status = .pending) ∧ .cancelHold (Keyed.key h) = k) ∨
    (∃ b ∈ s.bookings, (b.userId = user ∧ b.status ≠ .cancelled) ∧
      .cancelBooking (Keyed.key b) = k) ∨
    ∃ t ∈ s.transactions, (t.userId = user ∧ t.refundedCents ≠ t.amountCents) ∧
      .refundPayment (Keyed.key t) fullRefund = k := by
  simp only [outstanding, List.mem_append, List.mem_map, List.mem_filter, decide_eq_true_eq,
    or_assoc, and_assoc]
  rfl

/-- Nothing is listed twice. -/
theorem outstanding_nodup (user : Uuid) (s : Store) : (outstanding user s).Nodup := by
  have hids : ∀ {ρ : Type} [Keyed ρ Uuid] (t : Table ρ) (p : ρ → Bool) (toOp : Uuid → Op),
      Function.Injective toOp →
      ((t.rows.filter p).map fun r => toOp (Keyed.key r)).Nodup := by
    intro ρ _ t p toOp hinj
    have hnodup := (t.filter p).keysNodup.map hinj
    rwa [List.map_map] at hnodup
  refine List.nodup_append.mpr ⟨List.nodup_append.mpr ⟨?_, ?_, ?_⟩, ?_, ?_⟩
  · exact hids s.holds _ .cancelHold fun a b h => Op.cancelHold.inj h
  · exact hids s.bookings _ .cancelBooking fun a b h => Op.cancelBooking.inj h
  · intro a ha b hb hab
    obtain ⟨_, -, rfl⟩ := List.mem_map.mp ha
    obtain ⟨_, -, rfl⟩ := List.mem_map.mp hb
    cases hab
  · exact hids s.transactions _ (.refundPayment · fullRefund) fun a b h => (Op.refundPayment.inj h).1
  · intro a ha b hb hab
    obtain ⟨_, -, rfl⟩ := List.mem_map.mp hb
    rcases List.mem_append.mp ha with ha | ha
    · obtain ⟨_, -, rfl⟩ := List.mem_map.mp ha
      cases hab
    · obtain ⟨_, -, rfl⟩ := List.mem_map.mp ha
      cases hab

/-! ## §2 The calls of the user -/

/-- Every payment is captured or refunded, and no more is refunded than was paid. -/
def Refundable (s : Store) : Prop :=
  ∀ t ∈ s.transactions, (t.status = .captured ∨ t.status = .refunded) ∧
    t.refundedCents ≤ t.amountCents

/-- A call that is granted and takes the operation, and no other, off the agenda. -/
structure Taken (rt : Runtime) (c : Call) (s : Store) (op : Op) (s' : Store) : Prop where
  granted : exec rt c s op = .ok s'
  left : ∀ k, k ∈ outstanding c.user s' ↔ k ∈ outstanding c.user s ∧ k ≠ op

theorem taken_cancelHold {h : Hold} (hmem : h ∈ s.holds) (huser : h.userId = c.user)
    (hstatus : h.status = .pending) : ∃ s', Taken rt c s (.cancelHold h.id) s' := by
  have hget : s.holdOf? h.id c.user = some h :=
    Store.holdOf?_eq_some.mpr ⟨Table.get?_of_mem hmem, huser⟩
  refine ⟨_, cancelHold_eq_ok.mpr ⟨h, hget, rfl⟩, fun k => ?_⟩
  rw [if_pos hstatus, mem_outstanding, mem_outstanding]
  have hrows : ∀ r ∈ s.holds, Keyed.key r = h.id →
      ¬ ((Hold.setStatus .cancelled r).userId = c.user ∧
        (Hold.setStatus .cancelled r).status = .pending) := fun _ _ _ hr => nomatch hr.2
  rw [Table.exists_modify_iff (P := fun id => Op.cancelHold id = k) hrows]
  constructor
  · rintro (⟨r, hr, hown, rfl, hne⟩ | ⟨b, hb, hown, rfl⟩ | ⟨t, ht, hown, rfl⟩)
    · exact ⟨.inl ⟨r, hr, hown, rfl⟩, fun he => hne (Op.cancelHold.inj he)⟩
    · exact ⟨.inr (.inl ⟨b, hb, hown, rfl⟩), by simp⟩
    · exact ⟨.inr (.inr ⟨t, ht, hown, rfl⟩), by simp⟩
  · rintro ⟨⟨r, hr, hown, rfl⟩ | hrest, hne⟩
    · exact .inl ⟨r, hr, hown, rfl, fun he => hne (congrArg _ he)⟩
    · exact .inr hrest

theorem taken_cancelBooking {b : Booking} (hmem : b ∈ s.bookings) (huser : b.userId = c.user)
    (hstatus : b.status ≠ .cancelled) : ∃ s', Taken rt c s (.cancelBooking b.id) s' := by
  have hget : s.bookingOf? b.id c.user = some b :=
    Store.bookingOf?_eq_some.mpr ⟨Table.get?_of_mem hmem, huser⟩
  obtain ⟨p, hp, hcheck⟩ : ∃ p : BookingPatch, p.status = dirty b.status .cancelled ∧
      checkCancel c s b.id = .ok (some ⟨b.id, c.user, p, "booking_cancelled"⟩) :=
    ⟨_, rfl, checkCancel_eq_ok.mpr ⟨b, hget, (if_neg hstatus).symm⟩⟩
  refine ⟨_, cancelBooking_eq_ok.mpr ⟨_, hcheck, rfl⟩, fun k => ?_⟩
  rw [mem_outstanding, mem_outstanding]
  have hrows : ∀ r ∈ s.bookings, Keyed.key r = b.id →
      ¬ ((p.apply r).userId = c.user ∧ (p.apply r).status ≠ .cancelled) := by
    intro r hr hkey hopen
    -- The row that was loaded is the row that is written.
    obtain rfl : r = b := Table.key_injective hr hmem hkey
    refine hopen.2 ?_
    rw [BookingPatch.apply, hp]
    exact dirty_getD _ _
  have hmodify : (∃ r ∈ s.bookings.modify b.id p.apply p.apply_key,
      (r.userId = c.user ∧ r.status ≠ .cancelled) ∧ Op.cancelBooking (Keyed.key r) = k) ↔ _ :=
    Table.exists_modify_iff (q := fun r : Booking => r.userId = c.user ∧ r.status ≠ .cancelled)
      (P := fun id => Op.cancelBooking id = k) hrows
  constructor
  · rintro (⟨r, hr, hown, rfl⟩ | hbooking | ⟨t, ht, hown, rfl⟩)
    · exact ⟨.inl ⟨r, hr, hown, rfl⟩, by simp⟩
    · obtain ⟨r, hr, hown, rfl, hne⟩ := hmodify.mp hbooking
      exact ⟨.inr (.inl ⟨r, hr, hown, rfl⟩), fun he => hne (Op.cancelBooking.inj he)⟩
    · exact ⟨.inr (.inr ⟨t, ht, hown, rfl⟩), by simp⟩
  · rintro ⟨hhold | ⟨r, hr, hown, rfl⟩ | hpayment, hne⟩
    · exact .inl hhold
    · exact .inr (.inl (hmodify.mpr ⟨r, hr, hown, rfl, fun he => hne (congrArg _ he)⟩))
    · exact .inr (.inr hpayment)

theorem taken_refundPayment (hledger : Refundable s) {t : Transaction} (hmem : t ∈ s.transactions)
    (huser : t.userId = c.user) (hopen : t.refundedCents ≠ t.amountCents) :
    ∃ s', Taken rt c s (.refundPayment t.id fullRefund) s' := by
  have hget : s.transactionOf? t.id c.user = some t :=
    Store.transactionOf?_eq_some.mpr ⟨Table.get?_of_mem hmem, huser⟩
  obtain ⟨hstatus, hle⟩ := hledger t hmem
  -- What remains is asked for, and it is not nothing.
  have hamount : fullRefund.amountOr (t.amountCents - t.refundedCents) =
      t.amountCents - t.refundedCents := rfl
  obtain ⟨d, hid, htotal, hcheck⟩ : ∃ d : RefundDraft, d.transactionId = t.id ∧
      d.refundedCents = t.amountCents ∧ checkRefund c s t.id fullRefund = .ok d := by
    refine ⟨_, rfl, ?_, checkRefund_eq_ok.mpr ⟨t, hget, hstatus, ?_, ?_, rfl⟩⟩
    · show t.refundedCents + fullRefund.amountOr _ = t.amountCents
      rw [hamount]
      omega
    · omega
    · omega
  refine ⟨_, refundPayment_eq_ok.mpr ⟨_, hcheck, rfl⟩, fun k => ?_⟩
  rw [mem_outstanding, mem_outstanding, commitRefund_transactions, hid]
  have hrows : ∀ r ∈ s.transactions, Keyed.key r = t.id →
      ¬ ((d.apply r).userId = c.user ∧ (d.apply r).refundedCents ≠ (d.apply r).amountCents) := by
    intro r hr hkey hremains
    obtain rfl : r = t := Table.key_injective hr hmem hkey
    exact hremains.2 htotal
  have hmodify : (∃ r ∈ s.transactions.modify t.id d.apply d.apply_key,
      (r.userId = c.user ∧ r.refundedCents ≠ r.amountCents) ∧
        Op.refundPayment (Keyed.key r) fullRefund = k) ↔ _ :=
    Table.exists_modify_iff
      (q := fun r : Transaction => r.userId = c.user ∧ r.refundedCents ≠ r.amountCents)
      (P := fun id => Op.refundPayment id fullRefund = k) hrows
  constructor
  · rintro (⟨r, hr, hown, rfl⟩ | ⟨b, hb, hown, rfl⟩ | hpayment)
    · exact ⟨.inl ⟨r, hr, hown, rfl⟩, by simp⟩
    · exact ⟨.inr (.inl ⟨b, hb, hown, rfl⟩), by simp⟩
    · obtain ⟨r, hr, hown, rfl, hne⟩ := hmodify.mp hpayment
      exact ⟨.inr (.inr ⟨r, hr, hown, rfl⟩), fun he => hne (Op.refundPayment.inj he).1⟩
  · rintro ⟨hhold | hbooking | ⟨r, hr, hown, rfl⟩, hne⟩
    · exact .inl hhold
    · exact .inr (.inl hbooking)
    · exact .inr (.inr (hmodify.mpr
        ⟨r, hr, hown, rfl, fun he => hne (congrArg (Op.refundPayment · fullRefund) he)⟩))

/-- **A call of the user** that is on the agenda. -/
theorem outstanding_taken (hledger : Refundable s) (h : op ∈ outstanding c.user s) :
    ∃ s', Taken rt c s op s' := by
  rcases mem_outstanding.mp h with ⟨h, hmem, ⟨huser, hopen⟩, rfl⟩ | ⟨b, hmem, ⟨huser, hopen⟩, rfl⟩ |
    ⟨t, hmem, ⟨huser, hopen⟩, rfl⟩
  · exact taken_cancelHold hmem huser hopen
  · exact taken_cancelBooking hmem huser hopen
  · exact taken_refundPayment hledger hmem huser hopen

/-! ## §3 The calls of the others -/

/-- **A call of another user.** -/
theorem outstanding_others {other : Uuid} (h : OthersUntouched other s s') (hne : user ≠ other) :
    outstanding user s' = outstanding user s := by
  have hmine : ∀ {ρ : Type} (owner : ρ → Uuid) (p : ρ → Prop) [DecidablePred p], ∀ r,
      decide (owner r = user ∧ p r) = true → decide (owner r ≠ other) = true := by
    intro ρ owner p _ r hr
    rw [decide_eq_true_eq] at hr ⊢
    rw [hr.1]
    exact hne
  have hholds := h.holds.mono (hmine (fun h : Hold => h.userId) fun h => h.status = .pending)
  have hbookings := h.bookings.mono
    (hmine (fun b : Booking => b.userId) fun b => b.status ≠ .cancelled)
  have htransactions := h.transactions.mono
    (hmine Transaction.userId fun t => t.refundedCents ≠ t.amountCents)
  unfold outstanding
  rw [hholds, hbookings, htransactions]

/-! ## §4 Runs -/

/-- The store without the holds and bookings of the user. -/
def Store.without (user : Uuid) (s : Store) : Store :=
  { s with
    holds := s.holds.filter fun h => h.userId ≠ user
    bookings := s.bookings.filter fun b => b.userId ≠ user }

/-- Where nothing of the user is pending, every availability answer is the one of a store in which
the user has nothing. -/
theorem answer_without (hholds : ∀ h ∈ s.holds, h.userId = user → h.status ≠ .pending)
    (hbookings : ∀ b ∈ s.bookings, b.userId = user → b.status = .cancelled)
    (q : AvailabilityQuery) : q.answer rt c s = q.answer rt c (s.without user) := by
  refine answer_of_sameBlocking ⟨rfl, rfl, rfl, rfl, rfl⟩ (fun b hb => ?_) fun h hh => ?_
  · simp only [Store.without, Table.mem_filter, decide_eq_true_eq, iff_self_and]
    intro hmem huser
    rw [hbookings b hmem huser] at hb
    cases hb
  · simp only [Store.without, Table.mem_filter, decide_eq_true_eq, iff_self_and]
    intro hmem huser
    have hstatus := hholds h hmem huser
    -- Only pending holds block.
    cases hs : h.status with
    | pending => exact hstatus hs
    | _ => simp [hs, HoldStatus.blocking] at hh

variable {x y z : State} {es calls : List Event}

/-- What a run from a store without payments keeps. -/
structure PaymentsInOrder (s : Store) : Prop where
  owned : PaymentsOwned s
  ledger : ∃ total, LedgerBalanced total s

theorem PaymentsInOrder.step (h : PaymentsInOrder s) (e : Event) :
    PaymentsInOrder (step rt s e) := by
  obtain ⟨total, hledger⟩ := h.ledger
  exact ⟨h.owned.effect (step_effect rt s e), _, ledgerBalanced_step hledger e⟩

theorem PaymentsInOrder.refundable (h : PaymentsInOrder s) : Refundable s := by
  obtain ⟨total, hledger⟩ := h.ledger
  intro t ht
  have hrow := hledger.rows t.id t (Table.get?_of_mem ht)
  exact ⟨hrow.captured_or_refunded, hrow.le_amount⟩

/-- **Everything can be taken back.**  From every state that a run reaches from a store without
payments, let a run go on in which a user makes the calls on the user's agenda, each once, in any
order and at any times, and all others do what they like.  Then each of these calls is granted, and
at its end the user has no pending hold, no booking that is not cancelled and no payment that is not
refunded in full, and every availability answer is as if the user had never held or booked anything. -/
theorem take_everything_back (hpayments : ∀ t, t ∉ x.store.transactions)
    (hrun : Run (SerialStep rt) x es y) (hrest : Run (SerialStep rt) y calls z)
    (hcalls : ((calls.filter fun e => e.call.user = user).map Event.op).Perm
      (outstanding user y.store)) :
    Run (fun u e v => SerialStep rt u e v ∧
        (e.call.user = user → exec rt e.call u.store e.op = .ok v.store)) y calls z ∧
      (∀ h ∈ z.store.holds, h.userId = user → h.status ≠ .pending) ∧
      (∀ b ∈ z.store.bookings, b.userId = user → b.status = .cancelled) ∧
      (∀ t ∈ z.store.transactions, t.userId = user → t.refundedCents = t.amountCents) ∧
      ∀ c q, AvailabilityQuery.answer rt c z.store q =
        AvailabilityQuery.answer rt c (z.store.without user) q := by
  -- The invariant of the run: payments are for bookings of the payer, and the ledger balances.
  have hinv : ∀ u e v, PaymentsInOrder (State.store u) → SerialStep rt u e v →
      PaymentsInOrder v.store := fun u e v h hstep => hstep.store ▸ h.step e
  have hstart : PaymentsInOrder x.store :=
    ⟨fun t ht => (hpayments t ht).elim, fun _ => 0,
      fun id t ht => (hpayments t (Table.mem_of_get? ht)).elim, fun _ _ => rfl⟩
  have hy : PaymentsInOrder y.store :=
    hrun.invariant (I := fun u => PaymentsInOrder u.store) hinv hstart
  -- A call of the user on the agenda is granted, and leaves the rest of the agenda.
  have hmine : ∀ (u : State) (e : Event) (v : State), PaymentsInOrder u.store →
      SerialStep rt u e v → decide (e.call.user = user) = true → e.op ∈ outstanding user u.store →
      exec rt e.call u.store e.op = .ok v.store ∧
        ∀ op, op ∈ outstanding user v.store ↔ op ∈ outstanding user u.store ∧ op ≠ e.op := by
    intro u e v hu hstep huser hop
    obtain rfl : e.call.user = user := of_decide_eq_true huser
    obtain ⟨s', hs'⟩ : ∃ s', Taken rt e.call u.store e.op s' := outstanding_taken hu.refundable hop
    rw [hstep.store_of_ok rfl hs'.granted]
    exact ⟨hs'.granted, hs'.left⟩
  -- A call of anybody else leaves all of it.
  have hother : ∀ (u : State) (e : Event) (v : State), PaymentsInOrder u.store →
      SerialStep rt u e v → decide (e.call.user = user) = false →
      ∀ op, op ∈ outstanding user v.store ↔ op ∈ outstanding user u.store := by
    intro u e v hu hstep huser op
    have hothers : OthersUntouched e.call.user u.store (Coworking.step rt u.store e) :=
      othersUntouched_step hu.owned e
    rw [hstep.store, outstanding_others hothers fun he => of_decide_eq_false huser he.symm]
  obtain ⟨hgranted, -, hleft⟩ := hrest.agenda (fun u => PaymentsInOrder u.store)
    (fun e => e.call.user = user) Event.op (fun u op => op ∈ outstanding user u.store)
    (fun u e v => exec rt e.call u.store e.op = .ok v.store) hmine hother hinv hy
    (hcalls.nodup_iff.mpr (outstanding_nodup _ _)) fun op hop => hcalls.mem_iff.mp hop
  -- So nothing is outstanding at the end.
  have hnone : ∀ op, op ∉ outstanding user z.store := fun op hop =>
    ((hleft op).mp hop).2 (hcalls.mem_iff.mpr ((hleft op).mp hop).1)
  have hholds : ∀ h ∈ z.store.holds, h.userId = user → h.status ≠ .pending := fun h hmem huser hs =>
    hnone _ (mem_outstanding.mpr (.inl ⟨h, hmem, ⟨huser, hs⟩, rfl⟩))
  have hbookings : ∀ b ∈ z.store.bookings, b.userId = user → b.status = .cancelled := by
    intro b hmem huser
    by_contra hopen
    exact hnone _ (mem_outstanding.mpr (.inr (.inl ⟨b, hmem, ⟨huser, hopen⟩, rfl⟩)))
  refine ⟨hgranted.mono fun u e v h => ⟨h.1, fun huser => h.2 (decide_eq_true huser)⟩, hholds,
    hbookings, fun t hmem huser => ?_, fun c q => answer_without hholds hbookings q⟩
  by_contra hopen
  exact hnone _ (mem_outstanding.mpr (.inr (.inr ⟨t, hmem, ⟨huser, hopen⟩, rfl⟩)))

/-- User 7 takes a booking and its payment back; user 8 takes the seat in between. -/
def takingBack : List Event :=
  [⟨.plain 7 4, .cancelBooking 1⟩, ⟨.plain 8 5, .createBooking (smallBooking none)⟩,
    ⟨.plain 7 6, .refundPayment 1 fullRefund⟩]

/-- The payment had been refunded in part before. -/
theorem take_everything_back_smallPayments :
    ((replay .plain (replay .plain smallStore (smallPayments.take 3)) takingBack).transactions.rows.all
      fun t => t.userId = 7 → t.refundedCents = t.amountCents) = true := by
  have hrun : Run (SerialStep .plain) ⟨0, smallStore⟩ (smallPayments.take 3)
      ⟨2, replay .plain smallStore (smallPayments.take 3)⟩ :=
    (by decide : InOrder 0 (smallPayments.take 3)).run smallStore
  have hrest : Run (SerialStep .plain) ⟨2, replay .plain smallStore (smallPayments.take 3)⟩
      takingBack ⟨6, replay .plain (replay .plain smallStore (smallPayments.take 3)) takingBack⟩ :=
    (by decide : InOrder 2 takingBack).run _
  have hagenda : outstanding 7 (replay .plain smallStore (smallPayments.take 3)) =
      [.cancelBooking 1, .refundPayment 1 fullRefund] := rfl
  have hcalls : ((takingBack.filter fun e => e.call.user = 7).map Event.op).Perm
      (outstanding 7 (replay .plain smallStore (smallPayments.take 3))) := by
    rw [hagenda]
    exact .refl _
  have hrefunded := (take_everything_back (fun _ => (Table.mem_empty _).mp) hrun hrest hcalls).2.2.2.1
  exact List.all_eq_true.mpr fun t ht => decide_eq_true (hrefunded t ht)

end Coworking
