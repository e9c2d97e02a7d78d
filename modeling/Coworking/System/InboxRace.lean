import Coworking.System.Inbox
import Coworking.System.PaymentRace

/-!
# The Inbox under Concurrency

A notification is added in the transaction that it reports, so the inbox tells what has committed,
in that order, however the requests interleave.  What it tells may disagree with the rows: two
cancellations of one booking are both reported, and so is a refund that another one overwrites.

- `Draft.reports`: who is notified of a commit, and under which template;
- `InboxLog`: the inbox as the log of the committed requests;
- `InboxLog.commit`: one commit, one case for each kind of draft;
- `inbox_interleaved`: every interleaving.
-/

namespace Coworking

open Foundation

variable {rt : Runtime} {x y : State} {s s' : Store} {t : RequestTicket} {l : List RequestTicket}
  {n : Notification} {k k' : RequestConfig} {m : RequestMove}

/-! ## §1 Reports -/

/-- The recipient and the template of the notification that a commit adds. -/
def Draft.reports : Draft → Option (Uuid × String)
  | .hold _ => none
  | .booking d => some (d.slot.userId, "booking_created")
  | .update u => some (u.userId, u.templateCode)
  | .checkin d => some (d.update.userId, d.update.templateCode)
  | .payment d => some (d.userId, "payment_captured")
  | .refund d => some (d.userId, "payment_refunded")

/-- A request to cancel the booking. -/
def cancelsBooking (id : Uuid) (t : RequestTicket) : Bool :=
  match t.request.body with
  | .cancelBooking bookingId => bookingId = id
  | _ => false

/-- The inbox is the log of the requests that have committed. -/
structure InboxLog (l : List RequestTicket) (s : Store) : Prop where
  order : s.notifications.map (fun n => (n.userId, n.templateCode)) =
    l.reverse.filterMap fun t => t.plan.reports
  recipients : ∀ t ∈ l, ∀ r ∈ t.plan.reports, r.1 = t.request.call.user
  created : ∀ id, tally s.notifications "booking_created" "bookingId" id =
    (s.bookings.get? id).isSome.toNat
  cancelled : ∀ id, tally s.notifications "booking_cancelled" "bookingId" id =
    l.countP (cancelsBooking id)
  checkedIn : ∀ id, tally s.notifications "booking_checked_in" "bookingId" id =
    (s.checkins.get? id).isSome.toNat
  captured : ∀ id, tally s.notifications "payment_captured" "transactionId" id =
    (s.transactions.get? id).isSome.toNat
  refunded : ∀ id, refundsReported s.notifications id = refundedTo id l
  owners : ∀ n ∈ s.notifications, n.Owned s

theorem Unlogged.inboxLog (h : Unlogged s) : InboxLog [] s where
  order := by simp [h.notifications]
  recipients := fun _ => nofun
  created := h.faithful.bookings.created
  cancelled := by simp [h.notifications, tally]
  checkedIn := h.faithful.bookings.checkedIn
  captured := h.faithful.payments.captured
  refunded := by simp [h.notifications, refundsReported, refundedTo]
  owners := h.faithful.owners

/-! ## §2 What a ticket needs to know -/

/-- A commit leaves every user the bookings and payments they have. -/
theorem Commits.keepsOwners {r : Request} {d : Draft} (h : Commits rt x r d y) :
    KeepsOwners x.store y.store where
  bookings := fun hb => by
    obtain ⟨hget, huser⟩ := Store.bookingOf?_eq_some.mp hb
    exact ⟨_, Store.bookingOf?_eq_some.mpr ⟨d.get?_bookings h.commit hget, huser⟩⟩
  transactions := fun ht => by
    obtain ⟨hget, huser⟩ := Store.transactionOf?_eq_some.mp ht
    refine ⟨_, Store.transactionOf?_eq_some.mpr ⟨d.get?_transactions h.commit hget, ?_⟩⟩
    cases d with
    | refund d =>
      rw [Draft.refundOf]
      split
      · exact huser
      · exact huser
    | _ => exact huser

/-- A ticket whose user still has what it has read. -/
abbrev StandingOwner (rt : Runtime) (t : RequestTicket) (x : State) : Prop :=
  (requests rt).Standing (fun x y => KeepsOwners x.store y.store) t x

theorem standingOwner_step
    (h : (requests rt).AllStanding (fun x y => KeepsOwners x.store y.store) k)
    (hstep : (requests rt).Step k m k') :
    (requests rt).AllStanding (fun x y => KeepsOwners x.store y.store) k' :=
  Protocol.allStanding_step (fun _ => ⟨fun hb => ⟨_, hb⟩, fun ht => ⟨_, ht⟩⟩)
    (fun _ _ _ h₁ h₂ => ⟨fun hb => have ⟨_, hb'⟩ := h₁.bookings hb; h₂.bookings hb',
      fun ht => have ⟨_, ht'⟩ := h₁.transactions ht; h₂.transactions ht'⟩)
    (fun _ _ _ _ hread => hread.store ▸ ⟨fun hb => ⟨_, hb⟩, fun ht => ⟨_, ht⟩⟩)
    (fun _ _ _ _ hcommit => hcommit.keepsOwners) h hstep

theorem StandingOwner.drafted (h : StandingOwner rt t x) :
    Drafted rt t.request.call t.seen.store t.request.body t.plan := by
  obtain ⟨s₀, hread, -⟩ := h
  exact hread.drafted

theorem StandingOwner.keepsOwners (h : StandingOwner rt t x) :
    KeepsOwners t.seen.store x.store := by
  obtain ⟨s₀, hread, hlater⟩ := h
  exact hread.store ▸ hlater

/-! ## §3 One commit -/

/-- A commit that adds no notification. -/
theorem InboxLog.silent (h : InboxLog l s) (hplan : t.plan.reports = none)
    (hbody : ∀ id, cancelsBooking id t = false) (hrefund : ∀ id, t.plan.refundedTo id = 0)
    (hn : s'.notifications = s.notifications) (hb : s'.bookings = s.bookings)
    (hk : s'.checkins = s.checkins) (ht : s'.transactions = s.transactions) :
    InboxLog (t :: l) s' where
  order := by simp [hn, h.order, hplan]
  recipients := fun u hu r hr => by
    rcases List.mem_cons.mp hu with rfl | hu
    · cases hplan ▸ hr
    · exact h.recipients u hu r hr
  created := by simp only [hn, hb, h.created, implies_true]
  cancelled := by simp [hn, h.cancelled, hbody]
  checkedIn := by simp only [hn, hk, h.checkedIn, implies_true]
  captured := by simp only [hn, ht, h.captured, implies_true]
  refunded := by simp [hn, h.refunded, hrefund]
  owners := by
    rw [hn]
    intro n hmem
    refine ⟨?_, ?_⟩ <;> simp only [Store.bookingOf?, Store.transactionOf?, hb, ht]
    · exact (h.owners n hmem).booking
    · exact (h.owners n hmem).payment

/-- What a notification adds to the bookings and check-ins reported is what its commit adds to the
tables. -/
structure ReportsBookings (n : Notification) (t : RequestTicket) (s s' : Store) : Prop where
  created : ∀ id, (s'.bookings.get? id).isSome.toNat = (s.bookings.get? id).isSome.toNat +
    (n.names "booking_created" "bookingId" id).toNat
  cancelled : ∀ id, n.names "booking_cancelled" "bookingId" id = cancelsBooking id t
  checkedIn : ∀ id, (s'.checkins.get? id).isSome.toNat = (s.checkins.get? id).isSome.toNat +
    (n.names "booking_checked_in" "bookingId" id).toNat

structure ReportsPayments (n : Notification) (t : RequestTicket) (s s' : Store) : Prop where
  captured : ∀ id, (s'.transactions.get? id).isSome.toNat =
    (s.transactions.get? id).isSome.toNat + (n.names "payment_captured" "transactionId" id).toNat
  refunded : ∀ id, (if n.names "payment_refunded" "transactionId" id then n.amountCents else 0) =
    t.plan.refundedTo id

/-- A commit with its notification. -/
theorem InboxLog.append (h : InboxLog l s) (hlog : s'.notifications = s.notifications ++ [n])
    (hreports : t.plan.reports = some (n.userId, n.templateCode))
    (hrecipient : n.userId = t.request.call.user) (hb : ReportsBookings n t s s')
    (hp : ReportsPayments n t s s') (hkeep : KeepsOwners s s') (hn : n.Owned s') :
    InboxLog (t :: l) s' where
  order := by simp [hlog, h.order, hreports]
  recipients := fun u hu r hr => by
    rcases List.mem_cons.mp hu with rfl | hu
    · rw [hreports, Option.mem_def, Option.some.injEq] at hr
      rw [← hr]
      exact hrecipient
    · exact h.recipients u hu r hr
  created := fun id => by rw [hlog, tally_append, h.created, hb.created]
  cancelled := fun id => by
    rw [hlog, tally_append, h.cancelled, hb.cancelled, List.countP_cons]
    cases cancelsBooking id t <;> rfl
  checkedIn := fun id => by rw [hlog, tally_append, h.checkedIn, hb.checkedIn]
  captured := fun id => by rw [hlog, tally_append, h.captured, hp.captured]
  refunded := fun id => by
    rw [hlog, refundsReported_append, h.refunded, hp.refunded, refundedTo_cons, add_comm]
  owners := hkeep.append h.owners hlog hn

/-- The notification is about a booking, and its commit leaves the payments alone. -/
theorem ReportsPayments.other (hn : n.templateCode ∉ ["payment_captured", "payment_refunded"])
    (hrefund : ∀ id, t.plan.refundedTo id = 0) (ht : s'.transactions = s.transactions) :
    ReportsPayments n t s s' := by
  simp only [List.mem_cons, List.not_mem_nil, or_false, not_or] at hn
  refine ⟨fun id => ?_, fun id => ?_⟩
  · rw [names_of_ne hn.1, ht]
    rfl
  · rw [names_of_ne hn.2, hrefund]
    rfl

/-- The notification is about a payment or a move, and its commit adds no booking and no
check-in. -/
theorem ReportsBookings.other
    (hn : n.templateCode ∉ ["booking_created", "booking_cancelled", "booking_checked_in"])
    (hbody : ∀ id, cancelsBooking id t = false)
    (hb : ∀ id, (s'.bookings.get? id).isSome = (s.bookings.get? id).isSome)
    (hk : s'.checkins = s.checkins) : ReportsBookings n t s s' := by
  simp only [List.mem_cons, List.not_mem_nil, or_false, not_or] at hn
  refine ⟨fun id => ?_, fun id => ?_, fun id => ?_⟩
  · rw [names_of_ne hn.1, hb]
    rfl
  · rw [names_of_ne hn.2.1, hbody]
  · rw [names_of_ne hn.2.2, hk]
    rfl

/-- **One commit.** -/
theorem InboxLog.commit (h : InboxLog l x.store) (ht : StandingOwner rt t x)
    (hcommit : Commits rt x t.request t.plan y) : InboxLog (t :: l) y.store := by
  have hkeep : KeepsOwners x.store y.store := hcommit.keepsOwners
  have hseen := ht.keepsOwners
  obtain ⟨⟨c, body⟩, seen, plan⟩ := t
  have hd : Drafted rt c seen.store body plan := ht.drafted
  have hstore : plan.commit rt (c.now (body.lastReading + 1)) x.store = .ok y.store :=
    hcommit.commit
  clear ht hcommit
  generalize c.now (body.lastReading + 1) = now at hstore
  cases hd with
  | hold =>
    have hs := Except.ok.inj hstore
    exact h.silent rfl (fun _ => rfl) (fun _ => rfl) (hs ▸ rfl) (hs ▸ rfl) (hs ▸ rfl) (hs ▸ rfl)
  | @booking payload d hd =>
    rw [← Except.ok.inj hstore] at hkeep ⊢
    have huser : d.slot.userId = c.user := by
      obtain ⟨start, stop, ctx, -, -, -, -, -, -, rfl⟩ := checkBooking_eq_ok.mp hd
      rfl
    refine h.append rfl rfl huser ⟨fun id => ?_, fun id => names_of_ne (by simp), fun id => ?_⟩
      (.other (by simp) (fun _ => rfl) rfl) hkeep ⟨fun id hid => ?_, by simp⟩
    -- The row and its creation come together, under the key that was drawn for it.
    · rw [commitBooking_bookings, isSome_insert,
        names_eq (k := rt.fresh x.store.bookings) rfl (by simp [BookingDraft.row])]
      rfl
    · rw [names_of_ne (by simp)]
      rfl
    · obtain rfl : id = rt.fresh x.store.bookings := by simpa [BookingDraft.row] using hid
      refine ⟨d.row (rt.fresh x.store.bookings), Store.bookingOf?_eq_some.mpr ⟨?_, rfl⟩⟩
      rw [commitBooking_bookings, get?_insert_booking]
      exact if_pos rfl
  | @move bookingId payload u hu =>
    rw [← Except.ok.inj hstore] at hkeep ⊢
    obtain ⟨b, _, _, _, hb, -, -, -, -, -, -, rfl⟩ := checkReschedule_eq_ok.mp hu
    obtain ⟨b', hb'⟩ := hseen.bookings hb
    exact h.append rfl rfl rfl (.other (by simp) (fun _ => rfl) isSome_updateBooking rfl)
      (.other (by simp) (fun _ => rfl) rfl) hkeep (hkeep.owned_update hb' rfl rfl)
  | @cancel bookingId u hu =>
    rw [← Except.ok.inj hstore] at hkeep ⊢
    obtain ⟨b, hb, hr⟩ := checkCancel_eq_ok.mp hu
    obtain ⟨b', hb'⟩ := hseen.bookings hb
    split at hr
    · cases hr
    · obtain rfl := Option.some.inj hr
      refine h.append rfl rfl rfl ⟨fun id => ?_, fun id => ?_, fun id => ?_⟩
        (.other (by simp) (fun _ => rfl) rfl) hkeep (hkeep.owned_update hb' rfl rfl)
      · rw [names_of_ne (by simp)]
        exact congrArg Bool.toNat (isSome_updateBooking id)
      · rw [names_eq (k := bookingId) rfl (by simp)]
        exact decide_eq_decide.mpr eq_comm
      · rw [names_of_ne (by simp)]
        rfl
  | @checkin bookingId payload d hd =>
    obtain ⟨hnew, hs⟩ := commitCheckin_eq_ok.mp hstore
    rw [← hs] at hkeep ⊢
    obtain ⟨b, haccepted, rfl⟩ := checkCheckin_eq_ok.mp hd
    obtain ⟨b', hb'⟩ := hseen.bookings haccepted.owned
    refine h.append rfl rfl rfl ⟨fun id => ?_, fun id => names_of_ne (by simp), fun id => ?_⟩
      (.other (by simp) (fun _ => rfl) rfl) hkeep (hkeep.owned_update hb' rfl rfl)
    · rw [names_of_ne (by simp)]
      exact congrArg Bool.toNat (isSome_updateBooking (s := x.store) id)
    · rw [names_eq (k := bookingId) rfl (by simp)]
      exact isSome_insert hnew id
  | @payment payload d hd =>
    rw [← Except.ok.inj hstore] at hkeep ⊢
    obtain ⟨b, hb, -, hid, huser, -, -⟩ := checkPayment_eq_ok hd
    obtain ⟨b', hb'⟩ := hseen.bookings hb
    refine h.append rfl rfl huser (.other (by simp) (fun _ => rfl)
      (isSome_updateBooking (s := x.store)) rfl) ⟨fun id => ?_, fun id => ?_⟩ hkeep
      ⟨fun id hmem => ?_, fun id hmem => ?_⟩
    · rw [commitPayment_transactions, isSome_insert,
        names_eq (k := rt.fresh x.store.transactions) rfl (by simp [PaymentDraft.row])]
      rfl
    · rw [names_of_ne (by simp)]
      rfl
    · obtain rfl : id = d.bookingId := by simpa using hmem
      rw [hid, huser]
      exact hkeep.bookings hb'
    · obtain rfl : id = rt.fresh x.store.transactions := by simpa [PaymentDraft.row] using hmem
      refine ⟨d.row (rt.fresh x.store.transactions), Store.transactionOf?_eq_some.mpr ⟨?_, rfl⟩⟩
      rw [commitPayment_transactions, Table.get?_insert]
      exact if_pos rfl
  | @refund paymentId payload d hd =>
    rw [← Except.ok.inj hstore] at hkeep ⊢
    obtain ⟨p, hp, -, -, -, rfl⟩ := checkRefund_eq_ok.mp hd
    obtain ⟨p', hp'⟩ := hseen.transactions hp
    refine h.append rfl rfl rfl (.other (by simp) (fun _ => rfl) (fun _ => rfl) rfl)
      ⟨fun id => ?_, fun id => ?_⟩ hkeep ⟨by simp, fun id hid => ?_⟩
    · rw [names_of_ne (by simp), commitRefund_transactions, Table.get?_modify, Option.isSome_map]
      rfl
    · rw [names_eq (k := paymentId) rfl (by simp), Draft.refundedTo]
      by_cases hid : id = paymentId
      · simp [hid, Notification.amountCents, List.lookup_cons]
      · simp [hid, Ne.symm hid]
    · obtain rfl : id = paymentId := by simpa using hid
      exact hkeep.transactions hp'

/-! ## §4 Interleavings -/

/-- **The inbox under concurrency.**  However the seven kinds of requests interleave, from a store
without bookings, payments and notifications: the inbox has one notification for each request that
has committed (none for a hold), in the order of the commits, for the user who made it.  Every
booking, check-in and payment that is stored is reported once; the cancellations reported of a
booking, and the refunds reported of a payment, are those that have committed; and what a
notification names belongs to the user who gets it. -/
theorem inbox_interleaved {ms : List RequestMove} (hempty : Unlogged x.store)
    (hrun : Run (requests rt).Step (.start x) ms k) : InboxLog k.committed k.shared.store := by
  refine (hrun.invariant (I := fun k =>
    (requests rt).AllStanding (fun x y => KeepsOwners x.store y.store) k ∧
      InboxLog k.committed k.shared.store) (fun a _ b ⟨ha, hlog⟩ hstep => ?_)
    ⟨Protocol.allStanding_start x, hempty.inboxLog⟩).2
  refine ⟨standingOwner_step ha hstep, ?_⟩
  cases hstep with
  | @read x y q l r p hread =>
    have hstore : y.store = x.store := hread.store
    show InboxLog l y.store
    rw [hstore]
    exact hlog
  | commit hcommit => exact hlog.commit ha.inFlight hcommit
  | abort => exact hlog

/-- A booking, its payment and two refunds of all of it: each is reported, both refunds too. -/
theorem inbox_interleaved_twice :
    twiceRefunded.shared.store.notifications.map (fun n => (n.userId, n.templateCode)) =
      [(7, "booking_created"), (7, "payment_captured"), (7, "payment_refunded"),
        (7, "payment_refunded")] ∧
    refundsReported twiceRefunded.shared.store.notifications 1 = 200 ∧
    InboxLog twiceRefunded.committed twiceRefunded.shared.store := by
  have hrun : Run (requests .plain).Step (.start ⟨0, smallStore⟩) (paidMoves ++ twiceMoved)
      twiceRefunded :=
    (paidMoves_run.append twiceMoved_run).mono fun _ _ _ hstep => hstep.2
  exact ⟨by decide, by decide, inbox_interleaved unlogged_smallStore hrun⟩

end Coworking
