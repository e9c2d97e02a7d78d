import Coworking.System.BookingRows
import Coworking.System.Ledger

/-!
# The Notification Inbox as an Event Log

Eight operations of three services add a notification to the transaction they commit, each under
its own template and with its own payload.  What the inbox says is compared with the tables of
bookings, check-ins and payments.

- `tally`, `refundsReported`: what a log says about an id;
- `BookingsLogged`, `PaymentsLogged`, `OwnersLogged`: the log agrees with the tables, for every id
  and not only for those in use;
- `InboxFaithful.effect`: every operation keeps all three;
- `inbox_faithful`: rows and notifications in every reached state.
-/

namespace Coworking

open Foundation

variable {rt : Runtime} {c : Call} {s s' : Store} {op : Op} {n : Notification}

/-! ## §1 Reading the log -/

/-- The notification has the template, and the id in the field of its payload. -/
def Notification.names (n : Notification) (templateCode field : String) (id : Uuid) : Bool :=
  n.templateCode = templateCode ∧ (field, PayloadValue.id id) ∈ n.payload

/-- How many notifications of a template name an id. -/
def tally (log : List Notification) (templateCode field : String) (id : Uuid) : Nat :=
  log.countP fun n => n.names templateCode field id

/-- The `amountCents` of a payload. -/
def Notification.amountCents (n : Notification) : Int :=
  match n.payload.lookup "amountCents" with
  | some (.cents amount) => amount
  | _ => 0

/-- The amounts of the refunds reported for a payment. -/
def refundsReported (log : List Notification) (id : Uuid) : Int :=
  ((log.filter fun n => n.names "payment_refunded" "transactionId" id).map (·.amountCents)).sum

theorem tally_append {log : List Notification} {templateCode field : String} {id : Uuid} :
    tally (log ++ [n]) templateCode field id =
      tally log templateCode field id + (n.names templateCode field id).toNat := by
  rw [tally, tally, List.countP_append, List.countP_singleton]
  cases n.names templateCode field id <;> rfl

theorem refundsReported_append {log : List Notification} {id : Uuid} :
    refundsReported (log ++ [n]) id = refundsReported log id +
      if n.names "payment_refunded" "transactionId" id then n.amountCents else 0 := by
  rw [refundsReported, refundsReported, List.filter_append, List.map_append, List.sum_append]
  cases h : n.names "payment_refunded" "transactionId" id <;> simp [h]

theorem names_of_ne {templateCode field : String} {id : Uuid} (h : n.templateCode ≠ templateCode) :
    n.names templateCode field id = false := by
  simp [Notification.names, h]

theorem names_eq {templateCode field : String} {id k : Uuid} (hcode : n.templateCode = templateCode)
    (hfield : (field, PayloadValue.id id) ∈ n.payload ↔ id = k) :
    n.names templateCode field id = decide (id = k) :=
  decide_eq_decide.mpr (by rw [hfield]; exact and_iff_right hcode)

/-! ## §2 Logs that agree with the tables -/

/-- Is there a cancelled booking with the id? -/
def Store.cancelled (s : Store) (id : Uuid) : Bool :=
  (s.bookings.get? id).any (·.status = .cancelled)

/-- Creations, cancellations and check-ins of bookings. -/
structure BookingsLogged (s : Store) : Prop where
  created : ∀ id, tally s.notifications "booking_created" "bookingId" id =
    (s.bookings.get? id).isSome.toNat
  cancelled : ∀ id, tally s.notifications "booking_cancelled" "bookingId" id =
    (s.cancelled id).toNat
  checkedIn : ∀ id, tally s.notifications "booking_checked_in" "bookingId" id =
    (s.checkins.get? id).isSome.toNat

/-- Captures and refunds of payments. -/
structure PaymentsLogged (s : Store) : Prop where
  captured : ∀ id, tally s.notifications "payment_captured" "transactionId" id =
    (s.transactions.get? id).isSome.toNat
  refunded : ∀ id, refundsReported s.notifications id =
    (s.transactions.get? id).elim 0 (·.refundedCents)

/-- The bookings and payments a notification names are those of the user who gets it. -/
structure Notification.Owned (n : Notification) (s : Store) : Prop where
  booking : ∀ id, ("bookingId", .id id) ∈ n.payload → ∃ b, s.bookingOf? id n.userId = some b
  payment : ∀ id, ("transactionId", .id id) ∈ n.payload → ∃ t, s.transactionOf? id n.userId = some t

structure InboxFaithful (s : Store) : Prop where
  bookings : BookingsLogged s
  payments : PaymentsLogged s
  owners : ∀ n ∈ s.notifications, n.Owned s

theorem InboxFaithful.of_eq (hs : InboxFaithful s) (hb : s'.bookings = s.bookings)
    (hk : s'.checkins = s.checkins) (ht : s'.transactions = s.transactions)
    (hn : s'.notifications = s.notifications) : InboxFaithful s' where
  bookings := by
    refine ⟨?_, ?_, ?_⟩ <;> simp only [Store.cancelled, hb, hk, hn]
    · exact hs.bookings.created
    · exact hs.bookings.cancelled
    · exact hs.bookings.checkedIn
  payments := by
    refine ⟨?_, ?_⟩ <;> simp only [ht, hn]
    · exact hs.payments.captured
    · exact hs.payments.refunded
  owners := by
    rw [hn]
    intro n hmem
    refine ⟨?_, ?_⟩ <;> simp only [Store.bookingOf?, Store.transactionOf?, hb, ht]
    · exact (hs.owners n hmem).booking
    · exact (hs.owners n hmem).payment

/-! ## §3 One more notification -/

/-- What a notification adds to each tally is what its call adds to the tables. -/
theorem BookingsLogged.append (hs : BookingsLogged s)
    (hlog : s'.notifications = s.notifications ++ [n])
    (hcreated : ∀ id, (s'.bookings.get? id).isSome.toNat = (s.bookings.get? id).isSome.toNat +
      (n.names "booking_created" "bookingId" id).toNat)
    (hcancelled : ∀ id, (s'.cancelled id).toNat = (s.cancelled id).toNat +
      (n.names "booking_cancelled" "bookingId" id).toNat)
    (hcheckedIn : ∀ id, (s'.checkins.get? id).isSome.toNat = (s.checkins.get? id).isSome.toNat +
      (n.names "booking_checked_in" "bookingId" id).toNat) : BookingsLogged s' where
  created := fun id => by rw [hlog, tally_append, hs.created, hcreated]
  cancelled := fun id => by rw [hlog, tally_append, hs.cancelled, hcancelled]
  checkedIn := fun id => by rw [hlog, tally_append, hs.checkedIn, hcheckedIn]

/-- The notification is not about bookings, or about none that the tables would tell apart. -/
theorem BookingsLogged.other (hs : BookingsLogged s)
    (hlog : s'.notifications = s.notifications ++ [n])
    (hn : n.templateCode ∉ ["booking_created", "booking_cancelled", "booking_checked_in"])
    (hsome : ∀ id, (s'.bookings.get? id).isSome = (s.bookings.get? id).isSome)
    (hcancelled : ∀ id, s'.cancelled id = s.cancelled id) (hk : s'.checkins = s.checkins) :
    BookingsLogged s' := by
  simp only [List.mem_cons, List.not_mem_nil, or_false, not_or] at hn
  obtain ⟨h₁, h₂, h₃⟩ := hn
  refine hs.append hlog (fun id => ?_) (fun id => ?_) fun id => ?_
  · rw [names_of_ne h₁, hsome]
    rfl
  · rw [names_of_ne h₂, hcancelled]
    rfl
  · rw [names_of_ne h₃, hk]
    rfl

theorem PaymentsLogged.append (hs : PaymentsLogged s)
    (hlog : s'.notifications = s.notifications ++ [n])
    (hcaptured : ∀ id, (s'.transactions.get? id).isSome.toNat =
      (s.transactions.get? id).isSome.toNat +
        (n.names "payment_captured" "transactionId" id).toNat)
    (hrefunded : ∀ id, (s'.transactions.get? id).elim 0 (·.refundedCents) =
      (s.transactions.get? id).elim 0 (·.refundedCents) +
        if n.names "payment_refunded" "transactionId" id then n.amountCents else 0) :
    PaymentsLogged s' where
  captured := fun id => by rw [hlog, tally_append, hs.captured, hcaptured]
  refunded := fun id => by rw [hlog, refundsReported_append, hs.refunded, hrefunded]

/-- The notification is not about payments. -/
theorem PaymentsLogged.other (hs : PaymentsLogged s)
    (hlog : s'.notifications = s.notifications ++ [n])
    (hn : n.templateCode ∉ ["payment_captured", "payment_refunded"])
    (ht : s'.transactions = s.transactions) : PaymentsLogged s' := by
  simp only [List.mem_cons, List.not_mem_nil, or_false, not_or] at hn
  obtain ⟨h₁, h₂⟩ := hn
  refine hs.append hlog (fun id => ?_) fun id => ?_
  · rw [names_of_ne h₁, ht]
    rfl
  · rw [names_of_ne h₂, ht, if_neg Bool.false_ne_true, add_zero]

/-- Every user keeps the bookings and payments they have. -/
structure KeepsOwners (s s' : Store) : Prop where
  bookings : ∀ {id user b}, s.bookingOf? id user = some b → ∃ b', s'.bookingOf? id user = some b'
  transactions : ∀ {id user t}, s.transactionOf? id user = some t →
    ∃ t', s'.transactionOf? id user = some t'

theorem Effect.keepsOwners (h : Effect rt c s op s') : KeepsOwners s s' :=
  ⟨h.recordChange.keeps_owner, h.transactionChange.keeps_owner⟩

/-- Notifications go on naming rows of their user. -/
theorem KeepsOwners.append (hkeep : KeepsOwners s s') (hs : ∀ n ∈ s.notifications, n.Owned s)
    (hlog : s'.notifications = s.notifications ++ [n]) (hn : n.Owned s') :
    ∀ n ∈ s'.notifications, n.Owned s' := by
  intro m hm
  rw [hlog, List.mem_append, List.mem_singleton] at hm
  rcases hm with hold | rfl
  · refine ⟨fun id hid => ?_, fun id hid => ?_⟩
    · obtain ⟨b, hget⟩ := (hs m hold).booking id hid
      exact hkeep.bookings hget
    · obtain ⟨t, hget⟩ := (hs m hold).payment id hid
      exact hkeep.transactions hget
  · exact hn

/-- The notification of an update names the booking that was loaded. -/
theorem KeepsOwners.owned_update {u : BookingUpdate} {b : Booking} (hkeep : KeepsOwners s s')
    (hb : s.bookingOf? u.bookingId u.userId = some b) (huser : n.userId = u.userId)
    (hpayload : n.payload = [("bookingId", .id u.bookingId)]) : n.Owned s' := by
  refine ⟨fun id hid => ?_, fun id hid => ?_⟩
  · rw [hpayload] at hid
    simp at hid
    rw [hid, huser]
    exact hkeep.bookings hb
  · rw [hpayload] at hid
    simp at hid

/-! ## §4 The tables after a write -/

theorem isSome_updateBooking {k : Uuid} {p : BookingPatch} (id : Uuid) :
    ((s.updateBooking k p).bookings.get? id).isSome = (s.bookings.get? id).isSome := by
  rw [get?_updateBooking, Option.isSome_map]

/-- An update that does not cancel. -/
theorem cancelled_updateBooking {k : Uuid} {p : BookingPatch}
    (hstatus : ∀ b, s.bookings.get? k = some b →
      ((p.apply b).status = .cancelled ↔ b.status = .cancelled)) (id : Uuid) :
    (s.updateBooking k p).cancelled id = s.cancelled id := by
  rw [Store.cancelled, Store.cancelled]
  by_cases hid : id = k
  · subst hid
    cases hget : s.bookings.get? id with
    | none => rw [get?_updateBooking, hget, Option.map_none]
    | some b =>
      rw [get?_updateBooking_self hget]
      exact decide_eq_decide.mpr (hstatus b hget)
  · rw [get?_updateBooking_of_ne hid]

/-- An update that does. -/
theorem cancelled_updateBooking_self {b : Booking} {p : BookingPatch} {k : Uuid}
    (hget : s.bookings.get? k = some b) (hbefore : b.status ≠ .cancelled)
    (hafter : (p.apply b).status = .cancelled) (id : Uuid) :
    ((s.updateBooking k p).cancelled id).toNat =
      (s.cancelled id).toNat + (decide (id = k)).toNat := by
  rw [Store.cancelled, Store.cancelled]
  by_cases hid : id = k
  · subst hid
    rw [get?_updateBooking_self hget, hget, Option.any_some, Option.any_some, hafter]
    simp [hbefore]
  · simp [get?_updateBooking_of_ne hid, hid]

theorem confirm_cancelled_iff (b : Booking) :
    (b.status.confirm.apply b).status = .cancelled ↔ b.status = .cancelled := by
  rw [BookingPatch.apply_status]
  cases b.status <;> simp [BookingStatus.confirm]

/-- An insert under a new key adds one row. -/
theorem isSome_insert {ρ : Type} [Keyed ρ Uuid] {t : Table ρ} {r : ρ} (hnew : Keyed.key r ∉ t.keys)
    (id : Uuid) : ((t.insert r hnew).get? id).isSome.toNat =
      (t.get? id).isSome.toNat + (decide (id = Keyed.key r)).toNat := by
  rw [Table.get?_insert]
  by_cases hid : Keyed.key r = id
  · subst hid
    simp [Table.get?_eq_none.mpr hnew]
  · simp [hid, Ne.symm hid]

/-! ## §5 One call -/

/-- A new booking, which is not cancelled. -/
theorem InboxFaithful.bookingCreated {now : Instant} {d : BookingDraft} (hs : InboxFaithful s)
    (hstatus : d.status ≠ .cancelled) (hkeep : KeepsOwners s (commitBooking rt now s d).1) :
    InboxFaithful (commitBooking rt now s d).1 := by
  refine ⟨hs.bookings.append rfl (fun id => ?_) (fun id => ?_) fun id => ?_,
    hs.payments.other rfl (by simp) rfl, hkeep.append hs.owners rfl ⟨fun id hid => ?_, by simp⟩⟩
  -- The row and its creation come together; the row is not cancelled, and not checked in.
  · rw [commitBooking_bookings, isSome_insert,
      names_eq (k := rt.fresh s.bookings) rfl (by simp [BookingDraft.row])]
    rfl
  · rw [names_of_ne (by simp), Store.cancelled, Store.cancelled, commitBooking_bookings,
      get?_insert_booking]
    by_cases hid : id = rt.fresh s.bookings
    · rw [if_pos hid, hid, rt.get?_fresh]
      simp [BookingDraft.row, hstatus]
    · rw [if_neg hid]
      rfl
  · rw [names_of_ne (by simp)]
    rfl
  · obtain rfl : id = rt.fresh s.bookings := by simpa [BookingDraft.row] using hid
    refine ⟨d.row (rt.fresh s.bookings), Store.bookingOf?_eq_some.mpr ⟨?_, rfl⟩⟩
    rw [commitBooking_bookings, get?_insert_booking]
    exact if_pos rfl

/-- A move, of a booking that is not cancelled before or after. -/
theorem InboxFaithful.rescheduled {now : Instant} {u : BookingUpdate} {b : Booking}
    (hs : InboxFaithful s) (hb : s.bookingOf? u.bookingId u.userId = some b)
    (hcode : u.templateCode = "booking_rescheduled") (hbefore : b.status ≠ .cancelled)
    (hafter : (u.patch.apply b).status ≠ .cancelled)
    (hkeep : KeepsOwners s (commitBookingUpdate now s u)) :
    InboxFaithful (commitBookingUpdate now s u) := by
  obtain ⟨hget, -⟩ := Store.bookingOf?_eq_some.mp hb
  refine ⟨hs.bookings.other rfl (by simp [hcode]) isSome_updateBooking
    (cancelled_updateBooking fun b' hget' => ?_) rfl, hs.payments.other rfl (by simp [hcode]) rfl,
    hkeep.append hs.owners rfl (hkeep.owned_update hb rfl rfl)⟩
  obtain rfl : b = b' := Option.mem_unique hget hget'
  exact iff_of_false hafter hbefore

/-- A cancellation, of a booking that was not cancelled. -/
theorem InboxFaithful.cancelled {now : Instant} {u : BookingUpdate} {b : Booking}
    (hs : InboxFaithful s) (hb : s.bookingOf? u.bookingId u.userId = some b)
    (hcode : u.templateCode = "booking_cancelled") (hbefore : b.status ≠ .cancelled)
    (hafter : (u.patch.apply b).status = .cancelled)
    (hkeep : KeepsOwners s (commitBookingUpdate now s u)) :
    InboxFaithful (commitBookingUpdate now s u) := by
  obtain ⟨hget, -⟩ := Store.bookingOf?_eq_some.mp hb
  refine ⟨hs.bookings.append rfl (fun id => ?_) (fun id => ?_) fun id => ?_,
    hs.payments.other rfl (by simp [hcode]) rfl,
    hkeep.append hs.owners rfl (hkeep.owned_update hb rfl rfl)⟩
  · rw [names_of_ne (by simp [hcode])]
    exact congrArg Bool.toNat (isSome_updateBooking id)
  · rw [names_eq (k := u.bookingId) hcode (by simp)]
    exact cancelled_updateBooking_self hget hbefore hafter id
  · rw [names_of_ne (by simp [hcode])]
    rfl

/-- A check-in, of a booking that is not cancelled. -/
theorem InboxFaithful.checkedIn {now : Instant} {d : CheckinDraft} {b : Booking}
    (hs : InboxFaithful s) (hnew : Keyed.key d.checkin ∉ s.checkins.keys)
    (hb : s.bookingOf? d.update.bookingId d.update.userId = some b)
    (hid : d.checkin.bookingId = d.update.bookingId)
    (hcode : d.update.templateCode = "booking_checked_in") (hbefore : b.status ≠ .cancelled)
    (hafter : (d.update.patch.apply b).status ≠ .cancelled)
    (hkeep : KeepsOwners s (commitBookingUpdate now
      { s with checkins := s.checkins.insert d.checkin hnew } d.update)) :
    InboxFaithful (commitBookingUpdate now
      { s with checkins := s.checkins.insert d.checkin hnew } d.update) := by
  obtain ⟨hget, -⟩ := Store.bookingOf?_eq_some.mp hb
  refine ⟨hs.bookings.append rfl (fun id => ?_) (fun id => ?_) fun id => ?_,
    hs.payments.other rfl (by simp [hcode]) rfl,
    hkeep.append hs.owners rfl (hkeep.owned_update hb rfl rfl)⟩
  · rw [names_of_ne (by simp [hcode])]
    exact congrArg Bool.toNat (isSome_updateBooking (s := s) id)
  · rw [names_of_ne (by simp [hcode])]
    refine congrArg Bool.toNat (cancelled_updateBooking (s := s) (fun b' hget' => ?_) id)
    obtain rfl : b = b' := Option.mem_unique hget hget'
    exact iff_of_false hafter hbefore
  · rw [names_eq (k := d.checkin.bookingId) hcode (by simp [hid])]
    exact isSome_insert hnew id

/-- A payment, which at most confirms its booking. -/
theorem InboxFaithful.paid {now : Instant} {d : PaymentDraft} {b : Booking} (hs : InboxFaithful s)
    (hb : s.bookingOf? d.bookingId d.userId = some b) (hpatch : d.patch = b.status.confirm)
    (hkeep : KeepsOwners s (commitPayment rt now s d).1) :
    InboxFaithful (commitPayment rt now s d).1 := by
  obtain ⟨hget, -⟩ := Store.bookingOf?_eq_some.mp hb
  refine ⟨hs.bookings.other rfl (by simp) (isSome_updateBooking (s := s))
    (cancelled_updateBooking (s := s) fun b' hget' => ?_) rfl,
    hs.payments.append rfl (fun id => ?_) fun id => ?_,
    hkeep.append hs.owners rfl ⟨fun id hid => ?_, fun id hid => ?_⟩⟩
  · obtain rfl : b = b' := Option.mem_unique hget hget'
    rw [hpatch]
    exact confirm_cancelled_iff b
  · rw [commitPayment_transactions, isSome_insert,
      names_eq (k := rt.fresh s.transactions) rfl (by simp [PaymentDraft.row])]
    rfl
  · rw [commitPayment_transactions, names_of_ne (by simp), if_neg Bool.false_ne_true, add_zero,
      Table.get?_insert]
    -- Nothing is refunded of a new payment, and nothing was under its key.
    split
    next hkey =>
      have hfresh : s.transactions.get? (Keyed.key (d.row (rt.fresh s.transactions))) = none :=
        rt.get?_fresh s.transactions
      rw [← hkey, hfresh]
      rfl
    · rfl
  · obtain rfl : id = d.bookingId := by simpa using hid
    exact hkeep.bookings hb
  · obtain rfl : id = rt.fresh s.transactions := by simpa [PaymentDraft.row] using hid
    refine ⟨d.row (rt.fresh s.transactions), Store.transactionOf?_eq_some.mpr ⟨?_, rfl⟩⟩
    rw [commitPayment_transactions, Table.get?_insert]
    exact if_pos rfl

/-- A refund, whose total is computed from the payment that was loaded. -/
theorem InboxFaithful.refunded {now : Instant} {d : RefundDraft} {t : Transaction}
    (hs : InboxFaithful s) (ht : s.transactionOf? d.transactionId d.userId = some t)
    (htotal : d.refundedCents = t.refundedCents + d.amount)
    (hkeep : KeepsOwners s (commitRefund now s d)) : InboxFaithful (commitRefund now s d) := by
  obtain ⟨hget, -⟩ := Store.transactionOf?_eq_some.mp ht
  refine ⟨hs.bookings.other rfl (by simp) (fun _ => rfl) (fun _ => rfl) rfl,
    hs.payments.append rfl (fun id => ?_) fun id => ?_,
    hkeep.append hs.owners rfl ⟨by simp, fun id hid => ?_⟩⟩
  · rw [names_of_ne (by simp), commitRefund_transactions, Table.get?_modify, Option.isSome_map]
    rfl
  · rw [names_eq (k := d.transactionId) rfl (by simp), commitRefund_transactions, Table.get?_modify]
    -- The total of the payment grows by the amount in the payload.
    by_cases hid : id = d.transactionId
    · simp [hid, hget, htotal, Notification.amountCents, List.lookup_cons]
    · simp [hid]
  · obtain rfl : id = d.transactionId := by simpa using hid
    exact hkeep.transactions ht

/-- **One call.**  Where every payment is captured or refunded, every operation keeps the log in
agreement with the tables. -/
theorem InboxFaithful.effect (hs : InboxFaithful s)
    (hsettled : ∀ t ∈ s.transactions, t.status = .captured ∨ t.status = .refunded)
    (heffect : Effect rt c s op s') : InboxFaithful s' := by
  have hkeep := heffect.keepsOwners
  have hopen : ∀ needsPayment, initialStatus needsPayment ≠ .cancelled := by decide
  cases heffect with
  | holdCreated _ => exact hs.of_eq rfl rfl rfl rfl
  | holdCancelled _ _ => exact hs.of_eq rfl rfl rfl rfl
  | bookingCreated _ hd =>
    obtain ⟨start, stop, ctx, -, -, -, -, -, -, rfl⟩ := checkBooking_eq_ok.mp hd
    exact hs.bookingCreated (hopen _) hkeep
  | rescheduled hu =>
    -- Only PENDING and CONFIRMED bookings are moved, and they stay one of the two.
    obtain ⟨b, _, _, ctx, hb, hstatus, -, -, -, -, -, rfl⟩ := checkReschedule_eq_ok.mp hu
    refine hs.rescheduled hb rfl ?_ ?_ hkeep
    · rcases hstatus with hs | hs <;> rw [hs] <;> nofun
    · rw [BookingPatch.apply_status, dirty_getD]
      exact hopen _
  | cancelled hu =>
    obtain ⟨b, hb, hr⟩ := checkCancel_eq_ok.mp hu
    -- A cancelled booking is answered as it is.
    by_cases hstatus : b.status = .cancelled
    · rw [if_pos hstatus] at hr
      cases hr
    · rw [if_neg hstatus, Option.some.injEq] at hr
      subst hr
      exact hs.cancelled hb rfl hstatus (by simp) hkeep
  | checkedIn hnew hd =>
    obtain ⟨b, haccepted, rfl⟩ := checkCheckin_eq_ok.mp hd
    exact hs.checkedIn hnew haccepted.owned rfl rfl haccepted.notCancelled nofun hkeep
  | paid hd =>
    obtain ⟨b, hb, -, hid, huser, -, hpatch⟩ := checkPayment_eq_ok hd
    rw [← hid, ← huser] at hb
    exact hs.paid hb hpatch hkeep
  | captured ht hcaptured hrefunded _ =>
    -- Nothing is left to capture.
    obtain ⟨hget, -⟩ := Store.transactionOf?_eq_some.mp ht
    exact ((hsettled _ (Table.mem_of_get? hget)).elim hcaptured hrefunded).elim
  | refunded hd =>
    obtain ⟨t, ht, -, -, -, rfl⟩ := checkRefund_eq_ok.mp hd
    exact hs.refunded ht rfl hkeep
  | unchanged => exact hs
  | elsewhere hsame _ =>
    exact hs.of_eq hsame.bookings hsame.checkins hsame.transactions hsame.notifications

/-! ## §6 Runs -/

/-- A store without bookings, payments and notifications.  A check-in refers to a booking, so
there is none either. -/
structure Unlogged (s : Store) : Prop where
  bookings : ∀ b, b ∉ s.bookings
  transactions : ∀ t, t ∉ s.transactions
  notifications : s.notifications = []
  refer : CheckinsRefer s

theorem Unlogged.faithful (h : Unlogged s) : InboxFaithful s := by
  have hbookings : ∀ id, s.bookings.get? id = none := fun id =>
    Option.eq_none_iff_forall_not_mem.mpr fun b hb => h.bookings b (Table.mem_of_get? hb)
  have htransactions : ∀ id, s.transactions.get? id = none := fun id =>
    Option.eq_none_iff_forall_not_mem.mpr fun t ht => h.transactions t (Table.mem_of_get? ht)
  have hcheckins : ∀ id, s.checkins.get? id = none := fun id =>
    Table.get?_eq_none.mpr fun hmem =>
      absurd (h.refer id hmem) (Table.get?_eq_none.mp (hbookings id))
  refine ⟨⟨?_, ?_, ?_⟩, ⟨?_, ?_⟩, ?_⟩
  · simp [h.notifications, hbookings, tally]
  · simp [h.notifications, hbookings, tally, Store.cancelled]
  · simp [h.notifications, hcheckins, tally]
  · simp [h.notifications, htransactions, tally]
  · simp [h.notifications, htransactions, refundsReported]
  · simp [h.notifications]

variable {x y : State} {es : List Event}

/-- Along a run from a store without payments, every payment is captured or refunded. -/
theorem settled_run (hempty : ∀ t, t ∉ x.store.transactions) (hrun : Run (SerialStep rt) x es y) :
    ∀ t ∈ y.store.transactions, t.status = .captured ∨ t.status = .refunded :=
  fun t ht =>
    ((ledgerBalanced_run hempty hrun).rows t.id t (Table.get?_of_mem ht)).captured_or_refunded

/-- **A run** keeps the log in agreement with the tables. -/
theorem inboxFaithful_run (hempty : Unlogged x.store) (hrun : Run (SerialStep rt) x es y) :
    InboxFaithful y.store := by
  refine hrun.history (I := fun _ y => InboxFaithful y.store) ?_ hempty.faithful
  intro es z e w hprefix hz hstep
  exact hz.effect (settled_run hempty.transactions hprefix) hstep.effect

/-- The notifications about a booking. -/
structure Booking.Logged (b : Booking) (s : Store) : Prop where
  created : tally s.notifications "booking_created" "bookingId" b.id = 1
  cancelled : tally s.notifications "booking_cancelled" "bookingId" b.id =
    if b.status = .cancelled then 1 else 0
  checkedIn : tally s.notifications "booking_checked_in" "bookingId" b.id =
    s.checkins.rows.countP fun k => k.bookingId = b.id

/-- The notifications about a payment. -/
structure Transaction.Logged (t : Transaction) (s : Store) : Prop where
  captured : tally s.notifications "payment_captured" "transactionId" t.id = 1
  refunded : refundsReported s.notifications t.id = t.refundedCents

theorem InboxFaithful.booking (h : InboxFaithful s) {b : Booking} (hb : b ∈ s.bookings) :
    b.Logged s := by
  have hget : s.bookings.get? b.id = some b := Table.get?_of_mem hb
  refine ⟨?_, ?_, ?_⟩
  · rw [h.bookings.created, hget]
    rfl
  · rw [h.bookings.cancelled, Store.cancelled, hget, Option.any_some]
    by_cases hstatus : b.status = .cancelled <;> simp [hstatus]
  · rw [h.bookings.checkedIn]
    exact (s.checkins.countP_key b.id).symm

theorem InboxFaithful.payment (h : InboxFaithful s) {t : Transaction} (ht : t ∈ s.transactions) :
    t.Logged s := by
  have hget : s.transactions.get? t.id = some t := Table.get?_of_mem ht
  refine ⟨?_, ?_⟩
  · rw [h.payments.captured, hget]
    rfl
  · rw [h.payments.refunded, hget]
    rfl

/-- The calls that do nothing: those that fail, a second cancellation, a second capture. -/
structure QuietCalls (rt : Runtime) (s : Store) : Prop where
  failed : ∀ e : Event, ¬ Returns (exec rt e.call s e.op) → step rt s e = s
  cancelledTwice : ∀ c, ∀ b ∈ s.bookings, b.status = .cancelled →
    step rt s ⟨c, .cancelBooking b.id⟩ = s
  capturedTwice : ∀ c paymentId, step rt s ⟨c, .capturePayment paymentId⟩ = s

/-- A call that changes nothing where it succeeds changes nothing. -/
theorem step_eq_self {e : Event} (h : ∀ s', exec rt e.call s e.op = .ok s' → s' = s) :
    step rt s e = s := by
  cases hexec : exec rt e.call s e.op with
  | ok s' => exact (step_of_ok hexec).trans (h s' hexec)
  | error err => simp [step, hexec]

theorem quietCalls_of_settled
    (hsettled : ∀ t ∈ s.transactions, t.status = .captured ∨ t.status = .refunded) :
    QuietCalls rt s where
  failed := fun e he => step_eq_self fun s' hs' => (he ⟨s', hs'⟩).elim
  cancelledTwice := fun c b hb hstatus => step_eq_self fun s' hs' => by
    obtain ⟨r, hr, rfl⟩ := cancelBooking_eq_ok.mp hs'
    obtain ⟨b', hb', rfl⟩ := checkCancel_eq_ok.mp hr
    obtain ⟨hget, -⟩ := Store.bookingOf?_eq_some.mp hb'
    obtain rfl : b = b' := Option.some.inj ((Table.get?_of_mem hb).symm.trans hget)
    rw [if_pos hstatus]
  capturedTwice := fun c paymentId => step_eq_self fun s' hs' => by
    obtain ⟨r, hr, rfl⟩ := (map_eq_ok _ _ _).mp hs'
    obtain ⟨t, ht⟩ := transactionOf?_of_capturePayment hr
    obtain ⟨hget, -⟩ := Store.transactionOf?_eq_some.mp ht
    rw [capturePayment_of_captured ht (hsettled t (Table.mem_of_get? hget)) hr]

/-- **The inbox is a faithful event log.**  In every state that a run reaches from a store without
bookings, payments and notifications: each booking has one notification of its creation, one of
its cancellation if it is cancelled and none otherwise, and as many of check-ins as it has
check-ins; each payment has one of its capture, and the refunds reported for it add up to what is
refunded of it; what a notification names is its user's; and calls that fail or have nothing to
do add none. -/
theorem inbox_faithful (hempty : Unlogged x.store) (hrun : Run (SerialStep rt) x es y) :
    (∀ b ∈ y.store.bookings, b.Logged y.store) ∧
      (∀ t ∈ y.store.transactions, t.Logged y.store) ∧
      (∀ n ∈ y.store.notifications, n.Owned y.store) ∧ QuietCalls rt y.store :=
  have h := inboxFaithful_run hempty hrun
  ⟨fun _ => h.booking, fun _ => h.payment, h.owners,
    quietCalls_of_settled (settled_run hempty.transactions hrun)⟩

theorem unlogged_smallStore : Unlogged smallStore where
  bookings := fun _ => (Table.mem_empty _).mp
  transactions := fun _ => (Table.mem_empty _).mp
  notifications := rfl
  refer := nofun

/-- A booking, a payment and two refunds, with the two amounts in the log. -/
theorem inbox_faithful_smallPayments :
    (∀ b ∈ (replay .plain smallStore smallPayments).bookings,
      b.Logged (replay .plain smallStore smallPayments)) ∧
    (∀ t ∈ (replay .plain smallStore smallPayments).transactions,
      t.Logged (replay .plain smallStore smallPayments)) ∧
    ((replay .plain smallStore smallPayments).notifications.map
      fun n => (n.templateCode, n.amountCents)) =
      [("booking_created", 0), ("payment_captured", 0), ("payment_refunded", 30),
        ("payment_refunded", 70)] := by
  obtain ⟨hbookings, hpayments, -, -⟩ := inbox_faithful unlogged_smallStore smallPayments_run
  exact ⟨hbookings, hpayments, by decide +kernel⟩

end Coworking
