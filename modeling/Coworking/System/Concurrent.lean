import Coworking.Foundation.Interleaving
import Coworking.System.Records

/-!
# Concurrent Requests

The requests that read rows, decide, and write them back, run against each other.  A session
takes no row lock, no row carries a version, and READ COMMITTED lets a statement overwrite
what another session has committed since; so a request is a read of the committed store and,
any time later, a write of the values it computed.

- `Draft`: what a request is about to write;
- `requests`: the protocol, assembled from the `check…` and `commit…` halves of the services;
- `Draft.get?_bookings`, `Draft.get?_transactions`: what a commit does to one row;
- `Extends`, `standing_step`: what stays true of the rows a request has read;
- `SerialStep.run_request`: a serial call is a request that nobody interrupts.
-/

namespace Coworking

open Foundation

/-! ## §1 Requests -/

inductive RequestBody
  | createHold (payload : HoldCreateRequest)
  | createBooking (payload : BookingCreateRequest)
  | rescheduleBooking (bookingId : Uuid) (payload : BookingWindowUpdateRequest)
  | cancelBooking (bookingId : Uuid)
  | createCheckin (bookingId : Uuid) (payload : CheckinRequest)
  | createPayment (payload : PaymentCreateRequest)
  | refundPayment (paymentId : Uuid) (payload : PaymentRefundRequest)

structure Request where
  call : Call
  body : RequestBody

/-- The same request as a serial operation. -/
def RequestBody.op : RequestBody → Op
  | .createHold payload => .createHold payload
  | .createBooking payload => .createBooking payload
  | .rescheduleBooking bookingId payload => .rescheduleBooking bookingId payload
  | .cancelBooking bookingId => .cancelBooking bookingId
  | .createCheckin bookingId payload => .createCheckin bookingId payload
  | .createPayment payload => .createPayment payload
  | .refundPayment paymentId payload => .refundPayment paymentId payload

/-- The last reading of the clock before the first write. -/
def RequestBody.lastReading : RequestBody → Nat
  | .createHold _ => 1
  | .createBooking _ | .rescheduleBooking _ _ => 2
  | .cancelBooking _ | .createCheckin _ _ | .createPayment _ | .refundPayment _ _ => 0

/-- What a request is about to write. -/
inductive Draft
  | hold (d : HoldDraft)
  | booking (d : BookingDraft)
  | update (u : BookingUpdate)
  | checkin (d : CheckinDraft)
  | payment (d : PaymentDraft)
  | refund (d : RefundDraft)

/-- The reading half of a request; a second cancellation has nothing to write. -/
def RequestBody.check (rt : Runtime) (c : Call) (s : Store) :
    RequestBody → Except ServiceError (Option Draft)
  | .createHold payload => (fun d => some (.hold d)) <$> checkHold rt c s payload
  | .createBooking payload => (fun d => some (.booking d)) <$> checkBooking rt c s payload
  | .rescheduleBooking bookingId payload =>
    (fun u => some (.update u)) <$> checkReschedule rt c s bookingId payload
  | .cancelBooking bookingId => Option.map .update <$> checkCancel c s bookingId
  | .createCheckin bookingId payload =>
    (fun d => some (.checkin d)) <$> checkCheckin c s bookingId payload
  | .createPayment payload => (fun d => some (.payment d)) <$> checkPayment rt c s payload
  | .refundPayment paymentId payload =>
    (fun d => some (.refund d)) <$> checkRefund c s paymentId payload

/-- The writing half of a request. -/
def Draft.commit (rt : Runtime) (now : Instant) (s : Store) : Draft → Except ServiceError Store
  | .hold d => .ok (commitHold rt s d).1
  | .booking d => .ok (commitBooking rt now s d).1
  | .update u => .ok (commitBookingUpdate now s u)
  | .checkin d => commitCheckin now s d
  | .payment d => .ok (commitPayment rt now s d).1
  | .refund d => .ok (commitRefund now s d)

/-- A request has read `x` and computed `d`; its readings of the clock lie between `x` and `y`. -/
structure Reads (rt : Runtime) (x : State) (r : Request) (d : Draft) (y : State) : Prop where
  starts : x.now ≤ r.call.now 0
  ends : r.call.now r.body.lastReading ≤ y.now
  check : r.body.check rt r.call x.store = .ok (some d)
  store : y.store = x.store

/-- A request writes what it has computed to the store as it is now. -/
structure Commits (rt : Runtime) (x : State) (r : Request) (d : Draft) (y : State) : Prop where
  starts : x.now ≤ r.call.now (r.body.lastReading + 1)
  ends : r.call.now (r.body.lastReading + 1) ≤ y.now
  commit : d.commit rt (r.call.now (r.body.lastReading + 1)) x.store = .ok y.store

/-- The protocol of the service requests. -/
def requests (rt : Runtime) : Protocol State Request Draft := ⟨Reads rt, Commits rt⟩

abbrev RequestTicket := Ticket State Request Draft

abbrev RequestConfig := Config State Request Draft

abbrev RequestMove := Move State Request Draft

variable {rt : Runtime} {c : Call} {s s' : Store} {now : Instant} {x y : State} {id : Uuid}

/-! ## §2 What a request reads and writes -/

/-- The drafts a request can end up with, one constructor for each kind. -/
inductive Drafted (rt : Runtime) (c : Call) (s : Store) : RequestBody → Draft → Prop
  | hold {payload : HoldCreateRequest} {d : HoldDraft} :
      checkHold rt c s payload = .ok d → Drafted rt c s (.createHold payload) (.hold d)
  | booking {payload : BookingCreateRequest} {d : BookingDraft} :
      checkBooking rt c s payload = .ok d → Drafted rt c s (.createBooking payload) (.booking d)
  | move {bookingId : Uuid} {payload : BookingWindowUpdateRequest} {u : BookingUpdate} :
      checkReschedule rt c s bookingId payload = .ok u →
      Drafted rt c s (.rescheduleBooking bookingId payload) (.update u)
  | cancel {bookingId : Uuid} {u : BookingUpdate} :
      checkCancel c s bookingId = .ok (some u) →
      Drafted rt c s (.cancelBooking bookingId) (.update u)
  | checkin {bookingId : Uuid} {payload : CheckinRequest} {d : CheckinDraft} :
      checkCheckin c s bookingId payload = .ok d →
      Drafted rt c s (.createCheckin bookingId payload) (.checkin d)
  | payment {payload : PaymentCreateRequest} {d : PaymentDraft} :
      checkPayment rt c s payload = .ok d → Drafted rt c s (.createPayment payload) (.payment d)
  | refund {paymentId : Uuid} {payload : PaymentRefundRequest} {d : RefundDraft} :
      checkRefund c s paymentId payload = .ok d →
      Drafted rt c s (.refundPayment paymentId payload) (.refund d)

/-- **Inversion of a read.** -/
theorem check_eq_ok {body : RequestBody} {d : Draft} :
    body.check rt c s = .ok (some d) ↔ Drafted rt c s body d := by
  constructor
  · intro h
    cases body with
    | createHold payload =>
      obtain ⟨d, hd, ⟨⟩⟩ := (map_eq_ok _ _ _).mp h
      exact .hold hd
    | createBooking payload =>
      obtain ⟨d, hd, ⟨⟩⟩ := (map_eq_ok _ _ _).mp h
      exact .booking hd
    | rescheduleBooking bookingId payload =>
      obtain ⟨u, hu, ⟨⟩⟩ := (map_eq_ok _ _ _).mp h
      exact .move hu
    | cancelBooking bookingId =>
      obtain ⟨r, hr, hmap⟩ := (map_eq_ok _ _ _).mp h
      obtain ⟨u, rfl, rfl⟩ := Option.map_eq_some_iff.mp hmap
      exact .cancel hr
    | createCheckin bookingId payload =>
      obtain ⟨d, hd, ⟨⟩⟩ := (map_eq_ok _ _ _).mp h
      exact .checkin hd
    | createPayment payload =>
      obtain ⟨d, hd, ⟨⟩⟩ := (map_eq_ok _ _ _).mp h
      exact .payment hd
    | refundPayment paymentId payload =>
      obtain ⟨d, hd, ⟨⟩⟩ := (map_eq_ok _ _ _).mp h
      exact .refund hd
  · intro h
    -- Only a cancellation can have read that there is nothing to write.
    cases h with
    | cancel hu => exact (map_eq_ok _ _ _).mpr ⟨_, hu, rfl⟩
    | _ h => exact (map_eq_ok _ _ _).mpr ⟨_, h, rfl⟩

theorem Reads.drafted {r : Request} {d : Draft} (h : Reads rt x r d y) :
    Drafted rt r.call x.store r.body d := check_eq_ok.mp h.check

theorem Reads.now_le {r : Request} {d : Draft} (h : Reads rt x r d y) : x.now ≤ y.now :=
  (h.starts.trans (r.call.now_mono (Nat.zero_le _))).trans h.ends

theorem Commits.now_le {r : Request} {d : Draft} (h : Commits rt x r d y) : x.now ≤ y.now :=
  h.starts.trans h.ends

/-- The columns a draft writes to a booking that exists. -/
def Draft.patchOf (id : Uuid) : Draft → BookingPatch
  | .update u => if u.bookingId = id then u.patch else {}
  | .checkin d => if d.update.bookingId = id then d.update.patch else {}
  | .payment d => if d.bookingId = id then d.patch else {}
  | .hold _ | .booking _ | .refund _ => {}

/-- What a draft makes of a payment that exists. -/
def Draft.refundOf (id : Uuid) (t : Transaction) : Draft → Transaction
  | .refund d => if d.transactionId = id then d.apply t else t
  | _ => t

@[simp] theorem BookingPatch.apply_empty (b : Booking) : BookingPatch.apply {} b = b := by
  simp [BookingPatch.apply]

private theorem get?_updateBooking_of_some {b : Booking} {k : Uuid} {p : BookingPatch}
    (hget : s.bookings.get? id = some b) :
    (s.updateBooking k p).bookings.get? id =
      some ((if k = id then p else {}).apply b) := by
  rw [get?_updateBooking, hget, Option.map_some]
  by_cases hk : k = id
  · rw [if_pos hk, if_pos hk.symm]
  · rw [if_neg hk, if_neg (Ne.symm hk), BookingPatch.apply_empty]

/-- **One booking after a commit.**  The loaded values of the row the draft was computed from
play no role: its columns go over the row that is there now. -/
theorem Draft.get?_bookings {d : Draft} {b : Booking} (h : d.commit rt now s = .ok s')
    (hget : s.bookings.get? id = some b) :
    s'.bookings.get? id = some ((d.patchOf id).apply b) := by
  cases d with
  | hold d =>
    cases h
    rw [Draft.patchOf, BookingPatch.apply_empty]
    exact hget
  | booking d =>
    cases h
    rw [Draft.patchOf, BookingPatch.apply_empty]
    exact Table.get?_insert_of_some (d.row_fresh rt s.bookings) hget
  | update u =>
    cases h
    exact get?_updateBooking_of_some hget
  | checkin d =>
    obtain ⟨_, rfl⟩ := commitCheckin_eq_ok.mp h
    exact get?_updateBooking_of_some hget
  | payment d =>
    cases h
    exact get?_updateBooking_of_some hget
  | refund d =>
    cases h
    rw [Draft.patchOf, BookingPatch.apply_empty]
    exact hget

/-- **One payment after a commit.** -/
theorem Draft.get?_transactions {d : Draft} {t : Transaction} (h : d.commit rt now s = .ok s')
    (hget : s.transactions.get? id = some t) :
    s'.transactions.get? id = some (d.refundOf id t) := by
  cases d with
  | checkin d =>
    obtain ⟨_, rfl⟩ := commitCheckin_eq_ok.mp h
    exact hget
  | payment d =>
    cases h
    exact Table.get?_insert_of_some (d.row_fresh rt s.transactions) hget
  | refund d =>
    cases h
    rw [commitRefund_transactions, Table.get?_modify, hget, Option.map_some, Draft.refundOf]
    by_cases hk : d.transactionId = id
    · rw [if_pos hk, if_pos hk.symm]
    · rw [if_neg hk, if_neg (Ne.symm hk)]
  | hold d => cases h; exact hget
  | booking d => cases h; exact hget
  | update u => cases h; exact hget

/-! ## §3 What lasts from a read to the present -/

/-- The tree of spaces, its hours and its rules are the same. -/
structure SameTree (s s' : Store) : Prop where
  venues : s'.venues = s.venues
  rooms : s'.rooms = s.rooms
  seats : s'.seats = s.seats
  roomHours : s'.roomHours = s.roomHours
  bookingRules : s'.bookingRules = s.bookingRules

theorem SameTree.refl (s : Store) : SameTree s s := ⟨rfl, rfl, rfl, rfl, rfl⟩

theorem SameTree.trans {s t u : Store} (h₁ : SameTree s t) (h₂ : SameTree t u) : SameTree s u :=
  ⟨h₂.venues.trans h₁.venues, h₂.rooms.trans h₁.rooms, h₂.seats.trans h₁.seats,
    h₂.roomHours.trans h₁.roomHours, h₂.bookingRules.trans h₁.bookingRules⟩

theorem SameTree.grows (h : SameTree s s') : Grows s s' :=
  .of_eq h.venues h.rooms h.seats h.roomHours h.bookingRules

theorem Draft.commit_sameTree {d : Draft} (h : d.commit rt now s = .ok s') : SameTree s s' := by
  cases d with
  | checkin d =>
    obtain ⟨_, rfl⟩ := commitCheckin_eq_ok.mp h
    exact ⟨rfl, rfl, rfl, rfl, rfl⟩
  | _ =>
    cases h
    exact ⟨rfl, rfl, rfl, rfl, rfl⟩

/-- The second row is a later version of the first: same resource, same owner. -/
def Booking.Follows (b b' : Booking) : Prop :=
  b'.toSlot = { b.toSlot with startTime := b'.startTime, endTime := b'.endTime }

theorem BookingPatch.apply_follows (p : BookingPatch) (b : Booking) : b.Follows (p.apply b) := rfl

theorem Booking.Follows.trans {a b d : Booking} (h₁ : a.Follows b) (h₂ : b.Follows d) :
    a.Follows d := by
  unfold Booking.Follows at *
  rw [h₂, h₁]

/-- The clock has moved on, the tree is the same, and no booking or payment is gone. -/
structure Extends (x y : State) : Prop where
  now_le : x.now ≤ y.now
  tree : SameTree x.store y.store
  bookings : ∀ id b, x.store.bookings.get? id = some b →
    ∃ b', y.store.bookings.get? id = some b' ∧ b.Follows b'
  transactions : ∀ id t, x.store.transactions.get? id = some t →
    ∃ t', y.store.transactions.get? id = some t' ∧ t'.amountCents = t.amountCents

theorem Extends.of_store (hnow : x.now ≤ y.now) (hstore : y.store = x.store) : Extends x y where
  now_le := hnow
  tree := hstore ▸ SameTree.refl _
  bookings := fun _ b hb => ⟨b, hstore ▸ hb, rfl⟩
  transactions := fun _ t ht => ⟨t, hstore ▸ ht, rfl⟩

theorem Extends.refl (x : State) : Extends x x := .of_store le_rfl rfl

theorem Extends.trans {x y z : State} (h₁ : Extends x y) (h₂ : Extends y z) : Extends x z where
  now_le := h₁.now_le.trans h₂.now_le
  tree := h₁.tree.trans h₂.tree
  bookings := fun id b hb => by
    obtain ⟨b', hb', hf⟩ := h₁.bookings id b hb
    obtain ⟨b'', hb'', hf'⟩ := h₂.bookings id b' hb'
    exact ⟨b'', hb'', hf.trans hf'⟩
  transactions := fun id t ht => by
    obtain ⟨t', ht', ha⟩ := h₁.transactions id t ht
    obtain ⟨t'', ht'', ha'⟩ := h₂.transactions id t' ht'
    exact ⟨t'', ht'', ha'.trans ha⟩

theorem Draft.refundOf_amountCents (d : Draft) (t : Transaction) :
    (d.refundOf id t).amountCents = t.amountCents := by
  cases d with
  | refund d =>
    rw [Draft.refundOf]
    split
    · rfl
    · rfl
  | _ => rfl

theorem Commits.extends {r : Request} {d : Draft} (h : Commits rt x r d y) : Extends x y where
  now_le := h.now_le
  tree := d.commit_sameTree h.commit
  bookings := fun id _ hb => ⟨_, d.get?_bookings h.commit hb, (d.patchOf id).apply_follows _⟩
  transactions := fun _ t ht =>
    ⟨_, d.get?_transactions h.commit ht, d.refundOf_amountCents t⟩

/-- A ticket whose rows are still there. -/
abbrev StandingTicket (rt : Runtime) (t : RequestTicket) (x : State) : Prop :=
  (requests rt).Standing Extends t x

theorem StandingTicket.extends {t : RequestTicket} (h : StandingTicket rt t x) :
    Extends t.seen x := by
  rcases h with ⟨s₀, hread, hlater⟩
  exact (Extends.of_store hread.now_le hread.store).trans hlater

theorem StandingTicket.drafted {t : RequestTicket} (h : StandingTicket rt t x) :
    Drafted rt t.request.call t.seen.store t.request.body t.plan := by
  rcases h with ⟨s₀, hread, -⟩
  exact hread.drafted

/-- The clock has passed the readings of the request. -/
theorem StandingTicket.reading_le {t : RequestTicket} (h : StandingTicket rt t x) :
    t.request.call.now t.request.body.lastReading ≤ x.now := by
  rcases h with ⟨s₀, hread, hlater⟩
  exact hread.ends.trans hlater.now_le

/-- **Tickets stay standing.** -/
theorem standing_step {k k' : RequestConfig} {m : RequestMove}
    (h : (requests rt).AllStanding Extends k) (hstep : (requests rt).Step k m k') :
    (requests rt).AllStanding Extends k' :=
  Protocol.allStanding_step Extends.refl (fun _ _ _ => Extends.trans)
    (fun _ _ _ _ hread => .of_store hread.now_le hread.store)
    (fun _ _ _ _ hcommit => hcommit.extends) h hstep

/-! ## §4 Serial calls -/

/-- **The two halves make up the operation**, errors included. -/
theorem exec_op (body : RequestBody) :
    exec rt c s body.op = (do
      match ← body.check rt c s with
      | some d => d.commit rt (c.now (body.lastReading + 1)) s
      | none => pure s) := by
  cases body with
  | createHold payload =>
    show Prod.fst <$> createHold rt c s payload = _
    simp only [createHold, RequestBody.check]
    cases checkHold rt c s payload <;> rfl
  | createBooking payload =>
    show Prod.fst <$> createBooking rt c s payload = _
    simp only [createBooking, RequestBody.check]
    cases checkBooking rt c s payload <;> rfl
  | rescheduleBooking bookingId payload =>
    show rescheduleBooking rt c s bookingId payload = _
    simp only [rescheduleBooking, RequestBody.check]
    cases checkReschedule rt c s bookingId payload <;> rfl
  | cancelBooking bookingId =>
    show cancelBooking c s bookingId = _
    simp only [cancelBooking, RequestBody.check]
    cases checkCancel c s bookingId with
    | error => rfl
    | ok r => cases r <;> rfl
  | createCheckin bookingId payload =>
    show createCheckin c s bookingId payload = _
    simp only [createCheckin, RequestBody.check]
    cases checkCheckin c s bookingId payload <;> rfl
  | createPayment payload =>
    show Prod.fst <$> createPayment rt c s payload = _
    simp only [createPayment, RequestBody.check]
    cases checkPayment rt c s payload <;> rfl
  | refundPayment paymentId payload =>
    show refundPayment c s paymentId payload = _
    simp only [refundPayment, RequestBody.check]
    cases checkRefund c s paymentId payload <;> rfl

theorem RequestBody.lastReading_lt (body : RequestBody) : body.lastReading + 1 ≤ 3 := by
  cases body <;> simp [RequestBody.lastReading]

/-- **A serial call is a request that nobody interrupts.**  It either writes nothing or runs as a
read followed at once by its commit, with whatever else in flight. -/
theorem SerialStep.run_request {call : Call} {body : RequestBody}
    (h : SerialStep rt x ⟨call, body.op⟩ y) (q l : List RequestTicket) :
    y.store = x.store ∨ ∃ d, Run (requests rt).Step ⟨x, q, l⟩
      [.read ⟨⟨call, body⟩, x, d⟩, .commit ⟨⟨call, body⟩, x, d⟩]
      ⟨y, q, ⟨⟨call, body⟩, x, d⟩ :: l⟩ := by
  have hstore : y.store = step rt x.store ⟨call, body.op⟩ := h.store
  cases hexec : exec rt call x.store body.op with
  | error e => exact .inl (hstore.trans (by simp [step, hexec]))
  | ok s' =>
    have hs' : y.store = s' := hstore.trans (step_of_ok hexec)
    rw [exec_op, bind_eq_ok] at hexec
    rcases hexec with ⟨r, hr, hrest⟩
    cases r with
    | none => exact .inl (hs'.trans ((pure_eq_ok _ _).mp hrest).symm)
    | some d =>
      -- In between, the clock shows the last reading of the first half.
      have hread : (requests rt).reads x ⟨call, body⟩ d ⟨call.now body.lastReading, x.store⟩ :=
        ⟨h.starts, le_rfl, hr, rfl⟩
      have hend : call.now (body.lastReading + 1) ≤ y.now :=
        (call.now_mono body.lastReading_lt).trans h.ends
      have hcommit : (requests rt).commits ⟨call.now body.lastReading, x.store⟩ ⟨call, body⟩ d y :=
        ⟨call.now_mono (Nat.le_succ _), hend, hs' ▸ hrest⟩
      exact .inr ⟨d, Protocol.run_atomic q l hread hcommit⟩

end Coworking
