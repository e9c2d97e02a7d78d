import Coworking.Foundation.Run
import Coworking.Services.Checkin
import Coworking.Services.Favorite
import Coworking.Services.Payment
import Coworking.Services.Space

/-!
# Operations and Serial Runs

Every service operation that writes, as one value, and the machine that executes them
one after the other.  A call that raises is rolled back.

- `exec`: the operation as a function on the store;
- `Effect`, `exec_effect`: everything a successful operation can have done;
- `exec_recordsOnly`: the tables that operations on records leave alone;
- `SerialStep`: one atomic call under a clock that does not run backwards;
- `replay`: the store after a list of calls.
-/

namespace Coworking

open Foundation

/-! ## §1 Operations -/

inductive Op
  | createHold (payload : HoldCreateRequest)
  | cancelHold (holdId : Uuid)
  | createBooking (payload : BookingCreateRequest)
  | rescheduleBooking (bookingId : Uuid) (payload : BookingWindowUpdateRequest)
  | repeatBooking (bookingId : Uuid) (payload : BookingWindowUpdateRequest)
  | cancelBooking (bookingId : Uuid)
  | createCheckin (bookingId : Uuid) (payload : CheckinRequest)
  | createPayment (payload : PaymentCreateRequest)
  | capturePayment (paymentId : Uuid)
  | refundPayment (paymentId : Uuid) (payload : PaymentRefundRequest)
  | updateNotificationPreferences (payload : NotificationPrefsUpdate)
  | createFavoriteVenue (venueId : Uuid)
  | deleteFavoriteVenue (venueId : Uuid)
  | createVenue (payload : VenueCreate)
  | updateRoomLayout (roomId : Uuid) (payload : RoomLayoutUpdate)

/-- The store an operation leaves, or the exception it ends in. -/
def exec (rt : Runtime) (c : Call) (s : Store) : Op → Except ServiceError Store
  | .createHold payload => Prod.fst <$> createHold rt c s payload
  | .cancelHold holdId => cancelHold c s holdId
  | .createBooking payload => Prod.fst <$> createBooking rt c s payload
  | .rescheduleBooking bookingId payload => rescheduleBooking rt c s bookingId payload
  | .repeatBooking bookingId payload => Prod.fst <$> repeatBooking rt c s bookingId payload
  | .cancelBooking bookingId => cancelBooking c s bookingId
  | .createCheckin bookingId payload => createCheckin c s bookingId payload
  | .createPayment payload => Prod.fst <$> createPayment rt c s payload
  | .capturePayment paymentId => Prod.fst <$> capturePayment c s paymentId
  | .refundPayment paymentId payload => refundPayment c s paymentId payload
  | .updateNotificationPreferences payload => .ok (updateNotificationPreferences c s payload)
  | .createFavoriteVenue venueId => createFavoriteVenue c s venueId
  | .deleteFavoriteVenue venueId => .ok (deleteFavoriteVenue c s venueId)
  | .createVenue payload => Prod.fst <$> createVenue rt s payload
  | .updateRoomLayout roomId payload => updateRoomLayout rt s roomId payload

/-- A call: the circumstances and the operation. -/
structure Event where
  call : Call
  op : Op

/-- The store after a call; an exception leaves it as it was. -/
def step (rt : Runtime) (s : Store) (e : Event) : Store :=
  match exec rt e.call s e.op with
  | .ok s' => s'
  | .error _ => s

/-- The store after a list of calls. -/
def replay (rt : Runtime) (s : Store) (es : List Event) : Store := es.foldl (step rt) s

@[simp] theorem replay_nil (rt : Runtime) (s : Store) : replay rt s [] = s := rfl

theorem replay_snoc (rt : Runtime) (s : Store) (es : List Event) (e : Event) :
    replay rt s (es ++ [e]) = step rt (replay rt s es) e := by
  simp [replay]

theorem step_of_ok {rt : Runtime} {s s' : Store} {e : Event}
    (h : exec rt e.call s e.op = .ok s') : step rt s e = s' := by
  simp [step, h]

/-! ## §2 The space tree only grows -/

/-- What no operation takes away or changes: venues, rooms with their venue, seats with
their room, opening hours and booking rules. -/
structure Grows (s s' : Store) : Prop where
  venues : ∀ id venue, s.venue? id = some venue → s'.venue? id = some venue
  rooms : ∀ id room, s.room? id = some room →
    ∃ room', s'.room? id = some room' ∧ room'.venueId = room.venueId
  seats : SeatsPersist s.seats s'.seats
  roomHours : s'.roomHours = s.roomHours
  bookingRules : s'.bookingRules = s.bookingRules

theorem Grows.of_eq {s s' : Store} (hv : s'.venues = s.venues) (hr : s'.rooms = s.rooms)
    (hs : s'.seats = s.seats) (hh : s'.roomHours = s.roomHours)
    (hb : s'.bookingRules = s.bookingRules) : Grows s s' where
  venues := fun id venue h => by rw [Store.venue?, hv]; exact h
  rooms := fun id room h => ⟨room, by rw [Store.room?, hr]; exact h, rfl⟩
  seats := hs ▸ SeatsPersist.refl _
  roomHours := hh
  bookingRules := hb

theorem Grows.refl (s : Store) : Grows s s := .of_eq rfl rfl rfl rfl rfl

theorem Grows.trans {s t u : Store} (h₁ : Grows s t) (h₂ : Grows t u) : Grows s u where
  venues := fun id venue h => h₂.venues id venue (h₁.venues id venue h)
  rooms := fun id room h => by
    obtain ⟨room', hroom', hv'⟩ := h₁.rooms id room h
    obtain ⟨room'', hroom'', hv''⟩ := h₂.rooms id room' hroom'
    exact ⟨room'', hroom'', hv''.trans hv'⟩
  seats := h₁.seats.trans h₂.seats
  roomHours := h₂.roomHours.trans h₁.roomHours
  bookingRules := h₂.bookingRules.trans h₁.bookingRules

/-- The rule a resource is under stays the same. -/
theorem Grows.sameRule {s s' : Store} (h : Grows s s') (rows : RowChoice)
    (ctx : ResourceContext) :
    resolveBookingRule rows s' ctx = resolveBookingRule rows s ctx := by
  simp only [resolveBookingRule, h.bookingRules]

/-- So do the opening hours. -/
theorem Grows.sameHours {s s' : Store} (h : Grows s s') (ctx : ResourceContext)
    (targetDate : Date) :
    resolveOperatingHours s' ctx targetDate =
      resolveOperatingHours s ctx targetDate := by
  simp only [resolveOperatingHours, h.roomHours]

/-- A layout update keeps the tree. -/
theorem grows_updateRoomLayout {rt : Runtime} {s s' : Store} {roomId : Uuid}
    {payload : RoomLayoutUpdate} (h : updateRoomLayout rt s roomId payload = .ok s') :
    Grows s s' := by
  obtain ⟨seats, flag, hseats, rfl⟩ := updateRoomLayout_eq_ok h
  refine ⟨fun _ _ hv => hv, fun id room hroom => ?_, hseats, rfl, rfl⟩
  have hroom' : s.rooms.get? id = some room := hroom
  -- The one room that is written to keeps its venue.
  simp only [Store.room?, Table.get?_modify, hroom', Option.map_some, Option.some.injEq,
    exists_eq_left']
  by_cases hid : id = roomId <;> simp [hid]

/-- A new venue keeps the tree. -/
theorem grows_createVenue {rt : Runtime} {s : Store} {payload : VenueCreate} {r : Store × Venue}
    (h : createVenue rt s payload = .ok r) : Grows s r.1 := by
  obtain ⟨-, hnew, features, featureLinks, hr⟩ := createVenue_eq_ok h
  rw [hr]
  exact
    { venues := fun _ _ hv => Table.get?_insert_of_some hnew hv
      rooms := fun _ room hroom => ⟨room, hroom, rfl⟩
      seats := SeatsPersist.refl _
      roomHours := rfl
      bookingRules := rfl }

/-! ## §3 What an operation can do -/

/-- The tables of holds, bookings, check-ins, payments and notifications are left alone. -/
structure SameRecords (s s' : Store) : Prop where
  holds : s'.holds = s.holds
  bookings : s'.bookings = s.bookings
  checkins : s'.checkins = s.checkins
  transactions : s'.transactions = s.transactions
  notifications : s'.notifications = s.notifications

/-- Everything a successful operation can have done to a store. -/
inductive Effect (rt : Runtime) (c : Call) (s : Store) : Op → Store → Prop
  | holdCreated {payload : HoldCreateRequest} {d : HoldDraft} :
      checkHold rt c s payload = .ok d → Effect rt c s (.createHold payload) (commitHold rt s d).1
  | holdCancelled {holdId : Uuid} {h : Hold} :
      s.holdOf? holdId c.user = some h → h.status = .pending →
      Effect rt c s (.cancelHold holdId)
        { s with
          holds := s.holds.modify holdId (Hold.setStatus .cancelled)
            (Hold.setStatus_key .cancelled) }
  | bookingCreated {op : Op} {payload : BookingCreateRequest} {d : BookingDraft} :
      (op = .createBooking payload ∨
        ∃ bookingId window, op = .repeatBooking bookingId window ∧ payload.holdId = none) →
      checkBooking rt c s payload = .ok d → Effect rt c s op (commitBooking rt (c.now 3) s d).1
  | rescheduled {bookingId : Uuid} {payload : BookingWindowUpdateRequest} {u : BookingUpdate} :
      checkReschedule rt c s bookingId payload = .ok u →
      Effect rt c s (.rescheduleBooking bookingId payload) (commitBookingUpdate (c.now 3) s u)
  | cancelled {bookingId : Uuid} {u : BookingUpdate} :
      checkCancel c s bookingId = .ok (some u) →
      Effect rt c s (.cancelBooking bookingId) (commitBookingUpdate (c.now 1) s u)
  | checkedIn {bookingId : Uuid} {payload : CheckinRequest} {d : CheckinDraft}
      (hnew : Keyed.key d.checkin ∉ s.checkins.keys) :
      checkCheckin c s bookingId payload = .ok d →
      Effect rt c s (.createCheckin bookingId payload)
        (commitBookingUpdate (c.now 1) { s with checkins := s.checkins.insert d.checkin hnew }
          d.update)
  | paid {payload : PaymentCreateRequest} {d : PaymentDraft} :
      checkPayment rt c s payload = .ok d →
      Effect rt c s (.createPayment payload) (commitPayment rt (c.now 1) s d).1
  | captured {paymentId : Uuid} {t : Transaction} {r : Store × Transaction} :
      s.transactionOf? paymentId c.user = some t → t.status ≠ .captured → t.status ≠ .refunded →
      capturePayment c s paymentId = .ok r → Effect rt c s (.capturePayment paymentId) r.1
  | refunded {paymentId : Uuid} {payload : PaymentRefundRequest} {d : RefundDraft} :
      checkRefund c s paymentId payload = .ok d →
      Effect rt c s (.refundPayment paymentId payload) (commitRefund (c.now 1) s d)
  /-- A second cancel, a second capture. -/
  | unchanged {op : Op} : Effect rt c s op s
  /-- Preferences, favorites, venues, layouts. -/
  | elsewhere {op : Op} {s' : Store} : SameRecords s s' → Grows s s' → Effect rt c s op s'

/-- **Inversion of an operation.** -/
theorem exec_effect {rt : Runtime} {c : Call} {s s' : Store} {op : Op}
    (h : exec rt c s op = .ok s') : Effect rt c s op s' := by
  cases op with
  | createHold payload =>
    obtain ⟨r, hr, rfl⟩ := (map_eq_ok _ _ _).mp h
    obtain ⟨d, hd, rfl⟩ := createHold_eq_ok.mp hr
    exact .holdCreated hd
  | cancelHold holdId =>
    obtain ⟨x, hx, rfl⟩ := cancelHold_eq_ok.mp h
    by_cases hs : x.status = .pending
    · rw [if_pos hs]
      exact .holdCancelled hx hs
    · rw [if_neg hs]
      exact .unchanged
  | createBooking payload =>
    obtain ⟨r, hr, rfl⟩ := (map_eq_ok _ _ _).mp h
    obtain ⟨d, hd, rfl⟩ := createBooking_eq_ok.mp hr
    exact .bookingCreated (.inl rfl) hd
  | rescheduleBooking bookingId payload =>
    obtain ⟨u, hu, rfl⟩ := rescheduleBooking_eq_ok.mp h
    exact .rescheduled hu
  | repeatBooking bookingId payload =>
    -- A repetition is a booking without a hold.
    obtain ⟨r, hr, rfl⟩ := (map_eq_ok _ _ _).mp h
    obtain ⟨source, -, hcreate⟩ := repeatBooking_eq_ok.mp hr
    obtain ⟨d, hd, rfl⟩ := createBooking_eq_ok.mp hcreate
    exact .bookingCreated (.inr ⟨bookingId, payload, rfl, rfl⟩) hd
  | cancelBooking bookingId =>
    obtain ⟨r, hr, rfl⟩ := cancelBooking_eq_ok.mp h
    -- A booking that is already cancelled gets no writes.
    cases r with
    | none => exact .unchanged
    | some u => exact .cancelled hr
  | createCheckin bookingId payload =>
    obtain ⟨d, hd, hcommit⟩ := createCheckin_eq_ok.mp h
    obtain ⟨hnew, rfl⟩ := commitCheckin_eq_ok.mp hcommit
    exact .checkedIn hnew hd
  | createPayment payload =>
    obtain ⟨r, hr, rfl⟩ := (map_eq_ok _ _ _).mp h
    obtain ⟨d, hd, rfl⟩ := createPayment_eq_ok.mp hr
    exact .paid hd
  | capturePayment paymentId =>
    obtain ⟨r, hr, rfl⟩ := (map_eq_ok _ _ _).mp h
    obtain ⟨t, ht⟩ := transactionOf?_of_capturePayment hr
    by_cases hs : t.status = .captured ∨ t.status = .refunded
    · rw [capturePayment_of_captured ht hs hr]
      exact .unchanged
    · rw [not_or] at hs
      exact .captured ht hs.1 hs.2 hr
  | refundPayment paymentId payload =>
    obtain ⟨d, hd, rfl⟩ := refundPayment_eq_ok.mp h
    exact .refunded hd
  | updateNotificationPreferences payload =>
    cases h
    unfold updateNotificationPreferences
    dsimp only
    split
    · exact .elsewhere ⟨rfl, rfl, rfl, rfl, rfl⟩ (.of_eq rfl rfl rfl rfl rfl)
    · exact .elsewhere ⟨rfl, rfl, rfl, rfl, rfl⟩ (.of_eq rfl rfl rfl rfl rfl)
  | createFavoriteVenue venueId =>
    obtain ⟨favoriteVenues, rfl⟩ := createFavoriteVenue_eq_ok h
    exact .elsewhere ⟨rfl, rfl, rfl, rfl, rfl⟩ (.of_eq rfl rfl rfl rfl rfl)
  | deleteFavoriteVenue venueId =>
    cases h
    exact .elsewhere ⟨rfl, rfl, rfl, rfl, rfl⟩ (.of_eq rfl rfl rfl rfl rfl)
  | createVenue payload =>
    obtain ⟨r, hr, rfl⟩ := (map_eq_ok _ _ _).mp h
    refine .elsewhere ?_ (grows_createVenue hr)
    obtain ⟨-, hnew, features, featureLinks, hr'⟩ := createVenue_eq_ok hr
    rw [hr']
    exact ⟨rfl, rfl, rfl, rfl, rfl⟩
  | updateRoomLayout roomId payload =>
    refine .elsewhere ?_ (grows_updateRoomLayout h)
    obtain ⟨seats, flag, -, rfl⟩ := updateRoomLayout_eq_ok h
    exact ⟨rfl, rfl, rfl, rfl, rfl⟩

/-- An operation on holds, bookings, check-ins and payments. -/
def Op.onRecords : Op → Prop
  | .updateNotificationPreferences _ | .createFavoriteVenue _ | .deleteFavoriteVenue _
  | .createVenue _ | .updateRoomLayout _ _ => False
  | _ => True

/-- The other tables are left alone. -/
structure RecordsOnly (s s' : Store) : Prop where
  venues : s'.venues = s.venues
  rooms : s'.rooms = s.rooms
  seats : s'.seats = s.seats
  features : s'.features = s.features
  featureLinks : s'.featureLinks = s.featureLinks
  roomHours : s'.roomHours = s.roomHours
  bookingRules : s'.bookingRules = s.bookingRules
  notificationPreferences : s'.notificationPreferences = s.notificationPreferences
  favoriteVenues : s'.favoriteVenues = s.favoriteVenues

theorem RecordsOnly.refl (s : Store) : RecordsOnly s s :=
  ⟨rfl, rfl, rfl, rfl, rfl, rfl, rfl, rfl, rfl⟩

/-- **Frame of the operations on records.** -/
theorem exec_recordsOnly {rt : Runtime} {c : Call} {s s' : Store} {op : Op}
    (h : exec rt c s op = .ok s') (hop : op.onRecords) : RecordsOnly s s' := by
  cases op with
  | createHold payload =>
    obtain ⟨r, hr, rfl⟩ := (map_eq_ok _ _ _).mp h
    obtain ⟨d, -, rfl⟩ := createHold_eq_ok.mp hr
    exact ⟨rfl, rfl, rfl, rfl, rfl, rfl, rfl, rfl, rfl⟩
  | cancelHold holdId =>
    obtain ⟨x, -, rfl⟩ := cancelHold_eq_ok.mp h
    split
    · exact ⟨rfl, rfl, rfl, rfl, rfl, rfl, rfl, rfl, rfl⟩
    · exact .refl s
  | createBooking payload =>
    obtain ⟨r, hr, rfl⟩ := (map_eq_ok _ _ _).mp h
    obtain ⟨d, -, rfl⟩ := createBooking_eq_ok.mp hr
    exact ⟨rfl, rfl, rfl, rfl, rfl, rfl, rfl, rfl, rfl⟩
  | rescheduleBooking bookingId payload =>
    obtain ⟨u, -, rfl⟩ := rescheduleBooking_eq_ok.mp h
    exact ⟨rfl, rfl, rfl, rfl, rfl, rfl, rfl, rfl, rfl⟩
  | repeatBooking bookingId payload =>
    -- A repetition writes what the booking writes.
    obtain ⟨r, hr, rfl⟩ := (map_eq_ok _ _ _).mp h
    obtain ⟨source, -, hcreate⟩ := repeatBooking_eq_ok.mp hr
    obtain ⟨d, -, rfl⟩ := createBooking_eq_ok.mp hcreate
    exact ⟨rfl, rfl, rfl, rfl, rfl, rfl, rfl, rfl, rfl⟩
  | cancelBooking bookingId =>
    obtain ⟨r, -, rfl⟩ := cancelBooking_eq_ok.mp h
    cases r with
    | none => exact .refl s
    | some u => exact ⟨rfl, rfl, rfl, rfl, rfl, rfl, rfl, rfl, rfl⟩
  | createCheckin bookingId payload =>
    obtain ⟨d, -, hcommit⟩ := createCheckin_eq_ok.mp h
    obtain ⟨hnew, rfl⟩ := commitCheckin_eq_ok.mp hcommit
    exact ⟨rfl, rfl, rfl, rfl, rfl, rfl, rfl, rfl, rfl⟩
  | createPayment payload =>
    obtain ⟨r, hr, rfl⟩ := (map_eq_ok _ _ _).mp h
    obtain ⟨d, -, rfl⟩ := createPayment_eq_ok.mp hr
    exact ⟨rfl, rfl, rfl, rfl, rfl, rfl, rfl, rfl, rfl⟩
  | capturePayment paymentId =>
    -- A second capture answers with the payment as it is.
    obtain ⟨r, hr, rfl⟩ := (map_eq_ok _ _ _).mp h
    obtain ⟨t, ht⟩ := transactionOf?_of_capturePayment hr
    by_cases hs : t.status = .captured ∨ t.status = .refunded
    · rw [capturePayment_of_captured ht hs hr]
      exact .refl s
    · rw [not_or] at hs
      rw [(capturePayment_of_uncaptured ht hs.1 hs.2 hr).2]
      exact ⟨rfl, rfl, rfl, rfl, rfl, rfl, rfl, rfl, rfl⟩
  | refundPayment paymentId payload =>
    obtain ⟨d, -, rfl⟩ := refundPayment_eq_ok.mp h
    exact ⟨rfl, rfl, rfl, rfl, rfl, rfl, rfl, rfl, rfl⟩
  | _ => exact hop.elim

/-- A call either does what `Effect` says or leaves the store alone. -/
theorem step_effect (rt : Runtime) (s : Store) (e : Event) :
    Effect rt e.call s e.op (step rt s e) := by
  cases h : exec rt e.call s e.op with
  | ok s' => exact step_of_ok h ▸ exec_effect h
  | error err =>
    have hs : step rt s e = s := by simp [step, h]
    rw [hs]
    exact .unchanged

/-! ## §4 Serial runs -/

/-- A store and the latest instant the clock has shown. -/
structure State where
  now : Instant
  store : Store

/-- One atomic call.  Its clock readings lie between the clocks of the two states; no call
takes more than four of them. -/
structure SerialStep (rt : Runtime) (x : State) (e : Event) (y : State) : Prop where
  starts : x.now ≤ e.call.now 0
  ends : e.call.now 3 ≤ y.now
  store : y.store = step rt x.store e

theorem SerialStep.effect {rt : Runtime} {x y : State} {e : Event} (h : SerialStep rt x e y) :
    Effect rt e.call x.store e.op y.store := h.store ▸ step_effect rt x.store e

/-- Where the operation of the call succeeds, it leaves its store. -/
theorem SerialStep.store_of_ok {rt : Runtime} {x y : State} {e : Event} {op : Op} {s' : Store}
    (h : SerialStep rt x e y) (hop : e.op = op) (hok : exec rt e.call x.store op = .ok s') :
    y.store = s' := by
  rw [h.store]
  exact step_of_ok (hop ▸ hok)

/-- A call that is refused leaves the store as it is. -/
theorem SerialStep.store_of_refused {rt : Runtime} {x y : State} {e : Event}
    (h : SerialStep rt x e y) (hrefused : ¬ Returns (exec rt e.call x.store e.op)) :
    y.store = x.store := by
  rw [h.store, step]
  cases hok : exec rt e.call x.store e.op with
  | ok s' => exact absurd ⟨s', hok⟩ hrefused
  | error err => rfl

/-- The readings a call takes lie between the clocks of the two states. -/
theorem SerialStep.reading {rt : Runtime} {x y : State} {e : Event} (h : SerialStep rt x e y)
    {n : Nat} (hn : n ≤ 3) : x.now ≤ e.call.now n ∧ e.call.now n ≤ y.now :=
  ⟨h.starts.trans (e.call.now_mono (Nat.zero_le n)), (e.call.now_mono hn).trans h.ends⟩

theorem SerialStep.now_le {rt : Runtime} {x y : State} {e : Event} (h : SerialStep rt x e y) :
    x.now ≤ y.now := (h.reading (Nat.zero_le 3)).1.trans (h.reading (Nat.zero_le 3)).2

/-- The store at the end of a run is the replay of its calls. -/
theorem serialRun_store {rt : Runtime} {x y : State} {es : List Event}
    (h : Run (SerialStep rt) x es y) : y.store = replay rt x.store es := by
  induction h with
  | nil => rfl
  | snoc _ hstep ih => rw [replay_snoc, ← ih, hstep.store]

/-- The clock does not run backwards. -/
theorem serialRun_now_le {rt : Runtime} {x y : State} {es : List Event}
    (h : Run (SerialStep rt) x es y) : x.now ≤ y.now :=
  h.relates (R := fun x y => x.now ≤ y.now) (fun _ => le_rfl) (fun _ _ _ => le_trans)
    fun _ _ _ => SerialStep.now_le

/-- The calls follow each other on the clock. -/
def InOrder : Instant → List Event → Prop
  | _, [] => True
  | now, e :: es => now ≤ e.call.now 0 ∧ InOrder (e.call.now 3) es

/-- The clock after the last call. -/
def lastReading : Instant → List Event → Instant
  | now, [] => now
  | _, e :: es => lastReading (e.call.now 3) es

instance decidableInOrder : (now : Instant) → (es : List Event) → Decidable (InOrder now es)
  | _, [] => isTrue trivial
  | _, e :: es =>
    have := decidableInOrder (e.call.now 3) es
    inferInstanceAs (Decidable (_ ∧ _))

/-- Any calls in clock order are a run. -/
theorem InOrder.run {rt : Runtime} {now : Instant} {es : List Event} (h : InOrder now es)
    (s : Store) : Run (SerialStep rt) ⟨now, s⟩ es ⟨lastReading now es, replay rt s es⟩ := by
  induction es generalizing now s with
  | nil => exact .nil _
  | cons e es ih =>
    have hfirst : SerialStep rt ⟨now, s⟩ e ⟨e.call.now 3, step rt s e⟩ := ⟨h.1, le_rfl, rfl⟩
    exact (Run.single hfirst).append (ih h.2 (step rt s e))

/-- A store in which nothing is held or booked. -/
structure Unreserved (s : Store) : Prop where
  holds : ∀ h, h ∉ s.holds
  bookings : ∀ b, b ∉ s.bookings

/-! ## §5 A small venue -/

/-- A venue in UTC with one room of two seats, open around the clock. -/
def smallStore : Store where
  venues := ⟨[⟨1, "Loft", "Street 1", "UTC"⟩], by decide⟩
  rooms := ⟨[⟨2, 1, "Hall", true, some 8, some 8⟩], by decide⟩
  seats := ⟨[⟨3, 2, "A1", 0, 0, none, none, true⟩, ⟨4, 2, "A2", 1, 0, none, none, true⟩], by decide⟩
  roomHours := .empty
  bookingRules := .empty
  features := .empty
  featureLinks := .empty
  holds := .empty
  bookings := .empty
  checkins := .empty
  transactions := .empty
  notifications := []
  notificationPreferences := .empty
  favoriteVenues := .empty

theorem smallStore_unreserved : Unreserved smallStore :=
  ⟨fun _ => (Table.mem_empty _).mp, fun _ => (Table.mem_empty _).mp⟩

/-- A call at a standing clock. -/
def Call.plain (user : Uuid) (now : Instant) : Call := ⟨user, .at now, .first⟩

/-- Seat `A1` from ten to eleven. -/
def smallHold : HoldCreateRequest :=
  ⟨.seat, some 3, none, none, .ofInstant (minutes 600), .ofInstant (minutes 660)⟩

/-- The booking of the same seat and window. -/
def smallBooking (holdId : Option Uuid) : BookingCreateRequest :=
  ⟨.seat, some 3, none, none, holdId, .ofInstant (minutes 600), .ofInstant (minutes 660)⟩

/-- A payment of 100 for booking 1. -/
def smallPayment : PaymentCreateRequest := ⟨1, 100, by decide, "RUB", rfl, none⟩

/-- A refund of what remains. -/
def fullRefund : PaymentRefundRequest := ⟨none, nofun⟩

/-- User 7 holds the seat and books it. -/
def smallEvents : List Event :=
  [⟨.plain 7 0, .createHold smallHold⟩, ⟨.plain 7 1, .createBooking (smallBooking (some 1))⟩]

theorem smallRun :
    Run (SerialStep .plain) ⟨0, smallStore⟩ smallEvents ⟨1, replay .plain smallStore smallEvents⟩ :=
  (by decide : InOrder 0 smallEvents).run smallStore

end Coworking
