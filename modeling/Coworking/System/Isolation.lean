import Coworking.Services.Listing
import Coworking.System.Ledger
import Coworking.System.Records

/-!
# Isolation of Users

Every operation looks its records up by id and owner, some of them through a second table: a
payment leads to its booking, a booking request to a hold, a repetition to the booking it copies.

- `OthersUntouched`: what a call leaves of the records of all other users, namely all of it;
- `PaymentsOwned`: the invariant under which the way from a payment to its booking stays within
  the records of one user;
- `OwnRowsAgree`, `SameAnswers`: the reading endpoints see the rows of their user only;
- `records_isolated`: both, in every reached state.
-/

namespace Coworking

open Foundation

variable {rt : Runtime} {c : Call} {s s' : Store} {op : Op} {user : Uuid}

/-! ## §1 The records of the others -/

/-- Holds, bookings, check-ins, payments and notifications of the other users are as before.  A
check-in belongs to the owner of its booking. -/
structure RecordsOfOthers (user : Uuid) (s s' : Store) : Prop where
  holds : s.holds.AgreeOn (fun h => h.userId ≠ user) s'.holds
  bookings : s.bookings.AgreeOn (fun b => b.userId ≠ user) s'.bookings
  checkins : ∀ id, s.bookingOf? id user = none → s'.checkins.get? id = s.checkins.get? id
  transactions : s.transactions.AgreeOn (fun t => t.userId ≠ user) s'.transactions
  notifications : s'.notifications.filter (fun n => n.userId ≠ user) =
    s.notifications.filter (fun n => n.userId ≠ user)

/-- So are their preferences and favorites. -/
structure SettingsOfOthers (user : Uuid) (s s' : Store) : Prop where
  preferences : s.notificationPreferences.AgreeOn (fun p => p.userId ≠ user)
    s'.notificationPreferences
  favorites : s.favoriteVenues.AgreeOn (fun f => f.userId ≠ user) s'.favoriteVenues

structure OthersUntouched (user : Uuid) (s s' : Store) : Prop
    extends RecordsOfOthers user s s', SettingsOfOthers user s s'

theorem RecordsOfOthers.of_eq (hh : s'.holds = s.holds) (hb : s'.bookings = s.bookings)
    (hk : s'.checkins = s.checkins) (ht : s'.transactions = s.transactions)
    (hn : s'.notifications = s.notifications) : RecordsOfOthers user s s' where
  holds := hh ▸ .refl _ _
  bookings := hb ▸ .refl _ _
  checkins := fun _ _ => by rw [hk]
  transactions := ht ▸ .refl _ _
  notifications := by rw [hn]

theorem SettingsOfOthers.of_eq (hp : s'.notificationPreferences = s.notificationPreferences)
    (hf : s'.favoriteVenues = s.favoriteVenues) : SettingsOfOthers user s s' where
  preferences := hp ▸ .refl _ _
  favorites := hf ▸ .refl _ _

/-! ## §2 Writes to one's own rows -/

/-- A user's notification is none of the others'. -/
theorem filter_createNotificationRecord {now : Instant} {templateCode : String}
    {payload : List (String × PayloadValue)} :
    (createNotificationRecord now s user templateCode payload).notifications.filter
      (fun n => n.userId ≠ user) = s.notifications.filter fun n => n.userId ≠ user := by
  simp [createNotificationRecord]

/-- Rewriting a row of the user, who goes on being its owner, concerns no other user. -/
theorem agreeOn_modify_owned {ρ κ : Type} [Keyed ρ κ] [DecidableEq κ] {t : Table ρ} {k : κ}
    {f : ρ → ρ} (hkey : ∀ r, Keyed.key (f r) = Keyed.key r) (owner : ρ → Uuid)
    (hown : ∀ r, t.get? k = some r → owner r = user) (hf : ∀ r, owner (f r) = owner r) :
    t.AgreeOn (fun r => owner r ≠ user) (t.modify k f hkey) := by
  refine Table.agreeOn_modify hkey fun r hget => ?_
  have huser : owner r = user := hown r hget
  exact ⟨by simp [huser], by simp [hf, huser]⟩

theorem agreeOn_updateBooking {id : Uuid} {p : BookingPatch}
    (hown : ∀ b, s.bookings.get? id = some b → b.userId = user) :
    s.bookings.AgreeOn (fun b => b.userId ≠ user) (s.updateBooking id p).bookings :=
  agreeOn_modify_owned p.apply_key (fun b => b.userId) hown fun _ => rfl

theorem agreeOn_modify_hold {id : Uuid} {h : Hold} {status : HoldStatus}
    (hown : s.holdOf? id user = some h) :
    s.holds.AgreeOn (fun h => h.userId ≠ user)
      (s.holds.modify id (Hold.setStatus status) (Hold.setStatus_key status)) := by
  obtain ⟨hget, huser⟩ := Store.holdOf?_eq_some.mp hown
  refine agreeOn_modify_owned (Hold.setStatus_key status) (fun h => h.userId) (fun x hx => ?_)
    fun _ => rfl
  obtain rfl : h = x := Option.mem_unique hget hx
  exact huser

theorem agreeOn_modify_transaction {id : Uuid} {t : Transaction} {f : Transaction → Transaction}
    (hkey : ∀ t, Keyed.key (f t) = Keyed.key t) (hown : s.transactionOf? id user = some t)
    (hf : ∀ t, (f t).userId = t.userId) :
    s.transactions.AgreeOn (fun t => t.userId ≠ user) (s.transactions.modify id f hkey) := by
  obtain ⟨hget, huser⟩ := Store.transactionOf?_eq_some.mp hown
  refine agreeOn_modify_owned hkey Transaction.userId (fun x hx => ?_) hf
  obtain rfl : t = x := Option.mem_unique hget hx
  exact huser

theorem owner_of_bookingOf? {id : Uuid} {b : Booking} (h : s.bookingOf? id user = some b) :
    ∀ b', s.bookings.get? id = some b' → b'.userId = user := by
  obtain ⟨hget, huser⟩ := Store.bookingOf?_eq_some.mp h
  intro b' hget'
  obtain rfl : b = b' := Option.mem_unique hget hget'
  exact huser

/-- An update of one's own booking with its notification. -/
theorem RecordsOfOthers.bookingUpdate (now : Instant) {u : BookingUpdate}
    (hown : ∀ b, s.bookings.get? u.bookingId = some b → b.userId = user) (huser : u.userId = user) :
    RecordsOfOthers user s (commitBookingUpdate now s u) where
  holds := .refl _ _
  bookings := agreeOn_updateBooking hown
  checkins := fun _ _ => rfl
  transactions := .refl _ _
  notifications := by
    rw [commitBookingUpdate, huser, filter_createNotificationRecord]
    rfl

/-! ## §3 Payments stay within one user -/

/-- Every payment is for a booking of the user who pays. -/
def PaymentsOwned (s : Store) : Prop :=
  ∀ t ∈ s.transactions, ∃ b, s.bookingOf? t.bookingId t.userId = some b

/-- **One call.** -/
theorem PaymentsOwned.effect (hs : PaymentsOwned s) (h : Effect rt c s op s') :
    PaymentsOwned s' := by
  suffices ∀ t ∈ s'.transactions, ∃ b, s.bookingOf? t.bookingId t.userId = some b by
    intro t ht
    obtain ⟨b, hb⟩ := this t ht
    exact h.recordChange.keeps_owner hb
  intro t hmem
  -- A payment keeps its booking and its payer; a new one was checked for both.
  cases h.transactionChange with
  | none ht => exact hs t (ht ▸ hmem)
  | paid hd ht =>
    rw [ht, Table.mem_insert] at hmem
    rcases hmem with hold | rfl
    · exact hs t hold
    · obtain ⟨b, hb, -, hid, huser, -⟩ := checkPayment_eq_ok hd
      exact ⟨b, by rw [← hid, ← huser] at hb; exact hb⟩
  | captured _ _ _ ht =>
    rw [ht, Table.mem_modify] at hmem
    rcases hmem with ⟨t₀, hmem₀, rfl⟩
    obtain ⟨b, hb⟩ := hs t₀ hmem₀
    exact ⟨b, by split <;> exact hb⟩
  | refunded _ ht =>
    rw [ht, Table.mem_modify] at hmem
    rcases hmem with ⟨t₀, hmem₀, rfl⟩
    obtain ⟨b, hb⟩ := hs t₀ hmem₀
    exact ⟨b, by split <;> exact hb⟩

/-- **A run.** -/
theorem PaymentsOwned.run {x y : State} {es : List Event} (hs : PaymentsOwned x.store)
    (h : Run (SerialStep rt) x es y) : PaymentsOwned y.store :=
  h.invariant (I := fun x => PaymentsOwned x.store)
    (fun _ _ _ hs hstep => hs.effect hstep.effect) hs

/-! ## §4 One call -/

/-- **Records.**  A call writes to the records of its caller only. -/
theorem Effect.recordsOfOthers (hs : PaymentsOwned s) (h : Effect rt c s op s') :
    RecordsOfOthers c.user s s' := by
  cases h with
  | holdCreated hd =>
    obtain ⟨_, _, _, -, -, -, -, -, rfl⟩ := checkHold_eq_ok.mp hd
    have hself : RecordsOfOthers c.user s s := .of_eq rfl rfl rfl rfl rfl
    exact { hself with
      holds := Table.agreeOn_insert (HoldDraft.row_fresh _ rt s.holds)
        (by simp [HoldDraft.row, ResourceContext.slot]) }
  | holdCancelled hx _ =>
    -- The hold was looked up by its owner.
    have hself : RecordsOfOthers c.user s s := .of_eq rfl rfl rfl rfl rfl
    exact { hself with holds := agreeOn_modify_hold hx }
  | @bookingCreated _ payload d _ hd =>
    obtain ⟨_, _, _, -, -, -, -, hhold, -, rfl⟩ := checkBooking_eq_ok.mp hd
    refine
      { holds := ?_
        bookings := Table.agreeOn_insert (BookingDraft.row_fresh _ rt s.bookings)
          (by simp [BookingDraft.row, ResourceContext.slot])
        checkins := fun _ _ => rfl
        transactions := .refl _ _
        notifications := filter_createNotificationRecord }
    -- The hold that is redeemed was looked up by its owner.
    show s.holds.AgreeOn _ (convertHold s.holds payload.holdId)
    cases hid : payload.holdId with
    | none => exact .refl _ _
    | some id =>
      obtain ⟨x, rfl, hmatch⟩ := hhold id hid
      exact agreeOn_modify_hold hmatch.owned
  | rescheduled hu =>
    obtain ⟨b, _, _, _, hb, -, -, -, -, -, -, rfl⟩ := checkReschedule_eq_ok.mp hu
    exact .bookingUpdate _ (owner_of_bookingOf? hb) rfl
  | cancelled hu =>
    obtain ⟨b, hb, hr⟩ := checkCancel_eq_ok.mp hu
    split at hr
    · cases hr
    · cases hr
      exact .bookingUpdate _ (owner_of_bookingOf? hb) rfl
  | @checkedIn bookingId payload d hnew hd =>
    obtain ⟨b, haccepted, rfl⟩ := checkCheckin_eq_ok.mp hd
    have hupdate := RecordsOfOthers.bookingUpdate (c.now 1)
      (s := { s with checkins := s.checkins.insert _ hnew })
      (u := ⟨bookingId, c.user, { status := some .checkedIn }, "booking_checked_in"⟩)
      (owner_of_bookingOf? haccepted.owned) rfl
    refine { hupdate with checkins := fun id hid => ?_ }
    -- The check-in is of a booking of the user.
    show (s.checkins.insert _ hnew).get? id = s.checkins.get? id
    rw [Table.get?_insert, if_neg]
    intro hkey
    rw [← show bookingId = id from hkey, haccepted.owned] at hid
    cases hid
  | paid hd =>
    obtain ⟨b, hb, -, hid, huser, -⟩ := checkPayment_eq_ok hd
    exact
      { holds := .refl _ _
        bookings := agreeOn_updateBooking (owner_of_bookingOf? (hid ▸ hb))
        checkins := fun _ _ => rfl
        transactions := Table.agreeOn_insert (PaymentDraft.row_fresh _ rt s.transactions)
          (by simp [PaymentDraft.row, huser])
        notifications := by
          rw [commitPayment, huser]
          exact filter_createNotificationRecord }
  | @captured paymentId t r ht hcaptured hrefunded hr =>
    obtain ⟨-, hr⟩ := capturePayment_of_uncaptured ht hcaptured hrefunded hr
    obtain ⟨hget, huser⟩ := Store.transactionOf?_eq_some.mp ht
    -- The booking is found by the payment alone, and is the payer's.
    obtain ⟨b, hb⟩ := hs t (Table.mem_of_get? hget)
    rw [hr]
    exact
      { holds := .refl _ _
        bookings := agreeOn_updateBooking (owner_of_bookingOf? (huser ▸ hb))
        checkins := fun _ _ => rfl
        transactions := agreeOn_modify_transaction (Transaction.capture_key _) ht fun _ => rfl
        notifications := filter_createNotificationRecord }
  | refunded hd =>
    obtain ⟨t, ht, -, -, -, rfl⟩ := checkRefund_eq_ok.mp hd
    exact
      { holds := .refl _ _
        bookings := .refl _ _
        checkins := fun _ _ => rfl
        transactions := agreeOn_modify_transaction (RefundDraft.apply_key _) ht fun _ => rfl
        notifications := filter_createNotificationRecord }
  | unchanged => exact .of_eq rfl rfl rfl rfl rfl
  | elsewhere hsame _ =>
    exact .of_eq hsame.holds hsame.bookings hsame.checkins hsame.transactions hsame.notifications

theorem settings_updateNotificationPreferences {payload : NotificationPrefsUpdate} :
    SettingsOfOthers c.user s (updateNotificationPreferences c s payload) := by
  unfold updateNotificationPreferences
  dsimp only
  split
  next hnone =>
    refine ⟨Table.agreeOn_insert (Table.get?_eq_none.mp hnone) ?_, .refl _ _⟩
    simp [NotificationPrefsUpdate.apply, defaultPreference]
  · -- The row under the user's key is the user's.
    exact ⟨agreeOn_modify_owned (f := payload.apply (c.now 0)) (fun _ => rfl)
      NotificationPreference.userId (fun _ hget => Table.key_of_get? hget) fun _ => rfl, .refl _ _⟩

theorem settings_createFavoriteVenue {venueId : Uuid}
    (h : createFavoriteVenue c s venueId = .ok s') : SettingsOfOthers c.user s s' := by
  simp only [createFavoriteVenue, bind_eq_ok, found_eq_ok] at h
  rcases h with ⟨-, -, h⟩
  split at h
  · rw [← (pure_eq_ok _ _).mp h]
    exact .of_eq rfl rfl
  next hnew =>
    rw [← (pure_eq_ok _ _).mp h]
    exact ⟨.refl _ _, Table.agreeOn_insert hnew (by simp)⟩

theorem settings_deleteFavoriteVenue {venueId : Uuid} :
    SettingsOfOthers c.user s (deleteFavoriteVenue c s venueId) := by
  refine ⟨.refl _ _, Table.agreeOn_erase fun f hget => ?_⟩
  have hkey : (f.userId, f.venueId) = (c.user, venueId) := Table.key_of_get? hget
  simp [(Prod.mk.inj hkey).1]

/-- **Settings.**  A call writes to the preferences and favorites of its caller only. -/
theorem exec_settingsOfOthers (h : exec rt c s op = .ok s') : SettingsOfOthers c.user s s' := by
  cases op with
  | updateNotificationPreferences payload =>
    cases h
    exact settings_updateNotificationPreferences
  | createFavoriteVenue venueId => exact settings_createFavoriteVenue h
  | deleteFavoriteVenue venueId =>
    cases h
    exact settings_deleteFavoriteVenue
  | createVenue payload =>
    obtain ⟨r, hr, rfl⟩ := (map_eq_ok _ _ _).mp h
    obtain ⟨-, hnew, features, featureLinks, hr'⟩ := createVenue_eq_ok hr
    rw [hr']
    exact .of_eq rfl rfl
  | updateRoomLayout roomId payload =>
    obtain ⟨seats, flag, -, rfl⟩ := updateRoomLayout_eq_ok h
    exact .of_eq rfl rfl
  | _ =>
    have hrecords := exec_recordsOnly h trivial
    exact .of_eq hrecords.notificationPreferences hrecords.favoriteVenues

/-- **One call** leaves the records and settings of all other users alone. -/
theorem othersUntouched_step (hs : PaymentsOwned s) (e : Event) :
    OthersUntouched e.call.user s (step rt s e) := by
  refine ⟨(step_effect rt s e).recordsOfOthers hs, ?_⟩
  cases h : exec rt e.call s e.op with
  | ok s' => exact step_of_ok h ▸ exec_settingsOfOthers h
  | error err =>
    have hsame : step rt s e = s := by simp [step, h]
    rw [hsame]
    exact .of_eq rfl rfl

/-! ## §5 Reading -/

/-- Two stores have the same bookings, payments and notifications of a user. -/
structure OwnRowsAgree (user : Uuid) (s s' : Store) : Prop where
  bookings : ∀ b : Booking, b.userId = user → (b ∈ s.bookings ↔ b ∈ s'.bookings)
  transactions : ∀ t : Transaction, t.userId = user → (t ∈ s.transactions ↔ t ∈ s'.transactions)
  notifications : (s.notifications.filter fun n => n.userId = user).Perm
    (s'.notifications.filter fun n => n.userId = user)

/-- The reading endpoints answer the call alike in two stores. -/
structure SameAnswers (db : Database) (c : Call) (s s' : Store) : Prop where
  getBooking : ∀ id, getBooking c s id = getBooking c s' id
  listBookings : ∀ status dateFrom dateTo query,
    listBookings db c s status dateFrom dateTo query =
      listBookings db c s' status dateFrom dateTo query
  listBookingHistory : ∀ query, listBookingHistory db c s query = listBookingHistory db c s' query
  getPayment : ∀ id, getPayment c s id = getPayment c s' id
  listNotifications : ∀ status query,
    listNotifications db c s status query = listNotifications db c s' status query

theorem OwnRowsAgree.bookingOf? (h : OwnRowsAgree user s s') (id : Uuid) :
    s.bookingOf? id user = s'.bookingOf? id user := by
  refine Option.ext fun b => ?_
  simp only [Store.bookingOf?_eq_some, Table.get?_eq_some]
  exact and_congr_left fun hb => and_congr_left fun _ => h.bookings b hb

theorem OwnRowsAgree.transactionOf? (h : OwnRowsAgree user s s') (id : Uuid) :
    s.transactionOf? id user = s'.transactionOf? id user := by
  refine Option.ext fun t => ?_
  simp only [Store.transactionOf?_eq_some, Table.get?_eq_some]
  exact and_congr_left fun ht => and_congr_left fun _ => h.transactions t ht

/-- A statement about the user's bookings selects the same rows. -/
theorem OwnRowsAgree.perm_bookings (h : OwnRowsAgree user s s') {p : Booking → Bool}
    (hp : ∀ b, p b = true → b.userId = user) :
    (s.bookings.rows.filter p).Perm (s'.bookings.rows.filter p) := by
  refine (List.perm_ext_iff_of_nodup (s.bookings.keysNodup.of_map.filter _)
    (s'.bookings.keysNodup.of_map.filter _)).mpr fun b => ?_
  rw [List.mem_filter, List.mem_filter]
  exact and_congr_left fun hb => h.bookings b (hp b hb)

/-- A statement about the user's notifications, too. -/
theorem OwnRowsAgree.perm_notifications (h : OwnRowsAgree user s s') {p : Notification → Prop}
    [DecidablePred p] :
    (s.notifications.filter fun n => n.userId = user ∧ p n).Perm
      (s'.notifications.filter fun n => n.userId = user ∧ p n) := by
  have hsplit : ∀ rows : List Notification, (rows.filter fun n => n.userId = user ∧ p n) =
      (rows.filter fun n => n.userId = user).filter fun n => p n := by
    intro rows
    rw [List.filter_filter]
    exact List.filter_congr fun n _ => by simp [Bool.and_comm]
  rw [hsplit, hsplit]
  exact h.notifications.filter _

/-- **Reading.**  The answers depend on the rows of the caller only. -/
theorem OwnRowsAgree.sameAnswers {db : Database} (h : OwnRowsAgree c.user s s') :
    SameAnswers db c s s' where
  getBooking := fun id => by rw [Coworking.getBooking, h.bookingOf? id, Coworking.getBooking]
  listBookings := fun _ _ _ _ =>
    answer_congr (h.perm_bookings fun _ hb => (of_decide_eq_true hb).1)
  listBookingHistory := fun _ =>
    answer_congr (h.perm_bookings fun _ hb => (of_decide_eq_true hb).1)
  getPayment := fun id => by rw [Coworking.getPayment, h.transactionOf? id, Coworking.getPayment]
  listNotifications := fun _ _ => answer_congr h.perm_notifications

/-! ## §6 Runs -/

/-- **Users are isolated.**  Take any state that a run reaches from a store whose payments are for
bookings of the users who paid them.  Whatever a user calls there, with whatever ids, the holds,
bookings, check-ins, payments, notifications, preferences and favorites of everyone else stay as
they are; and what a user reads is the same in any two stores with the same rows of that user. -/
theorem records_isolated {x y : State} {es : List Event} (howned : PaymentsOwned x.store)
    (hrun : Run (SerialStep rt) x es y) :
    (∀ e, OthersUntouched e.call.user y.store (step rt y.store e)) ∧
      ∀ db c s s', OwnRowsAgree c.user s s' → SameAnswers db c s s' :=
  ⟨fun e => othersUntouched_step (howned.run hrun) e, fun _ _ _ _ h => h.sameAnswers⟩

/-- User 7 books, pays and is refunded.  User 8 cannot cancel the booking, and reads what they
would read in a store without it. -/
theorem records_isolated_smallPayments :
    OthersUntouched 8 (replay .plain smallStore smallPayments)
      (step .plain (replay .plain smallStore smallPayments) ⟨.plain 8 4, .cancelBooking 1⟩) ∧
    SameAnswers .plain (.plain 8 4) smallStore (replay .plain smallStore smallPayments) := by
  have howned : PaymentsOwned smallStore := fun t ht => ((Table.mem_empty t).mp ht).elim
  obtain ⟨huntouched, hsame⟩ := records_isolated howned smallPayments_run
  refine ⟨huntouched ⟨.plain 8 4, .cancelBooking 1⟩, hsame .plain (.plain 8 4) _ _ ?_⟩
  -- Nothing in either store is user 8's.
  have hbookings : ∀ b ∈ (replay .plain smallStore smallPayments).bookings.rows, b.userId ≠ 8 := by
    decide +kernel
  have htransactions : ∀ t ∈ (replay .plain smallStore smallPayments).transactions.rows,
      t.userId ≠ 8 := by
    decide +kernel
  have hnotifications : ((replay .plain smallStore smallPayments).notifications.filter
      fun n => n.userId = 8) = [] := by
    decide +kernel
  refine ⟨fun b hb => ?_, fun t ht => ?_, ?_⟩
  · exact iff_of_false (Table.mem_empty b).mp fun hmem => hbookings b hmem hb
  · exact iff_of_false (Table.mem_empty t).mp fun hmem => htransactions t hmem ht
  · show ([] : List Notification).Perm
      ((replay .plain smallStore smallPayments).notifications.filter fun n => n.userId = 8)
    rw [hnotifications]

end Coworking
