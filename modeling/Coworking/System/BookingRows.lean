import Coworking.System.Records

/-!
# Booking Rows

What is known about a booking lies in three places: its status, its `cancelled_at`, and the
table of check-ins.  Seven operations of three services write to them.

- `Booking.Consistent`: the three places agree, and the window is not empty;
- `ConsistentRows.effect`, `ConsistentRows.run`: every operation and every run keeps it so;
- `createCheckin_ne_integrity`: among such rows a check-in meets no unique violation;
- `booking_rows_consistent`: both, in every reached state.
-/

namespace Coworking

open Foundation

variable {rt : Runtime} {c : Call} {s s' : Store} {op : Op}

/-! ## §1 Consistent rows -/

/-- The status of a booking agrees with its time stamp and with the keys of the check-ins. -/
structure Booking.Consistent (b : Booking) (s : Store) : Prop where
  cancelledAt : b.cancelledAt.isSome ↔ b.status = .cancelled
  checkedIn : b.status = .checkedIn → b.id ∈ s.checkins.keys
  notYet : b.status = .pending ∨ b.status = .confirmed → b.id ∉ s.checkins.keys
  ordered : b.startTime < b.endTime
  /-- No operation writes EXPIRED, NO_SHOW or COMPLETED. -/
  written : b.status.blocking ∨ b.status = .cancelled

/-- `checkins.booking_id REFERENCES bookings.id`. -/
def CheckinsRefer (s : Store) : Prop := ∀ k ∈ s.checkins.keys, k ∈ s.bookings.keys

structure ConsistentRows (s : Store) : Prop where
  rows : ∀ b ∈ s.bookings, b.Consistent s
  refer : CheckinsRefer s

theorem Booking.Consistent.congr {b : Booking} (h : b.Consistent s)
    (hkeys : b.id ∈ s'.checkins.keys ↔ b.id ∈ s.checkins.keys) : b.Consistent s' :=
  { h with
    checkedIn := fun hs => hkeys.mpr (h.checkedIn hs)
    notYet := fun hs hmem => h.notYet hs (hkeys.mp hmem) }

/-- A booking that waits to be checked in is pending or confirmed. -/
theorem Booking.Consistent.active {b : Booking} (h : b.Consistent s)
    (hcancelled : b.status ≠ .cancelled) (hchecked : b.status ≠ .checkedIn) :
    b.status = .pending ∨ b.status = .confirmed := by
  have hwritten := h.written
  cases hs : b.status <;> simp_all [BookingStatus.blocking]

/-- Only a cancelled booking has a time stamp. -/
theorem Booking.Consistent.unstamped {b : Booking} (h : b.Consistent s)
    (hstatus : b.status ≠ .cancelled) : b.cancelledAt = none := by
  cases hat : b.cancelledAt with
  | none => rfl
  | some t => exact absurd (h.cancelledAt.mp (by rw [hat]; rfl)) hstatus

/-! ## §2 One lemma per kind of write -/

/-- Nothing was written to either table. -/
theorem ConsistentRows.of_eq (hs : ConsistentRows s) (hb : s'.bookings = s.bookings)
    (hk : s'.checkins = s.checkins) : ConsistentRows s' where
  rows := fun b hmem => (hs.rows b (hb ▸ hmem)).congr (by rw [hk])
  refer := by
    unfold CheckinsRefer
    rw [hb, hk]
    exact hs.refer

theorem initialStatus_active (needsPayment : Bool) :
    initialStatus needsPayment = .pending ∨ initialStatus needsPayment = .confirmed := by
  cases needsPayment
  · exact .inr rfl
  · exact .inl rfl

/-- The facts about the status, of a booking that may still be checked in. -/
theorem Booking.Consistent.of_active {b : Booking}
    (hstatus : b.status = .pending ∨ b.status = .confirmed) (hat : b.cancelledAt = none)
    (hkey : b.id ∉ s.checkins.keys) (hordered : b.startTime < b.endTime) : b.Consistent s := by
  have hne : b.status ≠ .cancelled ∧ b.status ≠ .checkedIn ∧ b.status.blocking := by
    rcases hstatus with hs | hs <;> rw [hs] <;> exact ⟨nofun, nofun, rfl⟩
  obtain ⟨hcancelled, hchecked, hblocking⟩ := hne
  refine ⟨⟨fun h => ?_, fun h => absurd h hcancelled⟩, fun h => absurd h hchecked, fun _ => hkey,
    hordered, .inl hblocking⟩
  rw [hat] at h
  cases h

/-- A booking was inserted. -/
theorem ConsistentRows.inserted {d : BookingDraft} (hs : ConsistentRows s)
    (hstatus : d.status = .pending ∨ d.status = .confirmed)
    (hordered : d.slot.startTime < d.slot.endTime) (hk : s'.checkins = s.checkins)
    (hb : s'.bookings =
      s.bookings.insert (d.row (rt.fresh s.bookings)) (d.row_fresh rt s.bookings)) :
    ConsistentRows s' where
  rows := fun b hmem => by
    rw [hb, Table.mem_insert] at hmem
    rcases hmem with hold | rfl
    · exact (hs.rows b hold).congr (by rw [hk])
    · -- No check-in can refer to the new key, which no booking had.
      refine .of_active hstatus rfl (fun hkey => rt.fresh_notMem s.bookings ?_) hordered
      exact hs.refer _ (hk ▸ hkey)
  refer := fun k hkey => by
    rw [hb, Table.mem_keys_insert]
    exact .inl (hs.refer k (hk ▸ hkey))

/-- A booking was updated, and perhaps checked in. -/
theorem ConsistentRows.patched {k : Uuid} {p : BookingPatch} (hs : ConsistentRows s)
    (hb : s'.bookings = (s.updateBooking k p).bookings)
    (hkeys : ∀ l, l ≠ k → (l ∈ s'.checkins.keys ↔ l ∈ s.checkins.keys))
    (hrow : ∀ b, s.bookings.get? k = some b → b.Consistent s → (p.apply b).Consistent s')
    (hrefer : k ∈ s'.checkins.keys → k ∈ s.bookings.keys) : ConsistentRows s' where
  rows := fun b hmem => by
    rw [hb] at hmem
    obtain ⟨b₀, hmem₀, rfl⟩ := mem_updateBooking.mp hmem
    by_cases hk : b₀.id = k
    · subst hk
      rw [if_pos rfl]
      exact hrow b₀ (Table.get?_of_mem hmem₀) (hs.rows b₀ hmem₀)
    · rw [if_neg hk]
      exact (hs.rows b₀ hmem₀).congr (hkeys b₀.id hk)
  refer := fun l hl => by
    rw [hb, Store.updateBooking, Table.keys_modify]
    by_cases hk : l = k
    · exact hk ▸ hrefer (hk ▸ hl)
    · exact hs.refer l ((hkeys l hk).mp hl)

/-- A booking was updated, and the check-ins were left alone. -/
theorem ConsistentRows.updated {k : Uuid} {p : BookingPatch} (hs : ConsistentRows s)
    (hb : s'.bookings = (s.updateBooking k p).bookings) (hk : s'.checkins = s.checkins)
    (hrow : ∀ b, s.bookings.get? k = some b → b.Consistent s → (p.apply b).Consistent s) :
    ConsistentRows s' :=
  hs.patched hb (fun _ _ => by rw [hk]) (fun b hget hcons => (hrow b hget hcons).congr (by rw [hk]))
    fun hkey => hs.refer k (hk ▸ hkey)

/-! ## §3 The row that is updated -/

/-- A move: the row is as active as before, in a new window. -/
theorem Booking.Consistent.moved {b : Booking} {start stop : Instant} {needsPayment : Bool}
    (h : b.Consistent s) (hstatus : b.status = .pending ∨ b.status = .confirmed)
    (hordered : start < stop) :
    (BookingPatch.apply
      { startTime := dirty b.startTime start
        endTime := dirty b.endTime stop
        status := dirty b.status (initialStatus needsPayment) } b).Consistent s := by
  have hat : b.cancelledAt = none :=
    h.unstamped (by rcases hstatus with hs | hs <;> rw [hs] <;> nofun)
  refine .of_active ?_ (by rw [BookingPatch.apply]; exact hat) (h.notYet hstatus) ?_
  · rw [BookingPatch.apply_status, dirty_getD]
    exact initialStatus_active needsPayment
  · simpa only [BookingPatch.apply, dirty_getD] using hordered

/-- A cancellation stamps the row and leaves its check-in where it is. -/
theorem Booking.Consistent.cancelled {b : Booking} {now : Instant} (h : b.Consistent s) :
    (BookingPatch.apply { status := dirty b.status .cancelled, cancelledAt := some now }
      b).Consistent s := by
  have hstatus : (BookingPatch.apply
      { status := dirty b.status .cancelled, cancelledAt := some now } b).status = .cancelled := by
    rw [BookingPatch.apply_status, dirty_getD]
  exact
    { cancelledAt := ⟨fun _ => hstatus, fun _ => rfl⟩
      checkedIn := fun hs => nomatch hstatus.symm.trans hs
      notYet := fun hs => by rcases hs with hs | hs <;> exact nomatch hstatus.symm.trans hs
      ordered := h.ordered
      written := .inr hstatus }

/-- A check-in. -/
theorem Booking.Consistent.arrived {b : Booking} (h : b.Consistent s)
    (hcancelled : b.status ≠ .cancelled) (hkey : b.id ∈ s'.checkins.keys) :
    (BookingPatch.apply { status := some .checkedIn } b).Consistent s' where
  cancelledAt := ⟨fun hat => absurd (h.cancelledAt.mp hat) hcancelled, nofun⟩
  checkedIn := fun _ => hkey
  notYet := by
    rintro (hs | hs)
    · cases hs
    · cases hs
  ordered := h.ordered
  written := .inl rfl

/-- A payment confirms a pending row and leaves any other alone. -/
theorem Booking.Consistent.confirmed {b : Booking} (h : b.Consistent s) :
    (b.status.confirm.apply b).Consistent s := by
  by_cases hs : b.status = .pending
  · have hat : b.cancelledAt = none := h.unstamped (by rw [hs]; nofun)
    rw [hs]
    exact .of_active (.inr rfl) hat (h.notYet (.inl hs)) h.ordered
  · rw [BookingStatus.confirm_of_ne hs]
    exact h

/-! ## §4 Operations and runs -/

/-- **Every operation keeps the rows consistent.** -/
theorem ConsistentRows.effect (hs : ConsistentRows s) (h : Effect rt c s op s') :
    ConsistentRows s' := by
  cases h with
  | holdCreated _ => exact hs.of_eq rfl rfl
  | holdCancelled _ _ => exact hs.of_eq rfl rfl
  | bookingCreated _ hd =>
    obtain ⟨start, stop, ctx, -, -, -, hadm, -, -, rfl⟩ := checkBooking_eq_ok.mp hd
    exact hs.inserted (initialStatus_active _) hadm.ordered rfl rfl
  | rescheduled hu =>
    obtain ⟨b, start, stop, ctx, howned, hstatus, -, -, -, hadm, -, rfl⟩ :=
      checkReschedule_eq_ok.mp hu
    obtain ⟨rfl, hget⟩ := get?_of_bookingOf? howned
    refine hs.updated (k := b.id) rfl rfl fun b' hget' hcons => ?_
    obtain rfl : b' = b := Option.mem_unique hget' hget
    exact hcons.moved hstatus hadm.ordered
  | cancelled hu =>
    obtain ⟨b, howned, hr⟩ := checkCancel_eq_ok.mp hu
    obtain ⟨rfl, hget⟩ := get?_of_bookingOf? howned
    by_cases hcancelled : b.status = .cancelled
    · rw [if_pos hcancelled] at hr
      cases hr
    · -- Only the first cancellation writes.
      rw [if_neg hcancelled, Option.some.injEq] at hr
      subst hr
      refine hs.updated (k := b.id) rfl rfl fun b' hget' hcons => ?_
      obtain rfl : b' = b := Option.mem_unique hget' hget
      exact hcons.cancelled
  | checkedIn hnew hd =>
    obtain ⟨b, haccepted, rfl⟩ := checkCheckin_eq_ok.mp hd
    obtain ⟨rfl, hget⟩ := get?_of_bookingOf? haccepted.owned
    -- One key is new, and it is that of the booking.
    have hkeys : ∀ k, k ∈ (s.checkins.insert _ hnew).keys ↔ k ∈ s.checkins.keys ∨ k = b.id :=
      fun k => Table.mem_keys_insert
    refine hs.patched (k := b.id) rfl (fun k hk => (hkeys k).trans (or_iff_left hk))
      (fun b' hget' hcons => ?_) fun _ => ?_
    · obtain rfl : b' = b := Option.mem_unique hget' hget
      exact hcons.arrived haccepted.notCancelled ((hkeys b'.id).mpr (.inr rfl))
    · exact Table.mem_keys.mpr ⟨b, Table.mem_of_get? hget, rfl⟩
  | paid hd =>
    obtain ⟨b, howned, -, hid, -, -, hpatch⟩ := checkPayment_eq_ok hd
    obtain ⟨hbid, hget⟩ := get?_of_bookingOf? howned
    refine hs.updated rfl rfl fun b' hget' hcons => ?_
    obtain rfl : b' = b := Option.some.inj (hget'.symm.trans (by rw [hid, ← hbid]; exact hget))
    -- A payment confirms the booking if it is pending, and leaves it alone if not.
    rw [hpatch]
    exact hcons.confirmed
  | captured ht hcaptured hrefunded hr =>
    obtain ⟨-, hr⟩ := capturePayment_of_uncaptured ht hcaptured hrefunded hr
    rw [hr]
    refine hs.updated rfl rfl fun b' hget' hcons => ?_
    rw [confirmBooking, hget']
    exact hcons.confirmed
  | refunded _ => exact hs.of_eq rfl rfl
  | unchanged => exact hs
  | elsewhere hsame _ => exact hs.of_eq hsame.bookings hsame.checkins

/-- Every store a run reaches from consistent rows has consistent rows. -/
theorem ConsistentRows.run {x y : State} {es : List Event} (hs : ConsistentRows x.store)
    (h : Run (SerialStep rt) x es y) : ConsistentRows y.store :=
  h.invariant (I := fun x => ConsistentRows x.store)
    (fun _ _ _ hs hstep => hs.effect hstep.effect) hs

/-- The guards of a check-in raise no integrity error; only its insert can. -/
theorem createCheckin_eq_integrity {bookingId : Uuid} {payload : CheckinRequest}
    (h : createCheckin c s bookingId payload = .error .integrity) :
    ∃ b, CheckinAccepted c s bookingId payload b ∧ bookingId ∈ s.checkins.keys := by
  rw [createCheckin, bind_eq_error] at h
  rcases h with hguards | ⟨d, hd, hcommit⟩
  · simp only [checkCheckin, bind_eq_error, raiseIf_eq_error, found_eq_error, pure_ne_error,
      reduceCtorEq, and_false, or_false, exists_false] at hguards
  · obtain ⟨b, haccepted, rfl⟩ := checkCheckin_eq_ok.mp hd
    exact ⟨b, haccepted, (commitCheckin_eq_error.mp hcommit).1⟩

/-- **No unique violation.**  A booking that passes the guards of a check-in has no check-in. -/
theorem createCheckin_ne_integrity (hs : ConsistentRows s) (c : Call) (bookingId : Uuid)
    (payload : CheckinRequest) : createCheckin c s bookingId payload ≠ .error .integrity := by
  intro h
  obtain ⟨b, haccepted, hkey⟩ := createCheckin_eq_integrity h
  obtain ⟨rfl, hget⟩ := get?_of_bookingOf? haccepted.owned
  have hcons := hs.rows b (Table.mem_of_get? hget)
  -- What the guards let through is pending or confirmed, and such a booking has no row yet.
  exact hcons.notYet (hcons.active haccepted.notCancelled haccepted.notCheckedIn) hkey

/-! ## §5 Reached states -/

/-- A booking and its check-in rows. -/
structure ConsistentRow (s : Store) (b : Booking) : Prop where
  cancelledAt : b.cancelledAt.isSome ↔ b.status = .cancelled
  atMostOne : ∀ k ∈ s.checkins, ∀ l ∈ s.checkins, k.bookingId = b.id → l.bookingId = b.id → k = l
  exactlyOne : b.status = .checkedIn → ∃! k, k ∈ s.checkins ∧ k.bookingId = b.id
  none : b.status = .pending ∨ b.status = .confirmed → ∀ k ∈ s.checkins, k.bookingId ≠ b.id
  ordered : b.startTime < b.endTime

theorem Booking.Consistent.row {b : Booking} (h : b.Consistent s) : ConsistentRow s b := by
  have hunique : ∀ k ∈ s.checkins, ∀ l ∈ s.checkins, k.bookingId = b.id → l.bookingId = b.id →
      k = l := fun k hk l hl hkb hlb => Table.key_injective hk hl (hkb.trans hlb.symm)
  refine
    { cancelledAt := h.cancelledAt
      atMostOne := hunique
      exactlyOne := fun hs => ?_
      none := fun hs k hk hkb => h.notYet hs (Table.mem_keys.mpr ⟨k, hk, hkb⟩)
      ordered := h.ordered }
  obtain ⟨k, hk, hkb⟩ := Table.mem_keys.mp (h.checkedIn hs)
  exact ⟨k, ⟨hk, hkb⟩, fun l ⟨hl, hlb⟩ => hunique l hl k hk hlb hkb⟩

/-- A store without bookings, and so without check-ins. -/
theorem ConsistentRows.of_empty (hempty : ∀ b, b ∉ s.bookings) (hrefer : CheckinsRefer s) :
    ConsistentRows s :=
  ⟨fun b hb => absurd hb (hempty b), hrefer⟩

/-- **Booking rows stay consistent.**  In every state a serial run reaches from a store without
bookings, the status of every booking agrees with its time stamp and with its check-in rows, its
window is not empty, and no check-in, whoever asks for it, violates the unique constraint. -/
theorem booking_rows_consistent {x y : State} {es : List Event}
    (hempty : ∀ b, b ∉ x.store.bookings) (hrefer : CheckinsRefer x.store)
    (hrun : Run (SerialStep rt) x es y) :
    (∀ b ∈ y.store.bookings, ConsistentRow y.store b) ∧
      ∀ c bookingId payload, createCheckin c y.store bookingId payload ≠ .error .integrity := by
  have hrows : ConsistentRows y.store := (ConsistentRows.of_empty hempty hrefer).run hrun
  exact ⟨fun b hb => (hrows.rows b hb).row, createCheckin_ne_integrity hrows⟩

/-- User 7 books seat `A1`, checks in, and cancels afterwards. -/
def arriveAndCancel : List Event :=
  [⟨.plain 7 0, .createBooking (smallBooking none)⟩,
    ⟨.plain 7 1, .createCheckin 1 ⟨.manual, none, none, none⟩⟩, ⟨.plain 7 2, .cancelBooking 1⟩]

theorem booking_rows_consistent_arrival :
    (∀ b ∈ (replay .plain smallStore arriveAndCancel).bookings,
      ConsistentRow (replay .plain smallStore arriveAndCancel) b) ∧
    ∀ c bookingId payload,
      createCheckin c (replay .plain smallStore arriveAndCancel) bookingId payload ≠
        .error .integrity :=
  have hrun : Run (SerialStep .plain) ⟨0, smallStore⟩ arriveAndCancel
      ⟨2, replay .plain smallStore arriveAndCancel⟩ :=
    (by decide : InOrder 0 arriveAndCancel).run smallStore
  booking_rows_consistent smallStore_unreserved.bookings (fun k hk => absurd hk List.not_mem_nil)
    hrun

end Coworking
