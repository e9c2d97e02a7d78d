import Coworking.System.Concurrent
import Coworking.System.HoldGuarantee

/-!
# Requests that are Decided Alike

A window is asked for in three ways: it is held, booked, or a booking is moved there.  When the
clock stands still the three ask the same of the store.

- `Grantable`: the resource resolves, the window is admissible and nobody claims it;
- `createHold_eq_ok_iff`, `createBooking_eq_ok_iff`: a hold or a booking is made exactly then;
- `held_iff_booked`: so a window can be held exactly when it can be booked;
- `unclaimed_cancelled_iff`: a cancelled booking is in nobody's way, nor is a booking in its own;
- `reschedule_iff_rebook`: so a move is a cancellation followed by a booking.
-/

namespace Coworking

open Foundation

variable {rt : Runtime} {c c' : Call} {s s' : Store} {now : Instant} {rows : RowChoice}

/-! ## §1 Holds and bookings -/

/-- The booking request with the fields of a hold request, and no hold. -/
def HoldCreateRequest.booking (p : HoldCreateRequest) : BookingCreateRequest where
  level := p.level
  seatId := p.seatId
  roomId := p.roomId
  venueId := p.venueId
  holdId := none
  startTime := p.startTime
  endTime := p.endTime

/-- The request resolves to the resource and the window, which is admissible and unclaimed. -/
structure Grantable (rt : Runtime) (rows : RowChoice) (now : Instant) (s : Store)
    (p : HoldCreateRequest) (ctx : ResourceContext) (start stop : Instant) : Prop where
  startTime : p.startTime.instant? = some start
  endTime : p.endTime.instant? = some stop
  resolves : Resolves s p.level p.seatId p.roomId p.venueId ctx
  admissible : Admissible rt rows s ctx now start stop
  unclaimed : Unclaimed now s ctx start stop none none

/-- The clock stands still during the call. -/
def Call.At (c : Call) (now : Instant) : Prop := ∀ n, c.now n = now

/-- What a hold writes. -/
def heldDraft (rows : RowChoice) (now : Instant) (s : Store) (userId : Uuid) (ctx : ResourceContext)
    (start stop : Instant) : HoldDraft :=
  ⟨ctx.slot userId start stop,
    min start (now + seconds (holdTtlSeconds (resolveBookingRule rows s ctx)))⟩

/-- What a booking without a hold writes. -/
def bookedDraft (rows : RowChoice) (s : Store) (userId : Uuid) (ctx : ResourceContext)
    (start stop : Instant) : BookingDraft where
  slot := ctx.slot userId start stop
  holdId := none
  status := initialStatus (requiresPayment (resolveBookingRule rows s ctx))
  priceAmountCents := 0
  priceCurrency := "RUB"

/-- **When a hold is made**, at a standing clock. -/
theorem createHold_eq_ok_iff (hc : c.At now) {p : HoldCreateRequest} {r : Store × Hold} :
    createHold rt c s p = .ok r ↔ ∃ ctx start stop,
      Grantable rt c.rows now s p ctx start stop ∧
        r = commitHold rt s (heldDraft c.rows now s c.user ctx start stop) := by
  rw [createHold_eq_ok]
  constructor
  · rintro ⟨d, hd, rfl⟩
    obtain ⟨start, stop, ctx, hstart, hstop, hres, hadm, hfree, rfl⟩ := checkHold_eq_ok.mp hd
    rw [hc 0] at hadm ⊢
    rw [hc 1] at hfree
    exact ⟨ctx, start, stop, ⟨hstart, hstop, hres, hadm, hfree⟩, rfl⟩
  · rintro ⟨ctx, start, stop, h, rfl⟩
    refine ⟨_, checkHold_eq_ok.mpr ⟨start, stop, ctx, h.startTime, h.endTime, h.resolves, ?_, ?_,
      rfl⟩, ?_⟩
    · rw [hc 0]
      exact h.admissible
    · rw [hc 1]
      exact h.unclaimed
    · rw [hc 0]
      rfl

/-- **When a booking is made** without a hold, at a standing clock. -/
theorem createBooking_eq_ok_iff (hc : c.At now) {p : HoldCreateRequest} {r : Store × Booking} :
    createBooking rt c s p.booking = .ok r ↔ ∃ ctx start stop,
      Grantable rt c.rows now s p ctx start stop ∧
        r = commitBooking rt now s (bookedDraft c.rows s c.user ctx start stop) := by
  rw [createBooking_eq_ok, hc 3]
  constructor
  · rintro ⟨d, hd, rfl⟩
    obtain ⟨start, stop, ctx, hstart, hstop, hres, hadm, -, hfree, rfl⟩ := checkBooking_eq_ok.mp hd
    rw [hc 0] at hadm
    rw [hc 2] at hfree
    exact ⟨ctx, start, stop, ⟨hstart, hstop, hres, hadm, hfree⟩, rfl⟩
  · rintro ⟨ctx, start, stop, h, rfl⟩
    refine ⟨_, checkBooking_eq_ok.mpr ⟨start, stop, ctx, h.startTime, h.endTime, h.resolves, ?_,
      fun _ => nofun, ?_, rfl⟩, rfl⟩
    · rw [hc 0]
      exact h.admissible
    · rw [hc 2]
      exact h.unclaimed

/-- A request is granted for one resource and window at most. -/
theorem Grantable.unique {p : HoldCreateRequest} {ctx ctx' : ResourceContext}
    {start stop start' stop' : Instant} (h : Grantable rt rows now s p ctx start stop)
    (h' : Grantable rt rows now s p ctx' start' stop') :
    ctx = ctx' ∧ start = start' ∧ stop = stop' :=
  ⟨h.resolves.unique h'.resolves, Option.mem_unique h.startTime h'.startTime,
    Option.mem_unique h.endTime h'.endTime⟩

/-- **A window can be held exactly when it can be booked.**  For any store, user, instant and
request, with the same rows for the rule queries; each adds the row that it answers with, and the
two rows have the same resource and window. -/
theorem held_iff_booked (hc : c.At now) (hc' : c'.At now) (huser : c'.user = c.user)
    (hrows : c'.rows = c.rows) (p : HoldCreateRequest) :
    (Returns (createHold rt c s p) ↔ Returns (createBooking rt c' s p.booking)) ∧
    ∀ held booked, createHold rt c s p = .ok held → createBooking rt c' s p.booking = .ok booked →
      held.1.holds.rows = s.holds.rows ++ [held.2] ∧
      booked.1.bookings.rows = s.bookings.rows ++ [booked.2] ∧
      held.2.toSlot = booked.2.toSlot := by
  constructor
  · constructor
    · rintro ⟨r, hr⟩
      obtain ⟨ctx, start, stop, h, -⟩ := (createHold_eq_ok_iff hc).mp hr
      exact ⟨_, (createBooking_eq_ok_iff hc').mpr ⟨ctx, start, stop, hrows ▸ h, rfl⟩⟩
    · rintro ⟨r, hr⟩
      obtain ⟨ctx, start, stop, h, -⟩ := (createBooking_eq_ok_iff hc').mp hr
      exact ⟨_, (createHold_eq_ok_iff hc).mpr ⟨ctx, start, stop, hrows ▸ h, rfl⟩⟩
  · intro held booked hheld hbooked
    obtain ⟨ctx, start, stop, h, rfl⟩ := (createHold_eq_ok_iff hc).mp hheld
    obtain ⟨ctx', start', stop', h', rfl⟩ := (createBooking_eq_ok_iff hc').mp hbooked
    obtain ⟨rfl, rfl, rfl⟩ := h.unique (hrows ▸ h')
    refine ⟨rfl, rfl, ?_⟩
    show ctx.slot c.user start stop = ctx.slot c'.user start stop
    rw [huser]

/-- Seat `A1` can be held, so it can be booked. -/
theorem held_iff_booked_seat :
    ∃ held booked, createHold .plain (.plain 7 0) smallStore smallHold = .ok held ∧
      createBooking .plain (.plain 7 0) smallStore smallHold.booking = .ok booked ∧
      held.1.holds.rows = [held.2] ∧ booked.1.bookings.rows = [booked.2] ∧
      held.2.toSlot = booked.2.toSlot := by
  obtain ⟨hiff, hrows⟩ :=
    held_iff_booked (fun _ => rfl : (Call.plain 7 0).At 0) (fun _ => rfl) rfl rfl smallHold
  have hheld : createHold .plain (.plain 7 0) smallStore smallHold = .ok _ := rfl
  obtain ⟨booked, hbooked⟩ := hiff.mp ⟨_, hheld⟩
  exact ⟨_, booked, hheld, hbooked, hrows _ booked hheld hbooked⟩

/-! ## §2 A booking out of the way -/

/-- On the same tree the conflict filters are the same. -/
theorem SameTree.conflictFilter (h : SameTree s s') (ctx : ResourceContext) (slot : Slot) :
    conflictFilter s' ctx slot = conflictFilter s ctx slot := by
  unfold Coworking.conflictFilter
  rw [h.rooms, h.seats]

theorem SameTree.symm (h : SameTree s s') : SameTree s' s :=
  ⟨h.venues.symm, h.rooms.symm, h.seats.symm, h.roomHours.symm, h.bookingRules.symm⟩

/-- **A cancelled booking is in nobody's way**, as a booking that moves is not in its own. -/
theorem unclaimed_cancelled_iff {id : Uuid} {p : BookingPatch} {ctx : ResourceContext}
    {start stop : Instant} (htree : SameTree s s') (hholds : s'.holds = s.holds)
    (hbookings : s'.bookings = (s.updateBooking id p).bookings)
    (hcancelled : p.status = some .cancelled) :
    Unclaimed now s' ctx start stop none none ↔ Unclaimed now s ctx start stop (some id) none := by
  constructor
  · intro h
    refine ⟨fun b hb hblocking hov hfilter => ?_, fun x hx hlive hov hfilter => ?_⟩
    · by_contra hne
      -- Any other booking is still there after the cancellation.
      have hb' : b ∈ s'.bookings := by
        rw [hbookings]
        exact mem_updateBooking.mpr ⟨b, hb, (if_neg fun he => hne (congrArg some he)).symm⟩
      exact nomatch h.bookings b hb' hblocking hov (htree.conflictFilter ctx _ ▸ hfilter)
    · exact h.holds x (hholds ▸ hx) hlive hov (htree.conflictFilter ctx _ ▸ hfilter)
  · intro h
    refine ⟨fun b hb hblocking hov hfilter => ?_, fun x hx hlive hov hfilter => ?_⟩
    · rw [hbookings] at hb
      obtain ⟨b₀, hb₀, rfl⟩ := mem_updateBooking.mp hb
      rw [htree.conflictFilter] at hfilter
      by_cases hid : b₀.id = id
      · -- The cancelled row does not block.
        rw [if_pos hid, BookingPatch.apply_status, hcancelled] at hblocking
        cases hblocking
      · rw [if_neg hid] at hblocking hov hfilter
        exact (hid (Option.some.inj (h.bookings b₀ hb₀ hblocking hov hfilter))).elim
    · exact h.holds x (hholds ▸ hx) hlive hov (htree.conflictFilter ctx _ ▸ hfilter)

/-- The request for the resource of a booking in another window. -/
def Booking.rebooking (b : Booking) (window : BookingWindowUpdateRequest) :
    HoldCreateRequest where
  level := b.level
  seatId := (resourceKwargsForLevel b.toSlot).1
  roomId := (resourceKwargsForLevel b.toSlot).2.1
  venueId := (resourceKwargsForLevel b.toSlot).2.2
  startTime := window.startTime
  endTime := window.endTime

/-- What `cancel_booking` does to a booking that is not cancelled. -/
structure CancelsOnly (s : Store) (id : Uuid) (s' : Store) : Prop where
  tree : SameTree s s'
  holds : s'.holds = s.holds
  bookings : ∃ p : BookingPatch, p.status = some .cancelled ∧
    s'.bookings = (s.updateBooking id p).bookings

theorem cancelBooking_cancelsOnly {b : Booking} (hget : s.bookings.get? b.id = some b)
    (huser : b.userId = c.user) (hstatus : b.status = .pending ∨ b.status = .confirmed) :
    ∃ s', cancelBooking c s b.id = .ok s' ∧ CancelsOnly s b.id s' := by
  have howned : s.bookingOf? b.id c.user = some b := Store.bookingOf?_eq_some.mpr ⟨hget, huser⟩
  have hne : b.status ≠ .cancelled := by
    rcases hstatus with h | h
    · rw [h]
      decide
    · rw [h]
      decide
  refine ⟨_, cancelBooking_eq_ok.mpr ⟨_, checkCancel_eq_ok.mpr ⟨b, howned, rfl⟩, rfl⟩, ?_⟩
  rw [if_neg hne]
  exact ⟨⟨rfl, rfl, rfl, rfl, rfl⟩, rfl, _, dirty_eq_some.mpr ⟨hne, rfl⟩, rfl⟩

/-! ## §3 Moving and rebooking -/

/-- A booking in that status blocks that slot. -/
def Store.Blocks (s : Store) (slot : Slot) (status : BookingStatus) : Prop :=
  ∃ b ∈ s.bookings, b.status.blocking ∧ b.toSlot = slot ∧ b.status = status

/-- The store after a move of a booking and the store after its cancellation and a new booking
block the same slots, and differ from the store before in these two bookings only. -/
structure Rebooked (s : Store) (id : Uuid) (moved : Store) (rebooked : Store × Booking) :
    Prop where
  blocks : ∀ slot status, moved.Blocks slot status ↔ rebooked.1.Blocks slot status
  holdsMoved : moved.holds = s.holds
  holdsRebooked : rebooked.1.holds = s.holds
  fresh : s.bookings.get? rebooked.2.id = none
  othersMoved : ∀ k, k ≠ id → moved.bookings.get? k = s.bookings.get? k
  othersRebooked : ∀ k, k ≠ id → k ≠ rebooked.2.id →
    rebooked.1.bookings.get? k = s.bookings.get? k

/-- The booking is in that status and blocks that slot. -/
def Booking.Fills (b : Booking) (slot : Slot) (status : BookingStatus) : Prop :=
  b.status.blocking ∧ b.toSlot = slot ∧ b.status = status

/-- What the other bookings block. -/
def Store.OthersBlock (s : Store) (id : Uuid) (slot : Slot) (status : BookingStatus) : Prop :=
  ∃ b ∈ s.bookings, b.id ≠ id ∧ b.Fills slot status

/-- After an update: what the others block, and what the new row does. -/
theorem blocks_update_iff {id : Uuid} {p : BookingPatch} {b : Booking} {slot : Slot}
    {status : BookingStatus} (hget : s.bookings.get? id = some b)
    (hupdate : s'.bookings = (s.updateBooking id p).bookings) :
    s'.Blocks slot status ↔ s.OthersBlock id slot status ∨ (p.apply b).Fills slot status := by
  have hb : b.id = id := Table.key_of_get? hget
  constructor
  · rintro ⟨x, hx, hfills⟩
    rw [hupdate] at hx
    obtain ⟨x₀, hx₀, rfl⟩ := mem_updateBooking.mp hx
    by_cases hid : x₀.id = id
    · -- Two rows with one id are one row.
      obtain rfl : x₀ = b := Table.key_injective hx₀ (Table.mem_of_get? hget) (hid.trans hb.symm)
      rw [if_pos hid] at hfills
      exact .inr hfills
    · rw [if_neg hid] at hfills
      exact .inl ⟨x₀, hx₀, hid, hfills⟩
  · rintro (⟨x, hx, hid, hfills⟩ | hfills)
    · refine ⟨x, ?_, hfills⟩
      rw [hupdate]
      exact mem_updateBooking.mpr ⟨x, hx, (if_neg hid).symm⟩
    · refine ⟨p.apply b, ?_, hfills⟩
      rw [hupdate]
      exact mem_updateBooking.mpr ⟨b, Table.mem_of_get? hget, (if_pos hb).symm⟩

/-- After an insert: what was blocked before, and what the new row does. -/
theorem blocks_insert_iff {new : Booking} {hnew : Keyed.key new ∉ s.bookings.keys} {slot : Slot}
    {status : BookingStatus} (hinsert : s'.bookings = s.bookings.insert new hnew) :
    s'.Blocks slot status ↔ s.Blocks slot status ∨ new.Fills slot status := by
  constructor
  · rintro ⟨x, hx, hfills⟩
    rw [hinsert] at hx
    rcases Table.mem_insert.mp hx with hold | rfl
    · exact .inl ⟨x, hold, hfills⟩
    · exact .inr hfills
  · rintro (⟨x, hx, hfills⟩ | hfills)
    · refine ⟨x, ?_, hfills⟩
      rw [hinsert]
      exact Table.mem_insert.mpr (.inl hx)
    · refine ⟨new, ?_, hfills⟩
      rw [hinsert]
      exact Table.mem_insert.mpr (.inr rfl)

/-- The two stores, from what is written to them. -/
theorem rebooked_of_writes {moved cancelled rebooked : Store} {id : Uuid} {p q : BookingPatch}
    {b new : Booking} {hnew : Keyed.key new ∉ cancelled.bookings.keys}
    (hget : s.bookings.get? id = some b) (hholds : moved.holds = s.holds)
    (hmoved : moved.bookings = (s.updateBooking id p).bookings)
    (hcancelled : cancelled.bookings = (s.updateBooking id q).bookings)
    (hstatus : q.status = some .cancelled) (hrebooked : rebooked.holds = s.holds)
    (hinsert : rebooked.bookings = cancelled.bookings.insert new hnew)
    (hslot : (p.apply b).toSlot = new.toSlot) (hsame : (p.apply b).status = new.status) :
    Rebooked s id moved (rebooked, new) where
  blocks := fun slot status => by
    -- The cancelled row blocks nothing; the moved row and the new one block the same.
    have hnone : ¬ (q.apply b).Fills slot status := by
      rintro ⟨hblocking, -⟩
      rw [BookingPatch.apply_status, hstatus] at hblocking
      cases hblocking
    rw [blocks_update_iff hget hmoved, blocks_insert_iff hinsert,
      blocks_update_iff hget hcancelled, or_iff_left hnone, Booking.Fills, Booking.Fills, hslot,
      hsame]
  holdsMoved := hholds
  holdsRebooked := hrebooked
  fresh := by
    have hnone : cancelled.bookings.get? new.id = none := Table.get?_eq_none.mpr hnew
    rw [hcancelled, get?_updateBooking, Option.map_eq_none_iff] at hnone
    exact hnone
  othersMoved := fun k hk => by
    rw [hmoved, get?_updateBooking]
    simp [hk]
  othersRebooked := fun k hk hne => by
    have hkey : Keyed.key new ≠ k := fun he => hne he.symm
    rw [hinsert, Table.get?_insert, if_neg hkey, hcancelled, get?_updateBooking]
    simp [hk]

/-- A window is admissible on the same tree. -/
theorem SameTree.admissible_iff (h : SameTree s s') {ctx : ResourceContext} {start stop : Instant} :
    Admissible rt rows s' ctx now start stop ↔ Admissible rt rows s ctx now start stop :=
  ⟨fun ha => ha.grows h.symm.grows, fun ha => ha.grows h.grows⟩

/-- What a move writes to a booking. -/
def movedPatch (rows : RowChoice) (s : Store) (b : Booking) (ctx : ResourceContext)
    (start stop : Instant) : BookingPatch where
  startTime := dirty b.startTime start
  endTime := dirty b.endTime stop
  status := dirty b.status (initialStatus (requiresPayment (resolveBookingRule rows s ctx)))

/-- **When a booking is moved**, at a standing clock: when its resource and the window are grantable
once it is cancelled. -/
theorem checkReschedule_iff_grantable (hc : c.At now) {b : Booking}
    (hget : s.bookings.get? b.id = some b) (huser : b.userId = c.user)
    (hstatus : b.status = .pending ∨ b.status = .confirmed) (hcancel : CancelsOnly s b.id s')
    (rt : Runtime) (window : BookingWindowUpdateRequest) (u : BookingUpdate) :
    checkReschedule rt c s b.id window = .ok u ↔ ∃ ctx start stop,
      Grantable rt c.rows now s' (b.rebooking window) ctx start stop ∧
        u = ⟨b.id, c.user, movedPatch c.rows s b ctx start stop, "booking_rescheduled"⟩ := by
  have howned : s.bookingOf? b.id c.user = some b := Store.bookingOf?_eq_some.mpr ⟨hget, huser⟩
  obtain ⟨htree, hholds, p, hp, hbookings⟩ := hcancel
  rw [checkReschedule_eq_ok]
  constructor
  · rintro ⟨b', start, stop, ctx, howned', -, hstart, hstop, hres, hadm, hfree, rfl⟩
    obtain rfl : b' = b := Option.mem_unique howned' howned
    rw [hc 0] at hadm
    rw [hc 2] at hfree
    exact ⟨ctx, start, stop, ⟨hstart, hstop, hres.grows htree.grows, htree.admissible_iff.mpr hadm,
      (unclaimed_cancelled_iff htree hholds hbookings hp).mpr hfree⟩, rfl⟩
  · rintro ⟨ctx, start, stop, h, rfl⟩
    refine ⟨b, start, stop, ctx, howned, hstatus, h.startTime, h.endTime,
      h.resolves.grows htree.symm.grows, ?_, ?_, rfl⟩
    · rw [hc 0]
      exact htree.admissible_iff.mp h.admissible
    · rw [hc 2]
      exact (unclaimed_cancelled_iff htree hholds hbookings hp).mp h.unclaimed

/-- **A move is a cancellation and a booking.**  In every reached state, for every booking that its
user may move, every window and every instant: the move succeeds exactly if, after a cancellation,
a booking of the same resource in that window does, and both ways end in stores that block the same
slots and leave everything else as it was. -/
theorem reschedule_iff_rebook {w x : State} {es : List Event} {b : Booking}
    {window : BookingWindowUpdateRequest} (hempty : Unreserved w.store)
    (hreached : Run (SerialStep rt) w es x) (hget : x.store.bookings.get? b.id = some b)
    (hstatus : b.status = .pending ∨ b.status = .confirmed) (huser : b.userId = c.user)
    (hc : c.At now) :
    ∃ cancelled, cancelBooking c x.store b.id = .ok cancelled ∧
      (Returns (rescheduleBooking rt c x.store b.id window) ↔
        Returns (createBooking rt c cancelled (b.rebooking window).booking)) ∧
      ∀ moved rebooked, rescheduleBooking rt c x.store b.id window = .ok moved →
        createBooking rt c cancelled (b.rebooking window).booking = .ok rebooked →
        Rebooked x.store b.id moved rebooked := by
  obtain ⟨cancelled, hok, hcancel⟩ := cancelBooking_cancelsOnly hget huser hstatus
  have hiff := checkReschedule_iff_grantable hc hget huser hstatus hcancel rt window
  -- Either way the request is decided by the windows that the cancelled store could grant.
  refine ⟨cancelled, hok, ⟨?_, ?_⟩, fun moved rebooked hmoved hrebooked => ?_⟩
  · rintro ⟨moved, hmoved⟩
    obtain ⟨u, hu, -⟩ := rescheduleBooking_eq_ok.mp hmoved
    obtain ⟨ctx, start, stop, h, -⟩ := (hiff u).mp hu
    exact ⟨_, (createBooking_eq_ok_iff hc).mpr ⟨ctx, start, stop, h, rfl⟩⟩
  · rintro ⟨rebooked, hrebooked⟩
    obtain ⟨ctx, start, stop, h, -⟩ := (createBooking_eq_ok_iff hc).mp hrebooked
    exact ⟨_, rescheduleBooking_eq_ok.mpr ⟨_, (hiff _).mpr ⟨ctx, start, stop, h, rfl⟩, rfl⟩⟩
  · obtain ⟨u, hu, rfl⟩ := rescheduleBooking_eq_ok.mp hmoved
    obtain ⟨ctx, start, stop, h, rfl⟩ := (hiff u).mp hu
    obtain ⟨ctx', start', stop', h', rfl⟩ := (createBooking_eq_ok_iff hc).mp hrebooked
    -- A request is granted in one way at most, so both rows are for the same window.
    obtain ⟨rfl, rfl, rfl⟩ := h.unique h'
    obtain ⟨htree, hholds, p, hp, hbookings⟩ := hcancel
    have hsound : Sound x.store := hempty.sound.run hreached
    have hres : b.toSlot.ResolvesTo x.store ctx := h.resolves.grows htree.symm.grows
    refine rebooked_of_writes (p := movedPatch c.rows x.store b ctx start stop) hget rfl rfl
      hbookings hp hholds (commitBooking_bookings rt now cancelled _) ?_ ?_
    · rw [reschedule_toSlot hsound (Table.mem_of_get? hget) hres (dirty_getD b.startTime start)
        (dirty_getD b.endTime stop), huser]
      rfl
    · rw [BookingPatch.apply_status]
      show (dirty b.status _).getD b.status = initialStatus _
      rw [dirty_getD, htree.grows.sameRule]

/-- User 7 books seat `A1` from ten to eleven. -/
def bookSeat : List Event := [⟨.plain 7 0, .createBooking (smallBooking none)⟩]

/-- The row of that booking. -/
def seatBooking : Booking := (bookedDraft .first smallStore 7
  ⟨.seat, 1, some 2, some 3, "UTC", ⟨rfl, rfl⟩⟩ (minutes 600) (minutes 660)).row 1

/-- From eleven to twelve. -/
def nextHour : BookingWindowUpdateRequest := ⟨.ofInstant (minutes 660), .ofInstant (minutes 720)⟩

/-- The store with that booking. -/
def bookedStore : Store := replay .plain smallStore bookSeat

theorem reschedule_iff_rebook_nextHour :
    ∃ cancelled, cancelBooking (.plain 7 0) bookedStore 1 = .ok cancelled ∧
      (Returns (rescheduleBooking .plain (.plain 7 0) bookedStore 1 nextHour) ↔
        Returns (createBooking .plain (.plain 7 0) cancelled
          (seatBooking.rebooking nextHour).booking)) ∧
      ∀ moved rebooked,
        rescheduleBooking .plain (.plain 7 0) bookedStore 1 nextHour = .ok moved →
        createBooking .plain (.plain 7 0) cancelled (seatBooking.rebooking nextHour).booking =
          .ok rebooked →
        Rebooked bookedStore 1 moved rebooked :=
  reschedule_iff_rebook (b := seatBooking) smallStore_unreserved
    ((by decide : InOrder 0 bookSeat).run smallStore) rfl (.inr rfl) rfl fun _ => rfl

end Coworking
