import Coworking.System.CancelRace
import Coworking.System.Exclusivity

/-!
# Bookings that Race

The conflict query of `create_hold`, `create_booking` and `reschedule_booking` sees what has
committed when it runs.  No constraint, lock or isolation level looks again when the request
commits, so two requests that both find a slot free both take it.

- `Undisturbed`: nothing that contends with the request has committed since it read;
- `exclusive_of_commit`: such a commit is a sequence of calendar moves;
- `no_double_booking_of_undisturbed`: interleavings of such requests never book twice;
- `seat_booked_twice`: two users on one seat.
-/

namespace Coworking

open Foundation

variable {rt : Runtime} {x y : State} {t : RequestTicket}

/-! ## §1 The tree under interleaved requests -/

theorem SameTree.within {s s' : Store} (h : SameTree s s') {a b : Resource} (hw : s'.Within a b) :
    s.Within a b := by
  refine Relation.ReflTransGen.mono (fun a b hp => ?_) _ _ hw
  cases hp with
  | seat hseat => exact .seat (by rw [Store.seat?, ← h.seats]; exact hseat)
  | room hroom => exact .room (by rw [Store.room?, ← h.rooms]; exact hroom)

/-- Rows that contend on the same tree contend. -/
theorem SameTree.contend {s s' : Store} (h : SameTree s s') {a b : Slot} (hc : s'.Contend a b) :
    s.Contend a b := by
  rcases hc with ⟨r₁, r₂, h₁, h₂, hrel, hov⟩
  exact ⟨r₁, r₂, h₁, h₂, hrel.imp h.within h.within, hov⟩

/-! ## §2 Undisturbed requests -/

/-- The slot a request asks for, and the booking it moves there. -/
inductive Asks (s : Store) (r : Request) : Slot → Option Uuid → Prop
  | hold {payload : HoldCreateRequest} {ctx : ResourceContext} {start stop : Instant} :
      r.body = .createHold payload → payload.startTime.instant? = some start →
      payload.endTime.instant? = some stop →
      Resolves s payload.level payload.seatId payload.roomId payload.venueId ctx →
      Asks s r (ctx.slot r.call.user start stop) none
  | booking {payload : BookingCreateRequest} {ctx : ResourceContext} {start stop : Instant} :
      r.body = .createBooking payload → payload.startTime.instant? = some start →
      payload.endTime.instant? = some stop →
      Resolves s payload.level payload.seatId payload.roomId payload.venueId ctx →
      Asks s r (ctx.slot r.call.user start stop) none
  | move {bookingId : Uuid} {payload : BookingWindowUpdateRequest} {b : Booking}
      {ctx : ResourceContext} {start stop : Instant} :
      r.body = .rescheduleBooking bookingId payload → payload.startTime.instant? = some start →
      payload.endTime.instant? = some stop → s.bookings.get? bookingId = some b →
      b.toSlot.ResolvesTo s ctx → Asks s r (ctx.slot b.userId start stop) (some bookingId)

/-- Nothing that matters to the request has changed since it read. -/
structure Undisturbed (rt : Runtime) (x : State) (t : RequestTicket) : Prop where
  /-- Whatever contends with the slot it asks for was there when it read. -/
  slot : ∀ slot own, Asks t.seen.store t.request slot own →
    ∀ k a, x.store.calendar x.now k = some a → (∀ id, own = some id → k ≠ .booking id) →
      x.store.Contend slot a → t.seen.store.calendar x.now k = some a
  /-- An end of the window that a move keeps is still the end of the window. -/
  kept : ∀ bookingId payload b b', t.request.body = .rescheduleBooking bookingId payload →
    t.seen.store.bookings.get? bookingId = some b → x.store.bookings.get? bookingId = some b' →
      (payload.startTime.instant? = some b.startTime → b'.startTime = b.startTime) ∧
      (payload.endTime.instant? = some b.endTime → b'.endTime = b.endTime)
  /-- A booking that a payment or a check-in writes to still has its slot. -/
  blocking : ∀ id b, WritesStatus rt id t.seen.store t.request →
    (∀ payload, t.request.body ≠ .rescheduleBooking id payload) →
    x.store.bookings.get? id = some b → b.status.blocking

/-- The move is not a commit of a disturbed request. -/
def CommitsUndisturbed (rt : Runtime) (k : RequestConfig) (m : RequestMove) : Prop :=
  ∀ t, m = .commit t → Undisturbed rt k.shared t

/-! ## §3 One commit -/

/-- What the commit of a request does to the holds and bookings of a store. -/
inductive CommitChange (rt : Runtime) (t : RequestTicket) (s : Store) : Store → Prop
  | held {payload : HoldCreateRequest} {d : HoldDraft} {s' : Store} :
      t.request.body = .createHold payload →
      checkHold rt t.request.call t.seen.store payload = .ok d →
      s'.holds = s.holds.insert (d.row (rt.fresh s.holds)) (d.row_fresh rt s.holds) →
      s'.bookings = s.bookings → CommitChange rt t s s'
  | booked {payload : BookingCreateRequest} {d : BookingDraft} {s' : Store} :
      t.request.body = .createBooking payload →
      checkBooking rt t.request.call t.seen.store payload = .ok d →
      s'.holds = convertHold s.holds d.holdId →
      s'.bookings =
        s.bookings.insert (d.row (rt.fresh s.bookings)) (d.row_fresh rt s.bookings) →
      CommitChange rt t s s'
  | moved {bookingId : Uuid} {payload : BookingWindowUpdateRequest} {u : BookingUpdate}
      {s' : Store} :
      t.request.body = .rescheduleBooking bookingId payload →
      checkReschedule rt t.request.call t.seen.store bookingId payload = .ok u →
      t.plan.patchOf bookingId = u.patch → s'.holds = s.holds →
      s'.bookings = (s.updateBooking bookingId u.patch).bookings → CommitChange rt t s s'
  | patched {id : Uuid} {p : BookingPatch} {s' : Store} :
      (∀ payload, t.request.body ≠ .rescheduleBooking id payload) → t.plan.patchOf id = p →
      p.startTime = none → p.endTime = none → s'.holds = s.holds →
      s'.bookings = (s.updateBooking id p).bookings → CommitChange rt t s s'
  | untouched {s' : Store} : s'.holds = s.holds → s'.bookings = s.bookings → CommitChange rt t s s'

/-- **Inversion of a commit.** -/
theorem Commits.change (ht : StandingTicket rt t x) (hcommit : Commits rt x t.request t.plan y) :
    CommitChange rt t x.store y.store := by
  rcases t with ⟨⟨c, body⟩, seen, plan⟩
  rcases y with ⟨ynow, s'⟩
  have hdrafted : Drafted rt c seen.store body plan := ht.drafted
  have hstore : plan.commit rt (c.now (body.lastReading + 1)) x.store = .ok s' := hcommit.commit
  clear hcommit ht
  -- By the kind of draft; only a move writes to the hours of a booking that exists.
  cases hdrafted with
  | hold hd =>
    obtain rfl := Except.ok.inj hstore
    exact .held rfl hd rfl rfl
  | booking hd =>
    obtain rfl := Except.ok.inj hstore
    exact .booked rfl hd rfl rfl
  | move hu =>
    obtain rfl := Except.ok.inj hstore
    obtain ⟨b, start, stop, ctx, -, -, -, -, -, -, -, rfl⟩ := checkReschedule_eq_ok.mp hu
    exact .moved rfl hu (if_pos rfl) rfl rfl
  | cancel hu =>
    obtain rfl := Except.ok.inj hstore
    obtain ⟨b, -, hr⟩ := checkCancel_eq_ok.mp hu
    split at hr
    · cases hr
    · obtain rfl := Option.some.inj hr
      exact .patched (fun _ => nofun) (if_pos rfl) rfl rfl rfl rfl
  | checkin hd =>
    obtain ⟨_, rfl⟩ := commitCheckin_eq_ok.mp hstore
    obtain ⟨b, -, rfl⟩ := checkCheckin_eq_ok.mp hd
    exact .patched (fun _ => nofun) (if_pos rfl) rfl rfl rfl rfl
  | @payment payload d hd =>
    obtain rfl := Except.ok.inj hstore
    obtain ⟨b, -, -, -, -, -, hpatch⟩ := checkPayment_eq_ok hd
    have hp : (Draft.payment d).patchOf d.bookingId = d.patch := if_pos rfl
    refine .patched (fun _ => nofun) hp ?_ ?_ rfl rfl
    · rw [hpatch, BookingStatus.confirm_startTime]
    · rw [hpatch, BookingStatus.confirm_endTime]
  | refund hd =>
    obtain rfl := Except.ok.inj hstore
    exact .untouched rfl rfl

/-- The patch of a request leaves a sound row in a status the services write. -/
theorem StandingTicket.patch_status {id : Uuid} {b : Booking} (ht : StandingTicket rt t x)
    (hs : Sound x.store) (hget : x.store.bookings.get? id = some b) :
    ((t.plan.patchOf id).apply b).status.blocking ∨
      ((t.plan.patchOf id).apply b).status = .cancelled := by
  rw [BookingPatch.apply_status]
  cases hv : (t.plan.patchOf id).status with
  | none => exact hs.status b (Table.mem_of_get? hget)
  | some v => exact ht.drafted.patch_written hv

/-- **Commits keep stores sound**, disturbed or not. -/
theorem sound_of_commit (hs : Sound x.store) (ht : StandingTicket rt t x)
    (hcommit : Commits rt x t.request t.plan y) : Sound y.store := by
  -- The commit writes rows, not the tree; what decoded before still does.
  have hg : Grows x.store y.store := (t.plan.commit_sameTree hcommit.commit).grows
  -- The resource of the request resolves now as it did when the request read.
  have hseen : Grows t.seen.store x.store := ht.extends.tree.grows
  cases hcommit.change ht with
  | held _ hd hh hb =>
    obtain ⟨start, stop, ctx, -, -, hres, -, -, rfl⟩ := checkHold_eq_ok.mp hd
    refine .of_rows hg (hb ▸ hs.written) fun h hmem => ?_
    rw [hh] at hmem
    exact hs.decodes_insert ((hres.grows hseen).decodes _ start stop) hmem
  | booked _ hd hh hb =>
    obtain ⟨start, stop, ctx, -, -, hres, -, -, -, rfl⟩ := checkBooking_eq_ok.mp hd
    refine .of_rows hg (fun b hmem => ?_) fun h hmem => ?_
    · rw [hb] at hmem
      exact hs.written_insert ((hres.grows hseen).decodes _ start stop)
        (initialStatus_blocking _) hmem
    · rw [hh] at hmem
      exact hs.decodes_convertHold hmem
  | moved _ _ hp hh hb =>
    exact .of_rows hg (fun b hmem => hs.written_update
      (fun b' hget => hp ▸ ht.patch_status hs hget) (hb ▸ hmem)) (hh ▸ hs.holds)
  | patched _ hp _ _ hh hb =>
    exact .of_rows hg (fun b hmem => hs.written_update
      (fun b' hget => hp ▸ ht.patch_status hs hget) (hb ▸ hmem)) (hh ▸ hs.holds)
  | untouched hh hb => exact .of_rows hg (hb ▸ hs.written) (hh ▸ hs.holds)

/-- What an undisturbed request asks for clashes with nothing the conflict query did not see. -/
theorem Undisturbed.free {ctx : ResourceContext} {start stop : Instant} {userId : Uuid}
    {ownBooking ownHold own : Option Uuid} {n : Nat} (hs : Sound x.store)
    (ht : StandingTicket rt t x) (hu : Undisturbed rt x t)
    (hasks : Asks t.seen.store t.request (ctx.slot userId start stop) own)
    (hdecodes : (ctx.slot userId start stop).Decodes x.store)
    (hfree : Unclaimed (t.request.call.now n) t.seen.store ctx start stop ownBooking ownHold)
    (hn : n ≤ t.request.body.lastReading) {k : RecordId} {a : Slot}
    (hk : x.store.calendar x.now k = some a) (hown : ∀ id, own = some id → k ≠ .booking id)
    (hb : ∀ id, k = .booking id → some id ≠ ownBooking)
    (hh : ∀ id, k = .hold id → some id ≠ ownHold) :
    ¬ x.store.Contend (ctx.slot userId start stop) a := by
  intro hc
  have hread : t.request.call.now n ≤ x.now :=
    (t.request.call.now_mono hn).trans ht.reading_le
  -- The entry was there at the read, so the conflict query saw it.
  have hseen : t.seen.store.calendar (t.request.call.now n) k = some a :=
    calendar_later hread k a (hu.slot _ own hasks k a hk hown hc)
  exact hfree.not_clash hseen hb hh userId (hc.clash hdecodes (hs.decodes hk))

/-- The row of a moved booking, later, still is for the resource the move was checked for. -/
theorem Booking.Follows.resolvesTo {b b' : Booking} {ctx : ResourceContext} {s : Store}
    (hf : b.Follows b') (h : b.toSlot.ResolvesTo s ctx) : b'.toSlot.ResolvesTo s ctx := by
  unfold Booking.Follows at hf
  rw [hf]
  exact h

theorem Booking.Follows.userId {b b' : Booking} (hf : b.Follows b') : b'.userId = b.userId := by
  unfold Booking.Follows at hf
  rw [hf]

/-- Columns that a move left out still have the values it read, so the row gets the window that
was asked for. -/
theorem Undisturbed.moved_toSlot {bookingId : Uuid} {payload : BookingWindowUpdateRequest}
    {b b' : Booking} {ctx : ResourceContext} {start stop : Instant} {status : Option BookingStatus}
    (hs : Sound x.store) (hu : Undisturbed rt x t)
    (hbody : t.request.body = .rescheduleBooking bookingId payload)
    (hget : t.seen.store.bookings.get? bookingId = some b)
    (hget' : x.store.bookings.get? bookingId = some b') (hres : b'.toSlot.ResolvesTo x.store ctx)
    (hstart : payload.startTime.instant? = some start)
    (hstop : payload.endTime.instant? = some stop) :
    (BookingPatch.apply
      { startTime := dirty b.startTime start, endTime := dirty b.endTime stop, status } b').toSlot =
      ctx.slot b'.userId start stop := by
  obtain ⟨hkstart, hkstop⟩ := hu.kept _ _ b b' hbody hget hget'
  refine reschedule_toSlot hs (Table.mem_of_get? hget') hres ?_ ?_
  · exact dirty_getD_of fun he => hkstart (he ▸ hstart)
  · exact dirty_getD_of fun he => hkstop (he ▸ hstop)

/-- **One undisturbed commit.**  It keeps blocking bookings and live holds from contending. -/
theorem exclusive_of_commit (hs : Sound x.store) (ht : StandingTicket rt t x)
    (hu : Undisturbed rt x t) (hcommit : Commits rt x t.request t.plan y)
    (hx : Exclusive x.store.Contend (x.store.calendar x.now)) :
    Exclusive y.store.Contend (y.store.calendar y.now) := by
  have htree := t.plan.commit_sameTree hcommit.commit
  -- The calendar makes its moves under the relation as it was, which is the relation as it is.
  suffices hsteps : CalendarSteps x.store.Contend (x.store.calendar x.now)
      (y.store.calendar y.now) from
    (exclusive_of_steps Store.Contend.symm hsteps hx).weaken fun _ _ _ _ _ _ hc => htree.contend hc
  have hle : x.now ≤ y.now := hcommit.now_le
  have hback : Within (x.store.calendar y.now) (x.store.calendar x.now) := calendar_later hle
  have hseen : Grows t.seen.store x.store := ht.extends.tree.grows
  cases hcommit.change ht with
  | held hbody hd hh hb =>
    obtain ⟨start, stop, ctx, hstart, hstop, hres, -, hfree, rfl⟩ := checkHold_eq_ok.mp hd
    refine places_hold hle hh hb fun l b hl => ?_
    exact hu.free hs ht (.hold hbody hstart hstop hres) ((hres.grows hseen).decodes _ _ _) hfree
      (by rw [hbody]; exact le_rfl) (hback l b hl) (fun _ => nofun) (fun _ _ => nofun)
      (fun _ _ => nofun)
  | booked hbody hd hh hb =>
    obtain ⟨start, stop, ctx, hstart, hstop, hres, -, -, hfree, rfl⟩ := checkBooking_eq_ok.mp hd
    refine places_booking hle hh hb fun l b hl hne => ?_
    exact hu.free hs ht (.booking hbody hstart hstop hres) ((hres.grows hseen).decodes _ _ _) hfree
      (by rw [hbody]; exact le_rfl) (hback l b hl) (fun _ => nofun) (fun _ _ => nofun) hne
  | @moved bookingId payload _ _ hbody hmove _ hh hb =>
    obtain ⟨b, start, stop, ctx, howned, -, hstart, hstop, hres, -, hfree, rfl⟩ :=
      checkReschedule_eq_ok.mp hmove
    obtain ⟨rfl, hget⟩ := get?_of_bookingOf? howned
    obtain ⟨b', hget', hf⟩ := ht.extends.bookings _ b hget
    have hres' : b'.toSlot.ResolvesTo x.store ctx := hf.resolvesTo (hres.grows hseen)
    refine places_move (a := ctx.slot b.userId start stop) hle hh hb ?_ ?_
    · intro b'' hget''
      obtain rfl : b'' = b' := Option.mem_unique hget'' hget'
      rw [← hf.userId]
      exact hu.moved_toSlot hs hbody hget hget' hres' hstart hstop
    · intro l a hl ha
      refine hu.free hs ht (.move hbody hstart hstop hget hres) ?_ hfree ?_ (hback l a ha) ?_ ?_
        (fun _ _ => nofun)
      · exact (hres.grows hseen).decodes _ _ _
      · rw [hbody]
        exact le_rfl
      · rintro id ⟨⟩
        exact hl
      · rintro id rfl he
        exact hl (congrArg _ (Option.some.inj he))
  | @patched id p _ hbody hp hpstart hpstop hh hb =>
    refine .release (within_patch hle hpstart hpstop (fun b hget hbl => ?_) hh hb)
    rw [BookingPatch.apply_status] at hbl
    cases hv : p.status with
    | none =>
      rw [hv] at hbl
      exact hbl
    | some v =>
      -- A blocking status was written, over a row that still had its slot.
      rw [hv, Option.getD_some] at hbl
      have hne : v ≠ .cancelled := by
        rintro rfl
        cases hbl
      exact hu.blocking id b (ht.drafted.writesStatus (hp ▸ hv) hne) hbody hget
  | untouched hh hb => exact .release (calendar_eq hh hb ▸ calendar_later hle)

/-! ## §4 Interleavings -/

/-- Sound tables without contending claims, and requests in flight whose rows are still there. -/
structure Uncontended (rt : Runtime) (k : RequestConfig) : Prop where
  standing : (requests rt).AllStanding Extends k
  sound : Sound k.shared.store
  exclusive : Exclusive k.shared.store.Contend (k.shared.store.calendar k.shared.now)

theorem Uncontended.step {k k' : RequestConfig} {m : RequestMove} (h : Uncontended rt k)
    (hstep : Guarded (CommitsUndisturbed rt) (requests rt).Step k m k') : Uncontended rt k' := by
  rcases hstep with ⟨hguard, hstep⟩
  -- A read moves the clock only, an abort nothing.
  refine ⟨standing_step h.standing hstep, ?_, ?_⟩
  · cases hstep with
    | read hread => exact hread.store ▸ h.sound
    | abort => exact h.sound
    | commit hcommit =>
      exact sound_of_commit h.sound h.standing.inFlight hcommit
  · cases hstep with
    | read hread => exact hread.store ▸ h.exclusive.of_within (calendar_later hread.now_le)
    | abort => exact h.exclusive
    | @commit _ _ _ _ _ t hcommit =>
      exact exclusive_of_commit h.sound h.standing.inFlight (hguard t rfl) hcommit h.exclusive

/-- **No double booking under concurrency, when nobody is disturbed.**  Start with sound tables
without contending claims and let requests interleave in any way in which each commit finds
whatever contends with it as the request read it.  Then no state reached has contending claims,
then or later. -/
theorem no_double_booking_of_undisturbed {k : RequestConfig} {ms : List RequestMove} {now : Instant}
    (hsound : Sound x.store) (hstart : NoDoubleBooking x.store x.now)
    (hrun : Run (Guarded (CommitsUndisturbed rt) (requests rt).Step) (.start x) ms k)
    (hnow : k.shared.now ≤ now) : NoDoubleBooking k.shared.store now := by
  have hx : Uncontended rt (.start x) :=
    ⟨Protocol.allStanding_start x, hsound, noDoubleBooking_iff.mp hstart⟩
  have hk : Uncontended rt k := hrun.invariant (fun _ _ _ h hstep => h.step hstep) hx
  exact noDoubleBooking_iff.mpr (hk.exclusive.of_within (calendar_later hnow))

/-! ## §5 Two users on one seat -/

/-- What a user who books seat `A1` from ten to eleven has computed from the empty venue. -/
def seatDraft (user : Uuid) : BookingDraft :=
  ⟨⟨user, .seat, some 1, some 2, some 3, minutes 600, minutes 660⟩, none, .confirmed, 0, "RUB"⟩

def seatTicket (user : Uuid) : RequestTicket :=
  ⟨⟨.plain user 0, .createBooking (smallBooking none)⟩, ⟨0, smallStore⟩, .booking (seatDraft user)⟩

/-- The store after that user's commit. -/
def seatStore (s : Store) (user : Uuid) : Store := (commitBooking .plain 0 s (seatDraft user)).1

theorem seatTicket_reads (user : Uuid) : (requests .plain).reads ⟨0, smallStore⟩
    (seatTicket user).request (seatTicket user).plan ⟨0, smallStore⟩ :=
  ⟨le_rfl, le_rfl, rfl, rfl⟩

theorem seatTicket_commits (s : Store) (user : Uuid) : (requests .plain).commits ⟨0, s⟩
    (seatTicket user).request (seatTicket user).plan ⟨0, seatStore s user⟩ :=
  ⟨le_rfl, le_rfl, rfl⟩

theorem smallStore_noDoubleBooking : NoDoubleBooking smallStore 0 :=
  noDoubleBooking_iff.mpr fun k _ _ _ _ ha => by
    cases k with
    | booking id => obtain ⟨b, hget, -⟩ := calendar_booking.mp ha; cases hget
    | hold id => obtain ⟨h, hget, -⟩ := calendar_hold.mp ha; cases hget

/-- User 8 wants the hour that follows. -/
def hourAfter : BookingCreateRequest :=
  ⟨.seat, some 3, none, none, none, .ofInstant (minutes 660), .ofInstant (minutes 720)⟩

def hourAfterDraft : BookingDraft :=
  ⟨⟨8, .seat, some 1, some 2, some 3, minutes 660, minutes 720⟩, none, .confirmed, 0, "RUB"⟩

def hourAfterTicket : RequestTicket :=
  ⟨⟨.plain 8 0, .createBooking hourAfter⟩, ⟨0, smallStore⟩, .booking hourAfterDraft⟩

/-- The store when that request has committed first. -/
def hourAfterStore : Store := (commitBooking .plain 0 smallStore hourAfterDraft).1

/-- The one row of that store does not contend with the hour before. -/
theorem seatTicket_undisturbed : Undisturbed .plain ⟨0, hourAfterStore⟩ (seatTicket 7) where
  slot := by
    intro slot own hasks k a hk _ hcontend
    have ha : minutes 660 ≤ a.startTime := by
      cases k with
      | booking id =>
        obtain ⟨b, hget, -, rfl⟩ := calendar_booking.mp hk
        have hmem : b ∈ [hourAfterDraft.row 1] := Table.mem_of_get? hget
        rw [List.mem_singleton.mp hmem]
        exact le_rfl
      | hold id => obtain ⟨h, hget, -⟩ := calendar_hold.mp hk; cases hget
    have hslot : slot.endTime = minutes 660 := by
      cases hasks with
      | booking hbody _ hstop _ =>
        cases hbody
        exact (Option.some.inj hstop).symm
      | hold hbody => cases hbody
      | move hbody => cases hbody
    obtain ⟨-, -, -, -, -, hover⟩ := hcontend
    exact absurd (hslot ▸ hover.2) (not_lt.mpr ha)
  kept := fun _ _ _ _ => nofun
  blocking := fun _ _ hw => by cases hw <;> contradiction

/-- Both requests find the seat free before either commits, and neither disturbs the other. -/
theorem no_double_booking_of_undisturbed_hours :
    Run (Guarded (CommitsUndisturbed .plain) (requests .plain).Step) (.start ⟨0, smallStore⟩)
      [.read (seatTicket 7), .read hourAfterTicket, .commit hourAfterTicket, .commit (seatTicket 7)]
      ⟨⟨0, seatStore hourAfterStore 7⟩, [], [seatTicket 7, hourAfterTicket]⟩ ∧
    (seatStore hourAfterStore 7).bookings.rows.map
        (fun b => (b.userId, b.seatId, b.startTime, b.endTime)) =
      [(8, some 3, minutes 660, minutes 720), (7, some 3, minutes 600, minutes 660)] ∧
    NoDoubleBooking (seatStore hourAfterStore 7) 0 := by
  have hrun : Run (Guarded (CommitsUndisturbed .plain) (requests .plain).Step)
      (.start ⟨0, smallStore⟩)
      [.read (seatTicket 7), .read hourAfterTicket, .commit hourAfterTicket, .commit (seatTicket 7)]
      ⟨⟨0, seatStore hourAfterStore 7⟩, [], [seatTicket 7, hourAfterTicket]⟩ := by
    have hreads : Run (Guarded (CommitsUndisturbed .plain) (requests .plain).Step)
        (.start ⟨0, smallStore⟩) [.read (seatTicket 7), .read hourAfterTicket]
        ⟨⟨0, smallStore⟩, [hourAfterTicket, seatTicket 7], []⟩ :=
      .snoc (.single ⟨fun _ => nofun, .read (seatTicket_reads 7)⟩)
        ⟨fun _ => nofun, .read ⟨le_rfl, le_rfl, rfl, rfl⟩⟩
    have hfirst : (requests .plain).Step ⟨⟨0, smallStore⟩, [hourAfterTicket, seatTicket 7], []⟩
        (.commit hourAfterTicket) ⟨⟨0, hourAfterStore⟩, [seatTicket 7], [hourAfterTicket]⟩ :=
      .commit_last ⟨le_rfl, le_rfl, rfl⟩
    refine .snoc (.snoc hreads ⟨?_, hfirst⟩) ⟨?_, .commit_last (seatTicket_commits _ 7)⟩
    · rintro _ ⟨⟩
      exact
        { slot := fun _ _ _ _ _ hk _ _ => hk
          kept := fun _ _ _ _ => nofun
          blocking := fun _ _ hw => by cases hw <;> contradiction }
    · rintro _ ⟨⟩
      exact seatTicket_undisturbed
  exact ⟨hrun, by decide, no_double_booking_of_undisturbed smallStore_unreserved.sound
    smallStore_noDoubleBooking hrun le_rfl⟩

/-- Users 7 and 8 both find the seat free before either commits. -/
def seatMoves : List RequestMove :=
  [.read (seatTicket 7), .read (seatTicket 8), .commit (seatTicket 8), .commit (seatTicket 7)]

def seatTaken : RequestConfig :=
  ⟨⟨0, seatStore (seatStore smallStore 8) 7⟩, [], [seatTicket 7, seatTicket 8]⟩

/-- Both bookings of the same seat and hour are confirmed. -/
theorem seat_booked_twice :
    Run (requests .plain).Step (.start ⟨0, smallStore⟩) seatMoves seatTaken ∧
    seatTaken.shared.store.bookings.rows.map
        (fun b => (b.id, b.userId, b.status, b.seatId, b.startTime, b.endTime)) =
      [(1, 8, .confirmed, some 3, minutes 600, minutes 660),
        (2, 7, .confirmed, some 3, minutes 600, minutes 660)] ∧
    ¬ NoDoubleBooking seatTaken.shared.store 0 := by
  refine ⟨?_, by decide, fun h => ?_⟩
  · have hreads : Run (requests .plain).Step (.start ⟨0, smallStore⟩)
        [.read (seatTicket 7), .read (seatTicket 8)]
        ⟨⟨0, smallStore⟩, [seatTicket 8, seatTicket 7], []⟩ :=
      .snoc (.single (.read (seatTicket_reads 7))) (.read (seatTicket_reads 8))
    exact .snoc (.snoc hreads (.commit_last (seatTicket_commits smallStore 8)))
      (.commit_last (seatTicket_commits (seatStore smallStore 8) 7))
  · have h₈ : seatTaken.shared.store.bookings.get? 1 = some ((seatDraft 8).row 1) := rfl
    have h₇ : seatTaken.shared.store.bookings.get? 2 = some ((seatDraft 7).row 2) := rfl
    exact h.bookings _ (Table.mem_of_get? h₈) _ (Table.mem_of_get? h₇) (by decide) rfl rfl
      ⟨.seat 3, .seat 3, rfl, rfl, .refl _ _, by decide⟩

end Coworking
