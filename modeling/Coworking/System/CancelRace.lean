import Coworking.System.Concurrent

/-!
# Cancellations that Race

The guards of the services look at the status a request has loaded.  A payment of a pending
booking, a check-in and some moves write a status of their own, over whatever a cancellation
has committed in between.

- `WritesStatus`: the requests that write another status than CANCELLED, from what they saw;
- `cancellation_lasts_step`: the one move that undoes a committed cancellation;
- `cancellation_lasts_iff`: the interleavings along which cancellations last, exactly;
- `cancellation_lost`: a payment that was reading while the booking was cancelled.
-/

namespace Coworking

open Foundation

variable {rt : Runtime} {id : Uuid}

/-- The request, from the store it saw, writes a status other than CANCELLED to the booking. -/
inductive WritesStatus (rt : Runtime) (id : Uuid) (s : Store) (r : Request) : Prop
  /-- A payment confirms what it has read as pending. -/
  | payment {payload : PaymentCreateRequest} {b : Booking} :
      r.body = .createPayment payload → payload.bookingId = id → s.bookings.get? id = some b →
      b.status = .pending → WritesStatus rt id s r
  /-- A check-in always writes. -/
  | checkin {payload : CheckinRequest} :
      r.body = .createCheckin id payload → WritesStatus rt id s r
  /-- A move writes the initial status of a booking, where it differs from what it has read. -/
  | reschedule {payload : BookingWindowUpdateRequest} {b : Booking} {ctx : ResourceContext} :
      r.body = .rescheduleBooking id payload → s.bookings.get? id = some b →
      b.toSlot.ResolvesTo s ctx →
      b.status ≠ initialStatus (requiresPayment (resolveBookingRule r.call.rows s ctx)) →
      WritesStatus rt id s r

/-- A cancellation of the booking has committed. -/
def CancelCommitted (id : Uuid) (k : RequestConfig) : Prop :=
  ∃ t ∈ k.committed, t.request.body = .cancelBooking id

/-- Once a cancellation has committed, the booking is cancelled. -/
def CancellationLasts (id : Uuid) (k : RequestConfig) : Prop :=
  CancelCommitted id k →
    ∃ b, k.shared.store.bookings.get? id = some b ∧ b.status = .cancelled ∧ b.cancelledAt.isSome

/-- The move does not write another status to a booking whose cancellation has committed. -/
def HeedsCancellation (rt : Runtime) (id : Uuid) (k : RequestConfig) (m : RequestMove) : Prop :=
  ∀ t, m = .commit t → CancelCommitted id k → ¬ WritesStatus rt id t.seen.store t.request

/-! ## §1 What a request writes -/

/-- The requests that write another status write one that blocks. -/
theorem WritesStatus.patch {s : Store} {r : Request} {d : Draft} (hw : WritesStatus rt id s r)
    (h : Drafted rt r.call s r.body d) : ∃ v, (d.patchOf id).status = some v ∧ v.blocking := by
  rcases r with ⟨c, body⟩
  cases hw with
  | @payment payload b hbody hid hget hpending =>
    subst hbody
    cases h with
    | @payment _ d hd =>
      obtain ⟨b', hb', -, hbid, -, -, hpatch⟩ := checkPayment_eq_ok hd
      obtain ⟨hget', -⟩ := Store.bookingOf?_eq_some.mp hb'
      obtain rfl : b' = b := Option.some.inj (hget'.symm.trans (hid ▸ hget))
      -- The payment has read the booking PENDING, so it confirms it.
      refine ⟨.confirmed, ?_, rfl⟩
      rw [Draft.patchOf, if_pos (hbid.trans hid), hpatch, hpending]
      rfl
  | checkin hbody =>
    subst hbody
    cases h with
    | checkin hd =>
      obtain ⟨_, -, rfl⟩ := checkCheckin_eq_ok.mp hd
      refine ⟨.checkedIn, ?_, rfl⟩
      rw [Draft.patchOf, if_pos rfl]
  | @reschedule payload b ctx hbody hget hres hne =>
    subst hbody
    cases h with
    | move hu =>
      obtain ⟨b', start, stop, ctx', howned, -, -, -, hres', -, -, rfl⟩ :=
        checkReschedule_eq_ok.mp hu
      obtain ⟨hget', -⟩ := Store.bookingOf?_eq_some.mp howned
      obtain rfl : b' = b := Option.mem_unique hget' hget
      obtain rfl := hres.unique hres'
      refine ⟨initialStatus (requiresPayment (resolveBookingRule c.rows s ctx)), ?_,
        initialStatus_blocking _⟩
      rw [Draft.patchOf, if_pos rfl]
      exact dirty_eq_some.mpr ⟨hne, rfl⟩

/-- No other request writes a status other than CANCELLED. -/
theorem Drafted.writesStatus {s : Store} {r : Request} {d : Draft} {v : BookingStatus}
    (h : Drafted rt r.call s r.body d) (hv : (d.patchOf id).status = some v)
    (hne : v ≠ .cancelled) : WritesStatus rt id s r := by
  rcases r with ⟨c, body⟩
  -- Holds, bookings and refunds patch no booking; a cancellation writes CANCELLED.
  cases h with
  | hold => cases hv
  | booking => cases hv
  | refund => cases hv
  | @move bookingId payload u hu =>
    obtain ⟨b, start, stop, ctx, howned, -, -, -, hres, -, -, rfl⟩ := checkReschedule_eq_ok.mp hu
    obtain ⟨hget, -⟩ := Store.bookingOf?_eq_some.mp howned
    rw [Draft.patchOf] at hv
    split at hv
    next hid =>
      obtain rfl : bookingId = id := hid
      exact .reschedule rfl hget hres (dirty_eq_some.mp hv).1
    · cases hv
  | @cancel bookingId u hu =>
    obtain ⟨b, -, hr⟩ := checkCancel_eq_ok.mp hu
    split at hr
    · cases hr
    · obtain rfl := Option.some.inj hr
      rw [Draft.patchOf] at hv
      split at hv
      · exact (hne (dirty_eq_some.mp hv).2.symm).elim
      · cases hv
  | @checkin bookingId payload d hd =>
    obtain ⟨_, -, rfl⟩ := checkCheckin_eq_ok.mp hd
    by_cases hid : bookingId = id
    · subst hid
      exact .checkin rfl
    · rw [Draft.patchOf, if_neg hid] at hv
      cases hv
  | @payment payload d hd =>
    obtain ⟨b, hb, -, hbid, -, -, hpatch⟩ := checkPayment_eq_ok hd
    obtain ⟨hget, -⟩ := Store.bookingOf?_eq_some.mp hb
    rw [Draft.patchOf] at hv
    split at hv
    next hid =>
      refine .payment rfl (hbid.symm.trans hid) (hid ▸ hbid ▸ hget) ?_
      by_contra hpending
      rw [hpatch, BookingStatus.confirm_of_ne hpending] at hv
      cases hv
    · cases hv

/-- The statuses a draft writes are those the services write. -/
theorem Drafted.patch_written {s : Store} {r : Request} {d : Draft} {v : BookingStatus}
    (h : Drafted rt r.call s r.body d) (hv : (d.patchOf id).status = some v) :
    v.blocking ∨ v = .cancelled := by
  by_cases hne : v = .cancelled
  · exact .inr hne
  · obtain ⟨w, hw, hblocking⟩ := (h.writesStatus hv hne).patch h
    obtain rfl : v = w := Option.mem_unique hv hw
    exact .inl hblocking

/-- A cancellation writes the status and the time. -/
theorem Drafted.cancel_patch {c : Call} {s : Store} {d : Draft}
    (h : Drafted rt c s (.cancelBooking id) d) :
    (∃ b, s.bookings.get? id = some b) ∧ (d.patchOf id).status = some .cancelled ∧
      (d.patchOf id).cancelledAt.isSome := by
  cases h with
  | cancel hu =>
    obtain ⟨b, hb, hr⟩ := checkCancel_eq_ok.mp hu
    obtain ⟨hget, -⟩ := Store.bookingOf?_eq_some.mp hb
    split at hr
    · cases hr
    next hs =>
      obtain rfl := Option.some.inj hr
      rw [Draft.patchOf, if_pos rfl]
      exact ⟨⟨b, hget⟩, dirty_eq_some.mpr ⟨hs, rfl⟩, rfl⟩

/-! ## §2 One move -/

/-- A row that the patch leaves cancelled. -/
theorem BookingPatch.apply_cancelled {p : BookingPatch} {b : Booking}
    (hp : ∀ v, p.status = some v → v = .cancelled) (hb : b.status = .cancelled)
    (hat : b.cancelledAt.isSome) :
    (p.apply b).status = .cancelled ∧ (p.apply b).cancelledAt.isSome := by
  constructor
  · rw [BookingPatch.apply_status]
    cases hs : p.status with
    | none => exact hb
    | some v => exact hp v hs
  · show (p.cancelledAt <|> b.cancelledAt).isSome
    cases p.cancelledAt with
    | none => exact hat
    | some t => rfl

/-- **One move.**  Cancellations that lasted so far last exactly when the move does not write
another status over one that has committed. -/
theorem cancellation_lasts_step {k k' : RequestConfig} {m : RequestMove}
    (hstanding : (requests rt).AllStanding Extends k) (h : CancellationLasts id k)
    (hstep : (requests rt).Step k m k') :
    CancellationLasts id k' ↔ HeedsCancellation rt id k m := by
  cases hstep with
  | read hread =>
    have hstore := hread.store
    refine ⟨fun _ _ => nofun, fun _ hc => ?_⟩
    rw [hstore]
    exact h hc
  | abort => exact ⟨fun _ _ => nofun, fun _ hc => h hc⟩
  | @commit x y q₁ q₂ l t hcommit =>
    have ht : StandingTicket rt t x := hstanding.inFlight
    have hrow : ∀ b, x.store.bookings.get? id = some b →
        y.store.bookings.get? id = some ((t.plan.patchOf id).apply b) :=
      fun b => t.plan.get?_bookings hcommit.commit
    constructor
    · rintro hlasts _ ⟨⟩ ⟨u, hu, hcancel⟩ hwrites
      obtain ⟨b, hget, -, -⟩ := h ⟨u, hu, hcancel⟩
      obtain ⟨b', hget', hstatus, -⟩ := hlasts ⟨u, List.mem_cons_of_mem t hu, hcancel⟩
      obtain rfl := Option.some.inj ((hrow b hget).symm.trans hget')
      -- The status written is the one the row ends up with.
      obtain ⟨v, hv, hblocking⟩ := hwrites.patch ht.drafted
      rw [BookingPatch.apply_status, hv, Option.getD_some] at hstatus
      rw [hstatus] at hblocking
      cases hblocking
    · rintro hheeds ⟨u, hu, hcancel⟩
      rcases List.mem_cons.mp hu with rfl | hu
      · -- The move is the cancellation itself: its row is still there.
        obtain ⟨⟨b₀, hb₀⟩, hstatus, hat⟩ := Drafted.cancel_patch (hcancel ▸ ht.drafted)
        obtain ⟨b, hget, -⟩ := ht.extends.bookings id b₀ hb₀
        refine ⟨_, hrow b hget, ?_, ?_⟩
        · rw [BookingPatch.apply_status, hstatus, Option.getD_some]
        · obtain ⟨at_, hat⟩ := Option.isSome_iff_exists.mp hat
          show ((u.plan.patchOf id).cancelledAt <|> b.cancelledAt).isSome
          rw [hat]
          rfl
      · obtain ⟨b, hget, hstatus, hat⟩ := h ⟨u, hu, hcancel⟩
        refine ⟨_, hrow b hget, BookingPatch.apply_cancelled (fun v hv => ?_) hstatus hat⟩
        by_contra hne
        exact hheeds t rfl ⟨u, hu, hcancel⟩ (ht.drafted.writesStatus hv hne)

/-! ## §3 Interleavings -/

/-- **Cancellations under concurrency.**  Let any requests interleave, from any state.  Once a
cancellation of the booking has committed, the booking is cancelled in every later state if and
only if no request then writes the status it has computed from an earlier read. -/
theorem cancellation_lasts_iff {x : State} {k : RequestConfig} {ms : List RequestMove} :
    Run (Keeping (CancellationLasts id) (requests rt).Step) (.start x) ms k ↔
      Run (Guarded (HeedsCancellation rt id) (requests rt).Step) (.start x) ms k :=
  Run.keeping_iff_guarded_of
    (fun _ _ _ hstanding h hstep => cancellation_lasts_step hstanding h hstep)
    (fun _ _ _ => standing_step) (Protocol.allStanding_start x) (fun ⟨_, ht, _⟩ => nomatch ht)

/-! ## §4 A payment and a cancellation -/

/-- The small venue with a pending booking of seat `A1`, from ten to eleven. -/
def pendingStore : Store :=
  { smallStore with
    bookings := ⟨[⟨⟨7, .seat, some 1, some 2, some 3, minutes 600, minutes 660⟩, 1, none,
      .pending, 0, "RUB", none⟩], by decide⟩ }

def payTicket : RequestTicket :=
  ⟨⟨.plain 7 0, .createPayment smallPayment⟩, ⟨0, pendingStore⟩,
    .payment ⟨1, 7, "mock", 100, "RUB", 0, { status := some .confirmed }⟩⟩

def cancelTicket : RequestTicket :=
  ⟨⟨.plain 7 0, .cancelBooking 1⟩, ⟨0, pendingStore⟩,
    .update ⟨1, 7, { status := some .cancelled, cancelledAt := some 0 }, "booking_cancelled"⟩⟩

/-- The store when the cancellation has committed. -/
def cancelledStore : Store :=
  commitBookingUpdate 0 pendingStore
    ⟨1, 7, { status := some .cancelled, cancelledAt := some 0 }, "booking_cancelled"⟩

/-- The store when the payment has committed after it. -/
def revivedStore : Store :=
  (commitPayment .plain 0 cancelledStore
    ⟨1, 7, "mock", 100, "RUB", 0, { status := some .confirmed }⟩).1

theorem payTicket_reads : (requests .plain).reads ⟨0, pendingStore⟩ payTicket.request payTicket.plan
    ⟨0, pendingStore⟩ := ⟨le_rfl, le_rfl, rfl, rfl⟩

theorem cancelTicket_reads : (requests .plain).reads ⟨0, pendingStore⟩ cancelTicket.request
    cancelTicket.plan ⟨0, pendingStore⟩ := ⟨le_rfl, le_rfl, rfl, rfl⟩

theorem cancelTicket_commits : (requests .plain).commits ⟨0, pendingStore⟩ cancelTicket.request
    cancelTicket.plan ⟨0, cancelledStore⟩ := ⟨le_rfl, le_rfl, rfl⟩

theorem payTicket_commits : (requests .plain).commits ⟨0, cancelledStore⟩ payTicket.request
    payTicket.plan ⟨0, revivedStore⟩ := ⟨le_rfl, le_rfl, rfl⟩

/-- The payment reads, the booking is cancelled, the payment commits. -/
def cancelMoves : List RequestMove :=
  [.read payTicket, .read cancelTicket, .commit cancelTicket, .commit payTicket]

def cancellationUndone : RequestConfig :=
  ⟨⟨0, revivedStore⟩, [], [payTicket, cancelTicket]⟩

/-- A cancelled booking is confirmed again. -/
theorem cancellation_lost :
    Run (requests .plain).Step (.start ⟨0, pendingStore⟩) cancelMoves cancellationUndone ∧
    CancelCommitted 1 cancellationUndone ∧
    cancellationUndone.shared.store.bookings.rows.map (fun b => (b.id, b.status, b.cancelledAt)) =
      [(1, .confirmed, some 0)] ∧
    ¬ CancellationLasts 1 cancellationUndone := by
  have hcancelled : CancelCommitted 1 cancellationUndone :=
    ⟨cancelTicket, List.mem_cons_of_mem _ List.mem_cons_self, rfl⟩
  refine ⟨?_, hcancelled, by decide, fun h => ?_⟩
  · exact .snoc (.snoc (.snoc (.single (.read payTicket_reads)) (.read cancelTicket_reads))
      (.commit_last cancelTicket_commits)) (.commit_last payTicket_commits)
  · obtain ⟨b, hget, hstatus, -⟩ := h hcancelled
    have hrow : (cancellationUndone.shared.store.bookings.get? 1).map (·.status) =
        some .confirmed := by decide
    rw [hget, Option.map_some, hstatus] at hrow
    cases hrow

end Coworking
