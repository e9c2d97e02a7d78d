import Coworking.System.Exclusivity
import Coworking.System.HoldOrBook

/-!
# Competing Requests

Two requests, each of which could be granted alone, meet in one store.  The conflict test is
written once for each level and once for each table, so that a request for a seat meets a booking
of the venue exactly when a request for the venue meets a booking of the seat is a fact about
nine pairs of levels and four pairs of tables.

- `Op.Asks`: the requests, holds and bookings alike;
- `exec_asks_eq_ok`, `exec_asks_conflict`: when one is granted, and what it meets otherwise;
- `Reservation.write_unclaimed_iff`: what a granted request leaves unclaimed;
- `competing_requests_symmetric`: neither order favours a request.
-/

namespace Coworking

open Foundation

variable {rt : Runtime} {c : Call} {now : Instant} {s s' : Store} {op : Op}
  {p : HoldCreateRequest} {ctx : ResourceContext} {start stop : Instant}

/-! ## §1 Requests and reservations -/

/-- The operation asks for a window: a hold, or a booking without a hold. -/
inductive Op.Asks : Op → HoldCreateRequest → Prop
  | hold (p : HoldCreateRequest) : Op.Asks (.createHold p) p
  | booking (p : HoldCreateRequest) : Op.Asks (.createBooking p.booking) p

/-- What a granted request inserts. -/
inductive Reservation
  | hold (d : HoldDraft)
  | booking (d : BookingDraft) (hnone : d.holdId = none)

def Reservation.slot : Reservation → Slot
  | .hold d => d.slot
  | .booking d _ => d.slot

/-- The row that is inserted blocks its slot. -/
def Reservation.Blocks (now : Instant) : Reservation → Prop
  | .hold d => now < d.expiresAt
  | .booking d _ => d.status.blocking

def Reservation.write (rt : Runtime) (now : Instant) (s : Store) : Reservation → Store
  | .hold d => (commitHold rt s d).1
  | .booking d _ => (commitBooking rt now s d).1

/-- The row a reservation adds to the bookings, under an id. -/
def Reservation.bookingRows (id : Uuid) : Reservation → List Booking
  | .hold _ => []
  | .booking d _ => [d.row id]

/-- The row it adds to the holds. -/
def Reservation.holdRows (id : Uuid) : Reservation → List Hold
  | .hold d => [d.row id]
  | .booking _ _ => []

/-- The reservation a request becomes. -/
def Op.reservation (op : Op) (rows : RowChoice) (now : Instant) (s : Store) (userId : Uuid)
    (ctx : ResourceContext) (start stop : Instant) : Reservation :=
  match op with
  | .createHold _ => .hold (heldDraft rows now s userId ctx start stop)
  | _ => .booking (bookedDraft rows s userId ctx start stop) rfl

/-! ## §2 When a request is granted, and what it meets otherwise -/

/-- The reading of the clock that the conflict query makes. -/
def Op.conflictReading : Op → Nat
  | .createHold _ => 1
  | _ => 2

/-- The call can grant the request for this resource and window, by its own readings of the
clock. -/
structure Grants (rt : Runtime) (c : Call) (s : Store) (op : Op) (p : HoldCreateRequest)
    (ctx : ResourceContext) (start stop : Instant) : Prop where
  startTime : p.startTime.instant? = some start
  endTime : p.endTime.instant? = some stop
  resolves : Resolves s p.level p.seatId p.roomId p.venueId ctx
  admissible : Admissible rt c.rows s ctx (c.now 0) start stop
  unclaimed : Unclaimed (c.now op.conflictReading) s ctx start stop none none

/-- **When a request is granted.** -/
theorem exec_asks_eq_ok (h : op.Asks p) :
    exec rt c s op = .ok s' ↔ ∃ ctx start stop, Grants rt c s op p ctx start stop ∧
      s' = (op.reservation c.rows (c.now 0) s c.user ctx start stop).write rt (c.now 3) s := by
  cases h with
  | hold p =>
    rw [exec, map_eq_ok]
    constructor
    · rintro ⟨r, hr, rfl⟩
      obtain ⟨d, hd, rfl⟩ := createHold_eq_ok.mp hr
      obtain ⟨start, stop, ctx, hstart, hstop, hres, hadm, hfree, rfl⟩ := checkHold_eq_ok.mp hd
      exact ⟨ctx, start, stop, ⟨hstart, hstop, hres, hadm, hfree⟩, rfl⟩
    · rintro ⟨ctx, start, stop, hg, rfl⟩
      exact ⟨_, createHold_eq_ok.mpr ⟨_, checkHold_eq_ok.mpr ⟨start, stop, ctx, hg.startTime,
        hg.endTime, hg.resolves, hg.admissible, hg.unclaimed, rfl⟩, rfl⟩, rfl⟩
  | booking p =>
    rw [exec, map_eq_ok]
    constructor
    · rintro ⟨r, hr, rfl⟩
      obtain ⟨d, hd, rfl⟩ := createBooking_eq_ok.mp hr
      obtain ⟨start, stop, ctx, hstart, hstop, hres, hadm, -, hfree, rfl⟩ :=
        checkBooking_eq_ok.mp hd
      exact ⟨ctx, start, stop, ⟨hstart, hstop, hres, hadm, hfree⟩, rfl⟩
    · rintro ⟨ctx, start, stop, hg, rfl⟩
      refine ⟨_, createBooking_eq_ok.mpr ⟨_, checkBooking_eq_ok.mpr ⟨start, stop, ctx,
        hg.startTime, hg.endTime, hg.resolves, hg.admissible, ?_, hg.unclaimed, rfl⟩, rfl⟩, rfl⟩
      -- There is no hold to redeem.
      rintro _ ⟨⟩

/-- At a standing clock, all readings are one. -/
theorem grants_iff_grantable (hc : c.At now) :
    Grants rt c s op p ctx start stop ↔ Grantable rt c.rows now s p ctx start stop := by
  constructor
  · intro h
    exact ⟨h.startTime, h.endTime, h.resolves, hc 0 ▸ h.admissible, hc _ ▸ h.unclaimed⟩
  · intro h
    refine ⟨h.startTime, h.endTime, h.resolves, ?_, ?_⟩
    · rw [hc 0]
      exact h.admissible
    · rw [hc _]
      exact h.unclaimed

/-- **When a request is granted**, at a standing clock. -/
theorem exec_asks_iff (h : op.Asks p) (hc : c.At now) :
    exec rt c s op = .ok s' ↔ ∃ ctx start stop, Grantable rt c.rows now s p ctx start stop ∧
      s' = (op.reservation c.rows now s c.user ctx start stop).write rt now s := by
  simp only [exec_asks_eq_ok h, grants_iff_grantable hc, hc 0, hc 3]

/-- `HoldConflictError` and `BookingConflictError`. -/
def ServiceError.isConflict : ServiceError → Prop
  | .holdConflict _ | .bookingConflict _ => True
  | _ => False

/-- A hold of a window that is claimed: every guard before the two conflict guards lets it
through. -/
theorem checkHold_of_claimed (hstart : p.startTime.instant? = some start)
    (hstop : p.endTime.instant? = some stop)
    (hres : Resolves s p.level p.seatId p.roomId p.venueId ctx)
    (hadm : Admissible rt c.rows s ctx (c.now 0) start stop)
    (hclaimed : ¬ Unclaimed (c.now 1) s ctx start stop none none) :
    ∃ e, checkHold rt c s p = .error e ∧ e.isConflict := by
  obtain ⟨hmin, hmax, hadv⟩ := rule_guards.mpr hadm.rule
  obtain ⟨tz, htz, hin⟩ := hadm.hours
  obtain ⟨hday, hours, hhours, hopen⟩ := hours_guards.mpr hin
  -- Guard by guard, the call gets as far as the query.
  simp only [checkHold, ensureUtc_eq_ok.mpr hstart, ensureUtc_eq_ok.mpr hstop, ok_bind,
    raiseIf_of_not (not_le.mpr hadm.ordered), raiseIf_of_not (not_le.mpr hadm.future),
    resolveResource_eq_ok.mpr hres, raiseIf_of_not hmin, raiseIf_of_not hmax,
    raiseIf_of_not hadv, (found_eq_ok _ _ _).mpr htz, raiseIf_of_not hday,
    (found_eq_ok _ _ _).mpr hhours, raiseIf_of_not hopen]
  rcases raiseIf_raiseIf (mt conflict_guards.mp hclaimed) _ _ _ with h | h
  · exact ⟨_, h, trivial⟩
  · exact ⟨_, h, trivial⟩

/-- A booking of a window that is claimed. -/
theorem checkBooking_of_claimed (hstart : p.startTime.instant? = some start)
    (hstop : p.endTime.instant? = some stop)
    (hres : Resolves s p.level p.seatId p.roomId p.venueId ctx)
    (hadm : Admissible rt c.rows s ctx (c.now 0) start stop)
    (hclaimed : ¬ Unclaimed (c.now 2) s ctx start stop none none) :
    ∃ e, checkBooking rt c s p.booking = .error e ∧ e.isConflict := by
  -- There is no hold to redeem.
  have hhold : validateHoldId c s p.booking.holdId start stop ctx = .ok none := rfl
  simp only [checkBooking, ensureUtc_eq_ok.mpr (show p.booking.startTime.instant? = _ from hstart),
    ensureUtc_eq_ok.mpr (show p.booking.endTime.instant? = _ from hstop), ok_bind,
    resolveResource_eq_ok.mpr (show Resolves s p.booking.level p.booking.seatId p.booking.roomId
      p.booking.venueId ctx from hres), validateBookingWindow_eq_ok.mpr ⟨hadm, rfl⟩, hhold]
  rcases raiseIf_raiseIf (mt conflict_guards_ownHold.mp hclaimed) _ _ _ with h | h
  · exact ⟨_, h, trivial⟩
  · exact ⟨_, h, trivial⟩

/-- **What a request meets** in a window that is claimed: a conflict, and nothing else. -/
theorem exec_asks_conflict (h : op.Asks p) (hc : c.At now)
    (hstart : p.startTime.instant? = some start) (hstop : p.endTime.instant? = some stop)
    (hres : Resolves s p.level p.seatId p.roomId p.venueId ctx)
    (hadm : Admissible rt c.rows s ctx now start stop)
    (hclaimed : ¬ Unclaimed now s ctx start stop none none) :
    ∃ e, exec rt c s op = .error e ∧ e.isConflict := by
  cases h with
  | hold p =>
    obtain ⟨e, he, hconflict⟩ := checkHold_of_claimed (c := c) hstart hstop hres
      (by rw [hc 0]; exact hadm) (by rw [hc 1]; exact hclaimed)
    refine ⟨e, ?_, hconflict⟩
    simp only [exec, createHold, he]
    rfl
  | booking p =>
    obtain ⟨e, he, hconflict⟩ := checkBooking_of_claimed (c := c) hstart hstop hres
      (by rw [hc 0]; exact hadm) (by rw [hc 2]; exact hclaimed)
    refine ⟨e, ?_, hconflict⟩
    simp only [exec, createBooking, he]
    rfl

/-! ## §3 What a granted request leaves to the next -/

theorem Op.Asks.reservation_slot (h : op.Asks p) (rows : RowChoice) (userId : Uuid) :
    (op.reservation rows now s userId ctx start stop).slot = ctx.slot userId start stop := by
  cases h <;> rfl

/-- The reservation is computed from the tree alone. -/
theorem Op.reservation_sameTree (op : Op) (h : SameTree s s') (rows : RowChoice) (userId : Uuid) :
    op.reservation rows now s' userId ctx start stop =
      op.reservation rows now s userId ctx start stop := by
  simp only [Op.reservation, heldDraft, bookedDraft, h.grows.sameRule]

theorem seconds_pos {n : Int} (h : 0 < n) : 0 < seconds n := Int.mul_pos h (by decide)

/-- Where every rule gives holds some time to live, the row blocks its slot from the start. -/
theorem Op.Asks.reservation_blocks (h : op.Asks p)
    (hrules : ∀ r ∈ s.bookingRules, 0 < r.holdTtlSeconds) (hfuture : now < start)
    (rows : RowChoice) (userId : Uuid) :
    (op.reservation rows now s userId ctx start stop).Blocks now := by
  cases h with
  | hold p =>
    have httl : 0 < holdTtlSeconds (resolveBookingRule rows s ctx) := by
      cases hrule : resolveBookingRule rows s ctx with
      | none => decide
      | some r => exact hrules r (mem_of_resolveBookingRule hrule)
    show now < min start (now + seconds _)
    exact lt_min hfuture (lt_add_of_pos_right now (seconds_pos httl))
  | booking p => exact initialStatus_blocking _

theorem Reservation.write_sameTree (rt : Runtime) (now : Instant) (s : Store) (r : Reservation) :
    SameTree s (r.write rt now s) := by
  cases r <;> exact ⟨rfl, rfl, rfl, rfl, rfl⟩

theorem Reservation.write_bookings (rt : Runtime) (now : Instant) (s : Store) (r : Reservation) :
    (r.write rt now s).bookings.rows = s.bookings.rows ++ r.bookingRows (rt.fresh s.bookings) := by
  cases r with
  | hold d => exact (List.append_nil _).symm
  | booking d hnone => rfl

theorem Reservation.write_holds (rt : Runtime) (now : Instant) (s : Store) (r : Reservation) :
    (r.write rt now s).holds.rows = s.holds.rows ++ r.holdRows (rt.fresh s.holds) := by
  cases r with
  | hold d => rfl
  | booking d hnone =>
    -- No hold is converted.
    show (convertHold s.holds d.holdId).rows = _
    rw [hnone]
    exact (List.append_nil _).symm

/-- The new row blocks exactly the slot of the reservation. -/
theorem Reservation.Blocks.rows {r : Reservation} (h : r.Blocks now) (id : Uuid) :
    (∀ b ∈ r.bookingRows id, b.toSlot = r.slot ∧ b.status.blocking) ∧
      ∀ x ∈ r.holdRows id, x.toSlot = r.slot ∧ x.live now := by
  cases r with
  | hold d =>
    refine ⟨fun b hb => absurd hb List.not_mem_nil, fun x hx => ?_⟩
    obtain rfl := List.mem_singleton.mp hx
    exact ⟨rfl, rfl, h⟩
  | booking d hnone =>
    refine ⟨fun b hb => ?_, fun x hx => absurd hx List.not_mem_nil⟩
    obtain rfl := List.mem_singleton.mp hb
    exact ⟨rfl, h⟩

/-- **What is left unclaimed** after a reservation: what was unclaimed before it, apart from what
the new row is in the way of. -/
theorem Reservation.write_unclaimed_iff {r : Reservation} (hblocks : r.Blocks now) :
    Unclaimed now (r.write rt now s) ctx start stop none none ↔
      Unclaimed now s ctx start stop none none ∧
        ¬ (overlaps start stop r.slot.startTime r.slot.endTime ∧ conflictFilter s ctx r.slot) := by
  have hfilter := (r.write_sameTree rt now s).conflictFilter ctx
  have hbookings : ∀ b, b ∈ (r.write rt now s).bookings ↔
      b ∈ s.bookings ∨ b ∈ r.bookingRows (rt.fresh s.bookings) := fun b => by
    rw [Table.mem_def, r.write_bookings, List.mem_append]
    rfl
  have hholds : ∀ x, x ∈ (r.write rt now s).holds ↔
      x ∈ s.holds ∨ x ∈ r.holdRows (rt.fresh s.holds) := fun x => by
    rw [Table.mem_def, r.write_holds, List.mem_append]
    rfl
  constructor
  · intro h
    refine ⟨⟨fun b hb hblocking hov hf => ?_, fun x hx hlive hov hf => ?_⟩, fun ⟨hov, hf⟩ => ?_⟩
    · exact h.bookings b ((hbookings b).mpr (.inl hb)) hblocking hov ((hfilter _).trans hf)
    · exact h.holds x ((hholds x).mpr (.inl hx)) hlive hov ((hfilter _).trans hf)
    · -- The new row is in one of the two tables, and it is nobody's own.
      have hf' := (hfilter r.slot).trans hf
      cases r with
      | hold d =>
        exact nomatch h.holds _ ((hholds _).mpr (.inr (List.mem_singleton_self _)))
          ⟨rfl, hblocks⟩ hov hf'
      | booking d hnone =>
        exact nomatch h.bookings _ ((hbookings _).mpr (.inr (List.mem_singleton_self _)))
          hblocks hov hf'
  · rintro ⟨h, hfree⟩
    refine ⟨fun b hb hblocking hov hf => ?_, fun x hx hlive hov hf => ?_⟩
    · rw [hfilter] at hf
      rcases (hbookings b).mp hb with hold | hnew
      · exact h.bookings b hold hblocking hov hf
      · obtain ⟨hslot, -⟩ := (hblocks.rows _).1 b hnew
        exact absurd ⟨hslot ▸ hov, hslot ▸ hf⟩ hfree
    · rw [hfilter] at hf
      rcases (hholds x).mp hx with hold | hnew
      · exact h.holds x hold hlive hov hf
      · obtain ⟨hslot, -⟩ := (hblocks.rows _).2 x hnew
        exact absurd ⟨hslot ▸ hov, hslot ▸ hf⟩ hfree

/-- A request that is granted in a store, and the reservation it becomes. -/
structure Reserves (rt : Runtime) (now : Instant) (s : Store) (c : Call) (op : Op)
    (p : HoldCreateRequest) (r : Reservation) : Prop where
  resolves : ∃ ctx start stop, Grantable rt c.rows now s p ctx start stop ∧
    r = op.reservation c.rows now s c.user ctx start stop ∧ r.slot = ctx.slot c.user start stop
  blocks : r.Blocks now

theorem Reserves.decodes {r : Reservation} (h : Reserves rt now s c op p r) : r.slot.Decodes s := by
  obtain ⟨ctx, start, stop, hg, -, hslot⟩ := h.resolves
  rw [hslot]
  exact hg.resolves.decodes c.user start stop

/-- An accepted request was granted. -/
theorem Op.Asks.granted (h : op.Asks p) (hc : c.At now)
    (hrules : ∀ r ∈ s.bookingRules, 0 < r.holdTtlSeconds) (hok : exec rt c s op = .ok s') :
    ∃ r, Reserves rt now s c op p r ∧ s' = r.write rt now s := by
  obtain ⟨ctx, start, stop, hg, rfl⟩ := (exec_asks_iff h hc).mp hok
  exact ⟨_, ⟨⟨ctx, start, stop, hg, rfl, h.reservation_slot _ _⟩,
    h.reservation_blocks hrules hg.admissible.future _ _⟩, rfl⟩

/-- **The second request**, after a reservation that blocks its slot: granted if the slots do not
clash, and a conflict if they do.  The levels and the tables play no part. -/
theorem Reserves.second {q r : Reservation} (h : op.Asks p) (hc : c.At now)
    (hr : Reserves rt now s c op p r) (hblocks : q.Blocks now) (hq : q.slot.Decodes s) :
    (¬ r.slot.Clash q.slot →
      exec rt c (q.write rt now s) op = .ok (r.write rt now (q.write rt now s))) ∧
    (r.slot.Clash q.slot → ∃ e, exec rt c (q.write rt now s) op = .error e ∧ e.isConflict) := by
  obtain ⟨ctx, start, stop, hg, rfl, hslot⟩ := hr.resolves
  have htree := q.write_sameTree rt now s
  have hres := hg.resolves.grows htree.grows
  have hadm := htree.admissible_iff.mpr hg.admissible
  -- The slot is in the way, whichever level's filter is asked, if it is in the venue.
  have hclash : (ctx.slot c.user start stop).Clash q.slot ↔
      overlaps start stop q.slot.startTime q.slot.endTime ∧ conflictFilter s ctx q.slot := by
    rw [conflictFilter_iff_venueId hg.resolves hq, and_comm]
    exact and_congr_left fun _ => eq_comm
  rw [hslot, hclash]
  constructor
  · intro hfree
    have hleft : Unclaimed now (q.write rt now s) ctx start stop none none :=
      (Reservation.write_unclaimed_iff hblocks).mpr ⟨hg.unclaimed, hfree⟩
    refine (exec_asks_iff h hc).mpr
      ⟨ctx, start, stop, ⟨hg.startTime, hg.endTime, hres, hadm, hleft⟩, ?_⟩
    rw [op.reservation_sameTree htree]
  · intro hclaimed
    refine exec_asks_conflict h hc hg.startTime hg.endTime hres hadm fun hfree => ?_
    exact ((Reservation.write_unclaimed_iff hblocks).mp hfree).2 hclaimed

/-! ## §4 The stores after both -/

/-- A booking without its id. -/
def Booking.anonymous (b : Booking) : Booking := { b with id := 0 }

/-- A hold without its id. -/
def Hold.anonymous (h : Hold) : Hold := { h with id := 0 }

/-- The blocking bookings, without their ids. -/
def Store.blockingBookings (s : Store) : List Booking :=
  (s.bookings.rows.filter (·.status.blocking)).map Booking.anonymous

/-- The live holds, without their ids. -/
def Store.liveHolds (s : Store) (now : Instant) : List Hold :=
  (s.holds.rows.filter (·.live now)).map Hold.anonymous

/-- The same blocking bookings and live holds, up to their ids and their order. -/
structure SameReservations (now : Instant) (s s' : Store) : Prop where
  bookings : s.blockingBookings.Perm s'.blockingBookings
  holds : (s.liveHolds now).Perm (s'.liveHolds now)

theorem Reservation.write_blockingBookings {r : Reservation} (h : r.Blocks now) :
    (r.write rt now s).blockingBookings = s.blockingBookings ++ r.bookingRows 0 := by
  have hnew : ((r.bookingRows (rt.fresh s.bookings)).filter (·.status.blocking)).map
      Booking.anonymous = r.bookingRows 0 := by
    rw [List.filter_eq_self.mpr fun b hb => ((h.rows _).1 b hb).2]
    cases r <;> rfl
  rw [Store.blockingBookings, r.write_bookings, List.filter_append, List.map_append, hnew]
  rfl

theorem Reservation.write_liveHolds {r : Reservation} (h : r.Blocks now) :
    (r.write rt now s).liveHolds now = s.liveHolds now ++ r.holdRows 0 := by
  have hnew : ((r.holdRows (rt.fresh s.holds)).filter (·.live now)).map Hold.anonymous =
      r.holdRows 0 := by
    rw [List.filter_eq_self.mpr fun x hx => decide_eq_true ((h.rows _).2 x hx).2]
    cases r <;> rfl
  rw [Store.liveHolds, r.write_holds, List.filter_append, List.map_append, hnew]
  rfl

/-- **Two reservations in either order.** -/
theorem Reservation.write_comm {r₁ r₂ : Reservation} (h₁ : r₁.Blocks now) (h₂ : r₂.Blocks now) :
    SameReservations now (r₂.write rt now (r₁.write rt now s))
      (r₁.write rt now (r₂.write rt now s)) where
  bookings := by
    rw [write_blockingBookings h₂, write_blockingBookings h₁, write_blockingBookings h₁,
      write_blockingBookings h₂, List.append_assoc, List.append_assoc]
    exact List.perm_append_comm.append_left _
  holds := by
    rw [write_liveHolds h₂, write_liveHolds h₁, write_liveHolds h₁, write_liveHolds h₂,
      List.append_assoc, List.append_assoc]
    exact List.perm_append_comm.append_left _

/-! ## §5 Symmetry -/

/-- **Competing requests are treated symmetrically.**  Of two requests that would each be granted
alone at an instant, both orders grant both and lead to the same reservations, or in both orders
the first is granted and the second meets a conflict. -/
theorem competing_requests_symmetric {s s₁ s₂ : Store} {op₁ op₂ : Op} {p₁ p₂ : HoldCreateRequest}
    {c₁ c₂ : Call} (hrules : ∀ r ∈ s.bookingRules, 0 < r.holdTtlSeconds) (h₁ : op₁.Asks p₁)
    (h₂ : op₂.Asks p₂) (hc₁ : c₁.At now) (hc₂ : c₂.At now) (hok₁ : exec rt c₁ s op₁ = .ok s₁)
    (hok₂ : exec rt c₂ s op₂ = .ok s₂) :
    (∃ s₁₂ s₂₁, exec rt c₂ s₁ op₂ = .ok s₁₂ ∧ exec rt c₁ s₂ op₁ = .ok s₂₁ ∧
      SameReservations now s₁₂ s₂₁) ∨
    ((∃ e, exec rt c₂ s₁ op₂ = .error e ∧ e.isConflict) ∧
      ∃ e, exec rt c₁ s₂ op₁ = .error e ∧ e.isConflict) := by
  obtain ⟨r₁, hr₁, rfl⟩ := h₁.granted hc₁ hrules hok₁
  obtain ⟨r₂, hr₂, rfl⟩ := h₂.granted hc₂ hrules hok₂
  obtain ⟨hfree₂, hclash₂⟩ := hr₂.second h₂ hc₂ hr₁.blocks hr₁.decodes
  obtain ⟨hfree₁, hclash₁⟩ := hr₁.second h₁ hc₁ hr₂.blocks hr₂.decodes
  -- Whether the slots clash does not depend on which came first.
  by_cases hclash : r₁.slot.Clash r₂.slot
  · exact .inr ⟨hclash₂ hclash.symm, hclash₁ hclash⟩
  · exact .inl ⟨_, _, hfree₂ fun h => hclash h.symm, hfree₁ hclash,
      Reservation.write_comm hr₁.blocks hr₂.blocks⟩

/-- The whole venue, from half past ten to half past eleven. -/
def venueRequest : HoldCreateRequest :=
  ⟨.venue, none, none, some 1, .ofInstant (minutes 630), .ofInstant (minutes 690)⟩

/-- The small venue with a hold of seat `A1`. -/
def heldStore : Store := replay .plain smallStore [⟨.plain 7 0, .createHold smallHold⟩]

/-- The small venue with a booking of the whole venue. -/
def venueBookedStore : Store :=
  replay .plain smallStore [⟨.plain 8 0, .createBooking venueRequest.booking⟩]

/-- A hold of a seat and a booking of its venue. -/
theorem competing_requests_symmetric_seat_venue :
    (∃ s₁₂ s₂₁,
      exec .plain (.plain 8 0) heldStore (.createBooking venueRequest.booking) = .ok s₁₂ ∧
      exec .plain (.plain 7 0) venueBookedStore (.createHold smallHold) = .ok s₂₁ ∧
      SameReservations 0 s₁₂ s₂₁) ∨
    ((∃ e, exec .plain (.plain 8 0) heldStore (.createBooking venueRequest.booking) = .error e ∧
        e.isConflict) ∧
      ∃ e, exec .plain (.plain 7 0) venueBookedStore (.createHold smallHold) = .error e ∧
        e.isConflict) :=
  competing_requests_symmetric (s := smallStore) (fun _ hr => absurd hr List.not_mem_nil)
    (.hold smallHold) (.booking venueRequest) (fun _ => rfl) (fun _ => rfl) rfl rfl

end Coworking
