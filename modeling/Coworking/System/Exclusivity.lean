import Coworking.System.Calendar

/-!
# No Double Booking

Every call refines moves of the abstract machine of `Foundation.Calendar`: it gives entries
up and places at most one new entry that clashes with nothing in its venue.

## Main results

- `RecordChange.refines`: one call is a sequence of calendar moves;
- `Orderly.run`: the calendar of every reached store is exclusive, venue by venue;
- `no_double_booking`: what that says about bookings and holds of related resources.
-/

namespace Coworking

open Foundation

/-! ## §1 Clashes -/

/-- Two slots of one venue overlap. -/
def Slot.Clash (a b : Slot) : Prop :=
  a.venueId = b.venueId ∧ overlaps a.startTime a.endTime b.startTime b.endTime

theorem Slot.Clash.symm (a b : Slot) (h : a.Clash b) : b.Clash a := ⟨h.1.symm, h.2.symm⟩

variable {s s' : Store} {now now' : Instant} {a : Slot}

/-- A window that the conflict query found unclaimed clashes with no other entry. -/
theorem Unclaimed.not_clash {ctx : ResourceContext} {start stop : Instant}
    {ownBooking ownHold : Option Uuid} (h : Unclaimed now s ctx start stop ownBooking ownHold)
    {k : RecordId} {a : Slot} (hk : s.calendar now k = some a)
    (hb : ∀ id, k = .booking id → some id ≠ ownBooking)
    (hh : ∀ id, k = .hold id → some id ≠ ownHold) (userId : Uuid) :
    ¬ (ctx.slot userId start stop).Clash a := by
  rintro ⟨hvenue, hov⟩
  have hfilter : conflictFilter s ctx a := conflictFilter_of_venueId hvenue.symm
  cases k with
  | booking id =>
    obtain ⟨b, hget, hblocking, rfl⟩ := calendar_booking.mp hk
    obtain rfl : b.id = id := Table.key_of_get? hget
    exact hb b.id rfl (h.bookings b (Table.mem_of_get? hget) hblocking hov hfilter)
  | hold id =>
    obtain ⟨x, hget, hlive, rfl⟩ := calendar_hold.mp hk
    obtain rfl : x.id = id := Table.key_of_get? hget
    exact hh x.id rfl (h.holds x (Table.mem_of_get? hget) hlive hov hfilter)

/-! ## §2 Refinement -/

variable {rt : Runtime} {c : Call} {op : Op}

/-- Of the statuses the services write, only blocking ones become blocking. -/
theorem StatusChange.blocking_of {b : Booking} {w : BookingStatus} (h : StatusChange c s b op w)
    (hb : b.status.blocking ∨ b.status = .cancelled) (hw : w.blocking) : b.status.blocking := by
  cases h with
  | keep => exact hw
  | confirm hpending => rw [hpending]; rfl
  | checkIn haccepted => exact hb.resolve_right haccepted.notCancelled
  | cancel => cases hw

/-- The row after an accepted move: its own resource, the window of the request. -/
theorem reschedule_toSlot {b : Booking} {ctx : ResourceContext} {start stop : Instant}
    {p : BookingPatch} (hs : Sound s) (hmem : b ∈ s.bookings) (hres : b.toSlot.ResolvesTo s ctx)
    (hstart : p.startTime.getD b.startTime = start) (hstop : p.endTime.getD b.endTime = stop) :
    (p.apply b).toSlot = ctx.slot b.userId start stop := by
  obtain ⟨ctx', hres', hslot⟩ := hs.bookings b hmem
  obtain rfl := hres.unique hres'
  show Slot.mk b.userId b.level b.venueId b.roomId b.seatId (p.startTime.getD b.startTime)
    (p.endTime.getD b.endTime) = _
  rw [hstart, hstop, hslot]
  rfl

/-- **Refinement.**  One call, seen on the calendar, is a sequence of moves of the abstract
machine. -/
theorem RecordChange.refines (hs : Sound s) (h : RecordChange rt c s op s')
    (hstart : now ≤ c.now 0) (hend : c.now 3 ≤ now') :
    CalendarSteps Slot.Clash (s.calendar now) (s'.calendar now') := by
  -- A claim is checked at a reading of the call; what is live afterwards was live then.
  have hback : ∀ n ≤ 3, Within (s.calendar now') (s.calendar (c.now n)) :=
    fun n hn => calendar_later ((c.now_mono hn).trans hend)
  have hle : now ≤ now' := (hstart.trans (c.now_mono (Nat.zero_le 3))).trans hend
  cases h with
  | none hh hb => exact .release (calendar_eq hh hb ▸ calendar_later hle)
  | holdCreated hd hh hb =>
    obtain ⟨start, stop, ctx, -, -, -, -, hfree, rfl⟩ := checkHold_eq_ok.mp hd
    refine places_hold hle hh hb fun l b hl => ?_
    exact hfree.not_clash (hback 1 (by decide) l b hl) (fun _ _ => nofun) (fun _ _ => nofun) c.user
  | holdCancelled _ _ hh hb => exact .release (within_holdCancelled hle hh hb)
  | bookingCreated _ hd hh hb =>
    obtain ⟨start, stop, ctx, -, -, -, -, -, hfree, rfl⟩ := checkBooking_eq_ok.mp hd
    refine places_booking hle hh hb fun l b hl hne => ?_
    exact hfree.not_clash (hback 2 (by decide) l b hl) (fun _ _ => nofun) hne c.user
  | moved hu hh hb =>
    obtain ⟨b, start, stop, ctx, howned, -, -, -, hres, -, hfree, rfl⟩ :=
      checkReschedule_eq_ok.mp hu
    obtain ⟨rfl, hget⟩ := get?_of_bookingOf? howned
    refine places_move (a := ctx.slot b.userId start stop) hle hh hb ?_ ?_
    · intro b' hget'
      obtain rfl : b' = b := Option.mem_unique hget' hget
      exact reschedule_toSlot hs (Table.mem_of_get? hget) hres (dirty_getD _ _) (dirty_getD _ _)
    · intro l x hl hx
      refine hfree.not_clash (hback 2 (by decide) l x hx) ?_ (fun _ _ => nofun) b.userId
      rintro id rfl he
      exact hl (congrArg _ (Option.some.inj he))
  | @statusChanged _ b p _ hget hpstart hpstop hstatus hh hb =>
    refine .release (within_patch hle hpstart hpstop (fun b' hget' hbl => ?_) hh hb)
    obtain rfl : b' = b := Option.mem_unique hget' hget
    exact hstatus.blocking_of (hs.status b' (Table.mem_of_get? hget)) hbl

/-- A serial call refines calendar moves. -/
theorem SerialStep.refines {x y : State} {e : Event} (hs : Sound x.store)
    (h : SerialStep rt x e y) :
    CalendarSteps Slot.Clash (x.store.calendar x.now) (y.store.calendar y.now) :=
  h.effect.recordChange.refines hs h.starts h.ends

/-! ## §3 Exclusivity along runs -/

/-- A state whose rows the services wrote and whose live records do not clash. -/
structure Orderly (x : State) : Prop where
  sound : Sound x.store
  exclusive : Exclusive Slot.Clash (x.store.calendar x.now)

theorem Unreserved.orderly {x : State} (h : Unreserved x.store) : Orderly x where
  sound := h.sound
  exclusive := by
    intro k l _ a _ hk
    cases k with
    | booking id =>
      obtain ⟨b, hget, -⟩ := calendar_booking.mp hk
      exact (h.bookings b (Table.mem_of_get? hget)).elim
    | hold id =>
      obtain ⟨b, hget, -⟩ := calendar_hold.mp hk
      exact (h.holds b (Table.mem_of_get? hget)).elim

theorem Orderly.step {x y : State} {e : Event} (hx : Orderly x) (h : SerialStep rt x e y) :
    Orderly y where
  sound := hx.sound.effect h.effect
  exclusive := exclusive_of_steps Slot.Clash.symm (h.refines hx.sound) hx.exclusive

/-- **Exclusivity of runs.** -/
theorem Orderly.run {x y : State} {es : List Event} (hx : Orderly x)
    (h : Run (SerialStep rt) x es y) : Orderly y :=
  h.invariant (fun _ _ _ hx hstep => hx.step hstep) hx

/-! ## §4 Bookings and holds of related resources -/

/-- Two rows contend: their resources are equal or one contains the other, and their
windows overlap. -/
def Store.Contend (s : Store) (a b : Slot) : Prop :=
  ∃ r₁ r₂, a.resource = some r₁ ∧ b.resource = some r₂ ∧ s.Related r₁ r₂ ∧
    overlaps a.startTime a.endTime b.startTime b.endTime

/-- Nobody has to share: blocking bookings and live holds do not contend. -/
structure NoDoubleBooking (s : Store) (now : Instant) : Prop where
  bookings : ∀ b₁ ∈ s.bookings, ∀ b₂ ∈ s.bookings, b₁ ≠ b₂ →
    b₁.status.blocking → b₂.status.blocking → ¬ s.Contend b₁.toSlot b₂.toSlot
  bookingHold : ∀ b ∈ s.bookings, ∀ h ∈ s.holds,
    b.status.blocking → h.live now → ¬ s.Contend b.toSlot h.toSlot
  holds : ∀ h₁ ∈ s.holds, ∀ h₂ ∈ s.holds, h₁ ≠ h₂ →
    h₁.live now → h₂.live now → ¬ s.Contend h₁.toSlot h₂.toSlot

theorem Store.Contend.symm (a b : Slot) (h : s.Contend a b) : s.Contend b a := by
  rcases h with ⟨r₁, r₂, h₁, h₂, hrel, hov⟩
  exact ⟨r₂, r₁, h₂, h₁, hrel.symm, Overlaps.symm hov⟩

/-- Contending rows that decode to themselves clash. -/
theorem Store.Contend.clash {a b : Slot} (ha : a.Decodes s) (hb : b.Decodes s)
    (h : s.Contend a b) : a.Clash b := by
  rcases h with ⟨r₁, r₂, h₁, h₂, hrel, hov⟩
  exact ⟨ha.venueId_eq hb h₁ h₂ hrel, hov⟩

/-- The rows of a sound calendar decode to themselves. -/
theorem Sound.decodes (hs : Sound s) {k : RecordId} (hk : s.calendar now k = some a) :
    a.Decodes s := by
  cases k with
  | booking id =>
    obtain ⟨b, hget, -, rfl⟩ := calendar_booking.mp hk
    exact hs.bookings b (Table.mem_of_get? hget)
  | hold id =>
    obtain ⟨h, hget, -, rfl⟩ := calendar_hold.mp hk
    exact hs.holds h (Table.mem_of_get? hget)

/-- No double booking is exclusivity of the calendar under contention. -/
theorem noDoubleBooking_iff : NoDoubleBooking s now ↔ Exclusive s.Contend (s.calendar now) := by
  constructor
  · intro h k l hne a b ha hb hc
    -- The two keys name two bookings, a booking and a hold, or two holds.
    cases k with
    | booking i =>
      obtain ⟨x, hx, hxb, rfl⟩ := calendar_booking.mp ha
      cases l with
      | booking j =>
        obtain ⟨y, hy, hyb, rfl⟩ := calendar_booking.mp hb
        refine h.bookings x (Table.mem_of_get? hx) y (Table.mem_of_get? hy) ?_ hxb hyb hc
        rintro rfl
        exact hne (congrArg _ ((Table.key_of_get? hx).symm.trans (Table.key_of_get? hy)))
      | hold j =>
        obtain ⟨y, hy, hyl, rfl⟩ := calendar_hold.mp hb
        exact h.bookingHold x (Table.mem_of_get? hx) y (Table.mem_of_get? hy) hxb hyl hc
    | hold i =>
      obtain ⟨x, hx, hxl, rfl⟩ := calendar_hold.mp ha
      cases l with
      | booking j =>
        obtain ⟨y, hy, hyb, rfl⟩ := calendar_booking.mp hb
        exact h.bookingHold y (Table.mem_of_get? hy) x (Table.mem_of_get? hx) hyb hxl
          (Store.Contend.symm _ _ hc)
      | hold j =>
        obtain ⟨y, hy, hyl, rfl⟩ := calendar_hold.mp hb
        refine h.holds x (Table.mem_of_get? hx) y (Table.mem_of_get? hy) ?_ hxl hyl hc
        rintro rfl
        exact hne (congrArg _ ((Table.key_of_get? hx).symm.trans (Table.key_of_get? hy)))
  · intro h
    refine ⟨fun b₁ h₁ b₂ h₂ hne hb₁ hb₂ => ?_, fun b hb x hx hbl hlive => ?_,
      fun x₁ h₁ x₂ h₂ hne hl₁ hl₂ => ?_⟩
    · exact h (k := .booking b₁.id) (l := .booking b₂.id)
        (fun he => hne (Table.key_injective h₁ h₂ (RecordId.booking.inj he)))
        (calendar_booking.mpr ⟨b₁, Table.get?_of_mem h₁, hb₁, rfl⟩)
        (calendar_booking.mpr ⟨b₂, Table.get?_of_mem h₂, hb₂, rfl⟩)
    · exact h (k := .booking b.id) (l := .hold x.id) nofun
        (calendar_booking.mpr ⟨b, Table.get?_of_mem hb, hbl, rfl⟩)
        (calendar_hold.mpr ⟨x, Table.get?_of_mem hx, hlive, rfl⟩)
    · exact h (k := .hold x₁.id) (l := .hold x₂.id)
        (fun he => hne (Table.key_injective h₁ h₂ (RecordId.hold.inj he)))
        (calendar_hold.mpr ⟨x₁, Table.get?_of_mem h₁, hl₁, rfl⟩)
        (calendar_hold.mpr ⟨x₂, Table.get?_of_mem h₂, hl₂, rfl⟩)

/-- A calendar that is exclusive venue by venue admits no double booking. -/
theorem noDoubleBooking_of_exclusive (hs : Sound s) (h : Exclusive Slot.Clash (s.calendar now)) :
    NoDoubleBooking s now :=
  noDoubleBooking_iff.mpr
    (h.weaken fun _ _ _ _ ha hb hc => hc.clash (hs.decodes ha) (hs.decodes hb))

/-- **No double booking.**  Start with nothing held or booked and run any calls by any users:
at every instant from then on, no two blocking bookings, no blocking booking and live hold,
and no two live holds of related resources overlap. -/
theorem no_double_booking {x y : State} {es : List Event} (hempty : Unreserved x.store)
    (hrun : Run (SerialStep rt) x es y) (hnow : y.now ≤ now) : NoDoubleBooking y.store now := by
  have hy : Orderly y := hempty.orderly.run hrun
  exact noDoubleBooking_of_exclusive hy.sound (hy.exclusive.of_within (calendar_later hnow))

theorem no_double_booking_smallEvents :
    (replay .plain smallStore smallEvents).bookings.rows.length = 1 ∧
      NoDoubleBooking (replay .plain smallStore smallEvents) 2 :=
  ⟨by decide, no_double_booking smallStore_unreserved smallRun (by decide)⟩

end Coworking
