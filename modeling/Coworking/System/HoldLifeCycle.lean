import Coworking.System.Records

/-!
# The Life of a Hold

A hold is pending until its user cancels it or a booking converts it.  Nothing but the code
ties a converted hold to its booking: `bookings.hold_id` is neither unique nor tied to a status.

- `RecordChange.hold_fate`, `RecordChange.hold_origin`: one hold under a call;
- `RecordChange.booking_fate`, `RecordChange.booking_origin`: one booking and its hold;
- `Linked`: converted holds and the bookings that carry them, one to one;
- `redeemed_since`: a booking that carries a hold was created by a call that redeemed it;
- `hold_life_cycle`: all of it, for every hold of every reached state.
-/

namespace Coworking

open Foundation

/-! ## §1 One hold under a call -/

/-- Same user, level, venue, room and seat; the windows may differ. -/
def Slot.SameResource (a b : Slot) : Prop :=
  b = { a with startTime := b.startTime, endTime := b.endTime }

theorem Slot.SameResource.refl (a : Slot) : a.SameResource a := rfl

theorem Slot.SameResource.trans {a b d : Slot} (h₁ : a.SameResource b) (h₂ : b.SameResource d) :
    a.SameResource d := by
  unfold Slot.SameResource at *
  rw [h₂, h₁]

variable {rt : Runtime} {c : Call} {s s' : Store} {op : Op} {k : Uuid}

/-- Converting a hold leaves the others alone. -/
theorem get?_convertHold_eq (holds : Table Hold) (own : Option Uuid) (k : Uuid) :
    (convertHold holds own).get? k =
      (holds.get? k).map fun h => if some k = own then h.setStatus .converted else h := by
  cases own with
  | none => simp [convertHold]
  | some id =>
    rw [convertHold, Table.get?_modify]
    simp only [Option.some.injEq]

/-- The hold a booking request names is pending, and its columns are those of the booking. -/
theorem checkBooking_redeems {payload : BookingCreateRequest} {d : BookingDraft}
    (hd : checkBooking rt c s payload = .ok d) :
    d.holdId = payload.holdId ∧ ∀ id, d.holdId = some id →
      ∃ h, s.holds.get? id = some h ∧ h.live (c.now 1) ∧ d.slot = h.toSlot := by
  obtain ⟨start, stop, ctx, -, -, -, -, hhold, -, rfl⟩ := checkBooking_eq_ok.mp hd
  refine ⟨rfl, fun id hid => ?_⟩
  obtain ⟨h, rfl, howned, hlive, hslot⟩ := hhold id hid
  exact ⟨h, (Store.holdOf?_eq_some.mp howned).1, hlive, hslot.symm⟩

/-- **What becomes of a hold.**  Only its status changes, and only from pending; when it is
converted, there is a booking that carries it. -/
theorem RecordChange.hold_fate (hc : RecordChange rt c s op s') {h : Hold}
    (hget : s.holds.get? k = some h) :
    ∃ status, s'.holds.get? k = some (h.setStatus status) ∧
      (status = h.status ∨ h.status = .pending ∧ status = .cancelled ∨
        h.status = .pending ∧ status = .converted ∧ ∃ b ∈ s'.bookings, b.holdId = some k) := by
  cases hc with
  | none hh _ => exact ⟨h.status, hh ▸ hget, .inl rfl⟩
  | holdCreated _ hh _ => exact ⟨h.status, hh ▸ Table.get?_insert_of_some _ hget, .inl rfl⟩
  | @holdCancelled holdId x _ howned hpending hh _ =>
    rw [hh, Table.get?_modify, hget, Option.map_some]
    by_cases hk : k = holdId
    · -- The row that is cancelled is the one that was loaded.
      obtain ⟨hgetx, -⟩ := Store.holdOf?_eq_some.mp howned
      obtain rfl : h = x := Option.some.inj (hget.symm.trans (hk ▸ hgetx))
      exact ⟨.cancelled, by rw [if_pos hk], .inr (.inl ⟨hpending, rfl⟩)⟩
    · exact ⟨h.status, by rw [if_neg hk]; rfl, .inl rfl⟩
  | @bookingCreated _ payload d _ _ hd hh hb =>
    obtain ⟨-, hredeems⟩ := checkBooking_redeems hd
    rw [hh, get?_convertHold_eq, hget, Option.map_some]
    by_cases hk : some k = d.holdId
    · -- The new booking carries the hold that it converts.
      obtain ⟨x, hgetx, hlive, -⟩ := hredeems k hk.symm
      obtain rfl : h = x := Option.mem_unique hget hgetx
      refine ⟨.converted, by rw [if_pos hk], .inr (.inr ⟨hlive.status, rfl, ?_⟩)⟩
      rw [hb]
      exact ⟨_, Table.mem_insert.mpr (.inr rfl), hk.symm⟩
    · exact ⟨h.status, by rw [if_neg hk]; rfl, .inl rfl⟩
  | moved _ hh _ => exact ⟨h.status, hh ▸ hget, .inl rfl⟩
  | statusChanged _ _ _ _ hh _ => exact ⟨h.status, hh ▸ hget, .inl rfl⟩

/-- **Where a hold comes from.**  It was there, or it is new and pending. -/
theorem RecordChange.hold_origin (hc : RecordChange rt c s op s') {h' : Hold}
    (hget : s'.holds.get? k = some h') : (∃ h, s.holds.get? k = some h) ∨ h'.status = .pending := by
  cases hc with
  | none hh _ => exact .inl ⟨h', hh ▸ hget⟩
  | @holdCreated _ d _ _ hh _ =>
    rw [hh, get?_insert_hold] at hget
    split at hget
    · obtain rfl := Option.some.inj hget
      exact .inr rfl
    · exact .inl ⟨h', hget⟩
  | holdCancelled _ _ hh _ =>
    rw [hh, Table.get?_modify, Option.map_eq_some_iff] at hget
    obtain ⟨h, hget, -⟩ := hget
    exact .inl ⟨h, hget⟩
  | bookingCreated _ _ hh _ =>
    rw [hh, get?_convertHold_eq, Option.map_eq_some_iff] at hget
    obtain ⟨h, hget, -⟩ := hget
    exact .inl ⟨h, hget⟩
  | moved _ hh _ => exact .inl ⟨h', hh ▸ hget⟩
  | statusChanged _ _ _ _ hh _ => exact .inl ⟨h', hh ▸ hget⟩

/-! ## §2 One booking under a call -/

theorem BookingPatch.apply_sameResource (p : BookingPatch) (b : Booking) :
    b.toSlot.SameResource (p.apply b).toSlot := rfl

/-- A later form of a booking: the same resource, the same hold. -/
def Booking.Continues (b b' : Booking) : Prop :=
  b.toSlot.SameResource b'.toSlot ∧ b'.holdId = b.holdId

theorem Booking.Continues.refl (b : Booking) : b.Continues b := ⟨.refl _, rfl⟩

/-- An update keeps what it does not name, row by row. -/
theorem updateBooking_continues {id : Uuid} {p : BookingPatch} (b : Booking) :
    b.Continues (if k = id then p.apply b else b) := by
  split
  · exact ⟨p.apply_sameResource b, rfl⟩
  · exact .refl b

/-- **What becomes of a booking.**  It keeps its resource and its hold. -/
theorem RecordChange.booking_fate (hc : RecordChange rt c s op s') {b : Booking}
    (hget : s.bookings.get? k = some b) :
    ∃ b', s'.bookings.get? k = some b' ∧ b.Continues b' := by
  have hpatched : ∀ id (p : BookingPatch),
      ∃ b', (s.updateBooking id p).bookings.get? k = some b' ∧ b.Continues b' := fun id p =>
    ⟨_, by rw [get?_updateBooking, hget, Option.map_some], updateBooking_continues b⟩
  cases hc with
  | none _ hb => exact ⟨b, hb ▸ hget, .refl b⟩
  | holdCreated _ _ hb => exact ⟨b, hb ▸ hget, .refl b⟩
  | holdCancelled _ _ _ hb => exact ⟨b, hb ▸ hget, .refl b⟩
  | bookingCreated _ _ _ hb => exact ⟨b, hb ▸ Table.get?_insert_of_some _ hget, .refl b⟩
  | moved _ _ hb => exact hb ▸ hpatched _ _
  | statusChanged _ _ _ _ _ hb => exact hb ▸ hpatched _ _

/-- The call made the booking `b` out of the hold `id`. -/
structure MadeFrom (c : Call) (s : Store) (op : Op) (id : Uuid) (b : Booking) (s' : Store) :
    Prop where
  request : ∃ payload, op = .createBooking payload ∧ payload.holdId = some id
  hold : ∃ h, s.holds.get? id = some h ∧ h.live (c.now 1) ∧ b.toSlot = h.toSlot ∧
    s'.holds.get? id = some (h.setStatus .converted)

/-- **Where a booking comes from.**  It was there, or it is new, and made from the hold it
carries. -/
theorem RecordChange.booking_origin (hc : RecordChange rt c s op s') {b' : Booking}
    (hget : s'.bookings.get? k = some b') :
    (∃ b, s.bookings.get? k = some b ∧ b.Continues b') ∨
      k = rt.fresh s.bookings ∧ ∀ id, b'.holdId = some id → MadeFrom c s op id b' s' := by
  have hpatched : ∀ id (p : BookingPatch), (s.updateBooking id p).bookings.get? k = some b' →
      ∃ b, s.bookings.get? k = some b ∧ b.Continues b' := by
    intro id p h
    rw [get?_updateBooking, Option.map_eq_some_iff] at h
    obtain ⟨b, hb, rfl⟩ := h
    exact ⟨b, hb, updateBooking_continues b⟩
  cases hc with
  | none _ hb => exact .inl ⟨b', hb ▸ hget, .refl b'⟩
  | holdCreated _ _ hb => exact .inl ⟨b', hb ▸ hget, .refl b'⟩
  | holdCancelled _ _ _ hb => exact .inl ⟨b', hb ▸ hget, .refl b'⟩
  | @bookingCreated _ payload d _ hop hd hh hb =>
    rw [hb, get?_insert_booking] at hget
    by_cases hk : k = rt.fresh s.bookings
    · rw [if_pos hk, Option.some.injEq] at hget
      subst hget
      refine .inr ⟨hk, fun id hid => ?_⟩
      have hcarried : d.holdId = some id := hid
      obtain ⟨hsame, hredeems⟩ := checkBooking_redeems hd
      obtain ⟨h, hgeth, hlive, hslot⟩ := hredeems id hcarried
      refine ⟨?_, h, hgeth, hlive, hslot, ?_⟩
      · -- A repetition carries no hold.
        rcases hop with hop | ⟨_, _, -, hnone⟩
        · exact ⟨payload, hop, hsame ▸ hcarried⟩
        · exact nomatch hcarried.symm.trans (hsame.trans hnone)
      · rw [hh, get?_convertHold_eq, hgeth, Option.map_some, if_pos hcarried.symm]
    · rw [if_neg hk] at hget
      exact .inl ⟨b', hget, .refl b'⟩
  | moved _ _ hb => exact .inl (hpatched _ _ (hb ▸ hget))
  | statusChanged _ _ _ _ _ hb => exact .inl (hpatched _ _ (hb ▸ hget))

/-! ## §3 Converted holds and their bookings -/

/-- The bookings that carry a hold and the converted holds are matched one to one. -/
structure Linked (s : Store) : Prop where
  /-- No operation writes EXPIRED. -/
  written : ∀ id h, s.holds.get? id = some h → h.status ≠ .expired
  carried : ∀ k b id, s.bookings.get? k = some b → b.holdId = some id →
    ∃ h, s.holds.get? id = some h ∧ h.status = .converted ∧ h.toSlot.SameResource b.toSlot
  converted : ∀ id h, s.holds.get? id = some h → h.status = .converted →
    ∃ k b, s.bookings.get? k = some b ∧ b.holdId = some id
  once : ∀ k k' b b' id, s.bookings.get? k = some b → s.bookings.get? k' = some b' →
    b.holdId = some id → b'.holdId = some id → k = k'

theorem Unreserved.linked (h : Unreserved s) : Linked s where
  written := fun _ _ hget => (h.holds _ (Table.mem_of_get? hget)).elim
  carried := fun _ _ _ hget => (h.bookings _ (Table.mem_of_get? hget)).elim
  converted := fun _ _ hget => (h.holds _ (Table.mem_of_get? hget)).elim
  once := fun _ _ _ _ _ hget => (h.bookings _ (Table.mem_of_get? hget)).elim

/-- **One call and the links.** -/
theorem Linked.change (hs : Linked s) (hc : RecordChange rt c s op s') : Linked s' where
  written := fun id h' hget' hexp => by
    rcases hc.hold_origin hget' with ⟨h, hget⟩ | hpending
    · obtain ⟨status, hafter, hcase⟩ := hc.hold_fate hget
      obtain rfl := Option.mem_unique hget' hafter
      rcases hcase with rfl | ⟨-, rfl⟩ | ⟨-, rfl, -⟩
      · exact hs.written id h hget hexp
      · cases hexp
      · cases hexp
    · cases hpending.symm.trans hexp
  carried := fun k b' id hget' hid => by
    rcases hc.booking_origin hget' with ⟨b, hget, hsame, hhold⟩ | ⟨-, hmade⟩
    · obtain ⟨h, hgeth, hconverted, hres⟩ := hs.carried k b id hget (hhold.symm.trans hid)
      -- A converted hold is left alone.
      obtain ⟨status, hafter, rfl | ⟨hpending, -⟩ | ⟨hpending, -⟩⟩ := hc.hold_fate hgeth
      · exact ⟨h, hafter, hconverted, hres.trans hsame⟩
      · cases hconverted.symm.trans hpending
      · cases hconverted.symm.trans hpending
    · obtain ⟨-, h, -, -, hslot, hafter⟩ := hmade id hid
      refine ⟨_, hafter, rfl, ?_⟩
      rw [hslot]
      exact .refl _
  converted := fun id h' hget' hconverted => by
    rcases hc.hold_origin hget' with ⟨h, hget⟩ | hpending
    · obtain ⟨status, hafter, hcase⟩ := hc.hold_fate hget
      obtain rfl := Option.mem_unique hget' hafter
      rcases hcase with rfl | ⟨-, rfl⟩ | ⟨-, -, b, hb, hid⟩
      · obtain ⟨k, b, hgetb, hid⟩ := hs.converted id h hget hconverted
        obtain ⟨b', hgetb', -, hhold⟩ := hc.booking_fate hgetb
        exact ⟨k, b', hgetb', hhold.trans hid⟩
      · cases hconverted
      · exact ⟨b.id, b, Table.get?_of_mem hb, hid⟩
    · cases hpending.symm.trans hconverted
  once := fun k k' b b' id hget hget' hid hid' => by
    -- A hold that is live at the call is not carried by a booking from before it.
    have hnew : ∀ {j : Uuid} {a x : Booking}, s.bookings.get? j = some a → a.holdId = some id →
        ¬ MadeFrom c s op id x s' := by
      rintro j a x hgeta hida ⟨-, h, hgeth, hlive, -⟩
      obtain ⟨h₀, hgeth₀, hconverted, -⟩ := hs.carried j a id hgeta hida
      obtain rfl := Option.mem_unique hgeth₀ hgeth
      cases hconverted.symm.trans hlive.status
    rcases hc.booking_origin hget with ⟨a, hgeta, -, hhold⟩ | ⟨hk, hmade⟩
    · rcases hc.booking_origin hget' with ⟨a', hgeta', -, hhold'⟩ | ⟨-, hmade'⟩
      · exact hs.once k k' a a' id hgeta hgeta' (hhold.symm.trans hid) (hhold'.symm.trans hid')
      · exact (hnew hgeta (hhold.symm.trans hid) (hmade' id hid')).elim
    · rcases hc.booking_origin hget' with ⟨a', hgeta', -, hhold'⟩ | ⟨hk', -⟩
      · exact (hnew hgeta' (hhold'.symm.trans hid') (hmade id hid)).elim
      · exact hk.trans hk'.symm

theorem Linked.run {x y : State} {es : List Event} (hx : Linked x.store)
    (h : Run (SerialStep rt) x es y) : Linked y.store :=
  h.invariant (I := fun x => Linked x.store)
    (fun _ _ _ hx hstep => hx.change hstep.effect.recordChange) hx

/-! ## §4 A hold along a run -/

variable {x y z : State} {es : List Event} {h : Hold}

/-- A later form of a hold: the same row, unless it was pending and has changed its status. -/
def Hold.Becomes (h h' : Hold) : Prop :=
  h' = h.setStatus h'.status ∧ (h'.status = h.status ∨ h.status = .pending)

theorem Hold.Becomes.refl (h : Hold) : h.Becomes h := ⟨rfl, .inl rfl⟩

theorem Hold.Becomes.trans {h₁ h₂ h₃ : Hold} (h₁₂ : h₁.Becomes h₂) (h₂₃ : h₂.Becomes h₃) :
    h₁.Becomes h₃ := by
  obtain ⟨hrow, hstatus⟩ := h₁₂
  obtain ⟨hrow', hstatus'⟩ := h₂₃
  refine ⟨hrow'.trans (by rw [hrow]; rfl), ?_⟩
  rcases hstatus with hsame | hpending
  · rw [← hsame]
    exact hstatus'
  · exact .inr hpending

theorem RecordChange.becomes (hc : RecordChange rt c s op s') (hget : s.holds.get? k = some h) :
    ∃ h', s'.holds.get? k = some h' ∧ h.Becomes h' := by
  obtain ⟨status, hafter, hcase⟩ := hc.hold_fate hget
  refine ⟨_, hafter, rfl, ?_⟩
  rcases hcase with hsame | ⟨hpending, -⟩ | ⟨hpending, -⟩
  · exact .inl hsame
  · exact .inr hpending
  · exact .inr hpending

/-- **One hold along a run.** -/
theorem Hold.becomes_run (hrun : Run (SerialStep rt) x es y)
    (hget : x.store.holds.get? k = some h) :
    ∃ h', y.store.holds.get? k = some h' ∧ h.Becomes h' :=
  hrun.invariant (I := fun w => ∃ h', w.store.holds.get? k = some h' ∧ h.Becomes h')
    (fun _ _ _ ⟨_, hget, hbecomes⟩ hstep =>
      have ⟨h', hget', hnext⟩ := hstep.effect.recordChange.becomes hget
      ⟨h', hget', hbecomes.trans hnext⟩)
    ⟨h, hget, .refl h⟩

/-- The call made the booking `k`, with exactly the hold's columns and window, after it had found
the hold pending and not expired. -/
structure Redeems (h : Hold) (k : Uuid) (x : State) (e : Event) (y : State) : Prop where
  request : ∃ payload, e.op = .createBooking payload ∧ payload.holdId = some h.id
  pending : x.store.holds.get? h.id = some (h.setStatus .pending)
  validated : e.call.now 1 < h.expiresAt
  new : x.store.bookings.get? k = none
  made : ∃ b, y.store.bookings.get? k = some b ∧ b.holdId = some h.id ∧ b.toSlot = h.toSlot

/-- A booking that carries a hold was made from it by some call of the run. -/
theorem madeFrom_since {id : Uuid} {b : Booking} (hempty : Unreserved x.store)
    (hrun : Run (SerialStep rt) x es y) (hget : y.store.bookings.get? k = some b)
    (hid : b.holdId = some id) :
    Since (SerialStep rt)
      (fun u e v => u.store.bookings.get? k = none ∧
        ∃ b, v.store.bookings.get? k = some b ∧ b.holdId = some id ∧
          MadeFrom e.call u.store e.op id b v.store)
      (fun _ _ _ => False) x es y := by
  refine hrun.since (P := fun w => ∃ b, w.store.bookings.get? k = some b ∧ b.holdId = some id)
    (fun u e v _ hstep hv => ?_) (fun ⟨b, hget, _⟩ => hempty.bookings b (Table.mem_of_get? hget))
    ⟨b, hget, hid⟩
  obtain ⟨b', hget', hid'⟩ := hv
  rcases hstep.effect.recordChange.booking_origin hget' with ⟨b₀, hget₀, -, hhold⟩ | ⟨hk, hmade⟩
  · exact .inr ⟨⟨b₀, hget₀, hhold.symm.trans hid'⟩, not_false⟩
  · -- A row under a fresh key is new.
    refine .inl ⟨?_, b', hget', hid', hmade id hid'⟩
    rw [hk]
    exact rt.get?_fresh _

/-- **Redemption.**  A booking that carries a hold was created by a call of the run that found the
hold pending, at a time before it expired. -/
theorem redeemed_since {b : Booking} (hempty : Unreserved x.store)
    (hrun : Run (SerialStep rt) x es y) (hget : y.store.holds.get? h.id = some h)
    (hgetb : y.store.bookings.get? k = some b) (hid : b.holdId = some h.id) :
    Since (SerialStep rt) (Redeems h k) (fun _ _ _ => False) x es y := by
  refine (madeFrom_since hempty hrun hgetb hid).imp fun u e v es₂ hevent hrest => ?_
  obtain ⟨hnew, b₀, hget₀, hid₀, hrequest, h₀, hgeth₀, hlive, hslot, hconverted⟩ := hevent
  -- The row that was converted is the hold as the run leaves it, up to its status.
  obtain ⟨h', hget', hrow, -⟩ := Hold.becomes_run hrest hconverted
  obtain rfl : h' = h := Option.mem_unique hget' hget
  have hbefore : h₀ = h'.setStatus .pending := by
    rw [hrow, ← hlive.status]
    rfl
  refine ⟨hrequest, hgeth₀.trans (congrArg some hbefore), ?_, hnew, b₀, hget₀, hid₀, ?_⟩
  · rw [hrow]
    exact hlive.2
  · rw [hslot, hbefore]
    rfl

/-- The hold can be booked with no more: it is not pending, or its time has passed. -/
def Hold.Over (h : Hold) (now : Instant) : Prop := h.status ≠ .pending ∨ h.expiresAt ≤ now

theorem Hold.Over.not_live {h' : Hold} {now later : Instant} (hover : h.Over now)
    (hlater : now ≤ later) (hbecomes : h.Becomes h') : ¬ h'.live later := by
  intro hlive
  obtain ⟨hrow, hstatus⟩ := hbecomes
  rcases hover with hdone | hexpired
  · rcases hstatus with hsame | hpending
    · exact hdone (hsame.symm.trans hlive.status)
    · exact hdone hpending
  · have hexp : h'.expiresAt = h.expiresAt := by rw [hrow]; rfl
    exact absurd hlive.2 (not_lt_of_ge (hexp.trans_le (hexpired.trans hlater)))

/-- **No second life.**  From a state in which a hold is over, no run makes a booking from it. -/
theorem Hold.Over.no_booking {b : Booking} (hover : h.Over y.now)
    (hget : y.store.holds.get? h.id = some h) (hrun : Run (SerialStep rt) y es z)
    (hgetb : z.store.bookings.get? k = some b) (hid : b.holdId = some h.id) :
    ∃ b', y.store.bookings.get? k = some b' ∧ b'.holdId = some h.id := by
  revert b
  refine hrun.history (I := fun _ w => ∀ {b}, w.store.bookings.get? k = some b →
    b.holdId = some h.id → _) (fun es₁ u e v hrun₁ ih hstep b hgetb hid => ?_)
    (fun hgetb hid => ⟨_, hgetb, hid⟩)
  rcases hstep.effect.recordChange.booking_origin hgetb with ⟨b₀, hget₀, -, hhold⟩ | ⟨-, hmade⟩
  · exact ih hget₀ (hhold.symm.trans hid)
  · obtain ⟨-, h₀, hget₀, hlive, -⟩ := hmade h.id hid
    obtain ⟨h', hget', hbecomes⟩ := Hold.becomes_run hrun₁ hget
    obtain rfl : h₀ = h' := Option.mem_unique hget₀ hget'
    have hclock : y.now ≤ e.call.now 1 :=
      (serialRun_now_le hrun₁).trans (hstep.reading (by decide)).1
    exact absurd hlive (hover.not_live hclock hbecomes)

/-! ## §5 The life cycle -/

/-- What holds of every hold in a reached state. -/
structure LifeCycle (rt : Runtime) (x : State) (es : List Event) (y : State) (h : Hold) :
    Prop where
  status : h.status = .pending ∨ h.status = .cancelled ∨ h.status = .converted
  /-- The status only ever moves from pending, and nothing else of the row changes. -/
  moves : ∀ fs z, Run (SerialStep rt) y fs z →
    ∃ h', z.store.holds.get? h.id = some h' ∧ h.Becomes h'
  converted : h.status = .converted ↔ ∃! b, b ∈ y.store.bookings ∧ b.holdId = some h.id
  otherwise : h.status ≠ .converted → ∀ b ∈ y.store.bookings, b.holdId ≠ some h.id
  resource : ∀ b ∈ y.store.bookings, b.holdId = some h.id → h.toSlot.SameResource b.toSlot
  redeemed : ∀ b ∈ y.store.bookings, b.holdId = some h.id →
    Since (SerialStep rt) (Redeems h b.id) (fun _ _ _ => False) x es y
  ended : h.Over y.now → ∀ fs z, Run (SerialStep rt) y fs z → ∀ b ∈ z.store.bookings,
    b.holdId = some h.id → ∃ b' ∈ y.store.bookings, b'.id = b.id ∧ b'.holdId = some h.id

/-- **The life of a hold.**  In every state a serial run reaches from a store without holds and
bookings, every hold is pending, cancelled or converted and only ever moves from pending; it is
converted exactly when one booking carries it, and that one was created for its resource and its
window while it was live; once it is over it produces no booking. -/
theorem hold_life_cycle {x y : State} {es : List Event} (hempty : Unreserved x.store)
    (hrun : Run (SerialStep rt) x es y) : ∀ h ∈ y.store.holds, LifeCycle rt x es y h := by
  intro h hmem
  have hlinked : Linked y.store := hempty.linked.run hrun
  have hget : y.store.holds.get? h.id = some h := Table.get?_of_mem hmem
  have hcarried : ∀ b ∈ y.store.bookings, b.holdId = some h.id →
      h.status = .converted ∧ h.toSlot.SameResource b.toSlot := by
    intro b hb hid
    obtain ⟨h', hget', hstatus, hsame⟩ := hlinked.carried b.id b h.id (Table.get?_of_mem hb) hid
    obtain rfl : h' = h := Option.mem_unique hget' hget
    exact ⟨hstatus, hsame⟩
  refine
    { status := ?_
      moves := fun fs z hfs => Hold.becomes_run hfs hget
      converted := ⟨fun hconverted => ?_, fun ⟨b, ⟨hb, hid⟩, _⟩ => (hcarried b hb hid).1⟩
      otherwise := fun hne b hb hid => hne (hcarried b hb hid).1
      resource := fun b hb hid => (hcarried b hb hid).2
      redeemed := fun b hb hid => redeemed_since hempty hrun hget (Table.get?_of_mem hb) hid
      ended := fun hover fs z hfs b hb hid => ?_ }
  · have hwritten := hlinked.written h.id h hget
    cases hs : h.status with
    | pending => exact .inl rfl
    | expired => exact absurd hs hwritten
    | cancelled => exact .inr (.inl rfl)
    | converted => exact .inr (.inr rfl)
  · obtain ⟨k, b, hgetb, hid⟩ := hlinked.converted h.id h hget hconverted
    refine ⟨b, ⟨Table.mem_of_get? hgetb, hid⟩, fun b' ⟨hb', hid'⟩ => ?_⟩
    have hgetb' : y.store.bookings.get? b'.id = some b' := Table.get?_of_mem hb'
    -- Two bookings that carry one hold have one id.
    rw [hlinked.once _ _ _ _ h.id hgetb' hgetb hid' hid] at hgetb'
    exact Option.mem_unique hgetb' hgetb
  · obtain ⟨b', hgetb', hid'⟩ := hover.no_booking hget hfs (Table.get?_of_mem hb) hid
    exact ⟨b', Table.mem_of_get? hgetb', Table.key_of_get? hgetb', hid'⟩

/-- User 7 holds seat `A1` and books it. -/
theorem hold_life_cycle_smallRun :
    ∃ h ∈ (replay .plain smallStore smallEvents).holds, h.status = .converted ∧
      LifeCycle .plain ⟨0, smallStore⟩ smallEvents ⟨1, replay .plain smallStore smallEvents⟩ h :=
  have hmem := Table.mem_of_get? (t := (replay .plain smallStore smallEvents).holds) (k := 1) rfl
  ⟨_, hmem, rfl, hold_life_cycle smallStore_unreserved smallRun _ hmem⟩

end Coworking
