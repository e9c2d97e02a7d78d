import Coworking.System.Competition

/-!
# What a Request does to Availability

The page of free slots is drawn from the records, so a hold or a booking that is granted changes
the pages of other users.  It should change no more than it has to: other venues, other windows,
the grid itself and every refusal stay as they were, and taking the request back restores the page.

- `AvailabilityQuery.answer`: a call of `get_availability`;
- `answer_of_inTheWay`: two stores on one tree answer alike, up to what is in the way of a slot;
- `Reservation.Takes`: the slots that a reservation takes from an answer;
- `availability_exact`: every answer after a granted request, and after it is taken back.
-/

namespace Coworking

open Foundation

variable {rt : Runtime} {c c' : Call} {now : Instant} {s s' : Store} {op : Op}
  {p : HoldCreateRequest} {ctx : ResourceContext} {start stop : Instant}

/-! ## §1 Queries -/

structure AvailabilityQuery where
  level : BookingLevel
  seatId : Option Uuid
  roomId : Option Uuid
  venueId : Option Uuid
  targetDate : Date
  durationMinutes : Int

def AvailabilityQuery.answer (rt : Runtime) (c : Call) (s : Store) (q : AvailabilityQuery) :
    Except ServiceError AvailabilityResponse :=
  getAvailability rt c s q.level q.seatId q.roomId q.venueId q.targetDate q.durationMinutes

/-- The resource of the query. -/
abbrev AvailabilityQuery.On (q : AvailabilityQuery) (s : Store) (ctx : ResourceContext) : Prop :=
  Resolves s q.level q.seatId q.roomId q.venueId ctx

/-- A slot that is taken is not available; what was not available before is not either. -/
def AvailabilitySlot.without (taken : AvailabilitySlot → Prop) [DecidablePred taken]
    (slot : AvailabilitySlot) : AvailabilitySlot :=
  { slot with available := slot.available && !decide (taken slot) }

/-- The answer with these slots taken. -/
def AvailabilityResponse.without (taken : AvailabilitySlot → Prop) [DecidablePred taken]
    (resp : AvailabilityResponse) : AvailabilityResponse :=
  { resp with timeSlots := resp.timeSlots.map (AvailabilitySlot.without taken) }

theorem AvailabilityResponse.without_false (resp : AvailabilityResponse) :
    resp.without (fun _ => False) = resp := by
  have hslot : (AvailabilitySlot.without fun _ => False) = id := by
    funext slot
    simp [AvailabilitySlot.without]
  simp [AvailabilityResponse.without, hslot]

/-! ## §2 What is in the way -/

/-- A record that the query for the day returned overlaps the window. -/
def InTheWay (now : Instant) (s : Store) (ctx : ResourceContext) (dayStart dayEnd start stop :
    Instant) : Prop :=
  (∃ b ∈ (loadConflicts now s ctx dayStart dayEnd).1, overlaps start stop b.startTime b.endTime) ∨
    ∃ h ∈ (loadConflicts now s ctx dayStart dayEnd).2, overlaps start stop h.startTime h.endTime

/-- A record for this slot is in the way, if it blocks. -/
def Slot.InTheWay (s : Store) (ctx : ResourceContext) (dayStart dayEnd start stop : Instant)
    (slot : Slot) : Prop :=
  Overlaps dayStart dayEnd slot.startTime slot.endTime ∧ conflictFilter s ctx slot ∧
    Overlaps start stop slot.startTime slot.endTime

theorem inTheWay_iff {dayStart dayEnd : Instant} :
    InTheWay now s ctx dayStart dayEnd start stop ↔
      (∃ b ∈ s.bookings, b.status.blocking ∧ b.toSlot.InTheWay s ctx dayStart dayEnd start stop) ∨
      ∃ h ∈ s.holds, h.live now ∧ h.toSlot.InTheWay s ctx dayStart dayEnd start stop := by
  simp only [Coworking.InTheWay, mem_loadConflicts_bookings, mem_loadConflicts_holds, and_assoc]
  rfl

/-- From opening to closing, in UTC. -/
def dayRange (rt : Runtime) (s : Store) (ctx : ResourceContext) (targetDate : Date) :
    Option (Instant × Instant) := do
  let hours ← resolveOperatingHours s ctx targetDate
  let tz ← rt.zoneInfo ctx.timezone
  some (tz.toUtc (combine targetDate hours.1), tz.toUtc (combine targetDate hours.2))

theorem SameTree.resolveResource (h : SameTree s s') (level : BookingLevel)
    (seatId roomId venueId : Option Uuid) :
    resolveResource s' level seatId roomId venueId = resolveResource s level seatId roomId venueId := by
  simp only [Coworking.resolveResource, Store.seat?, Store.room?, Store.venue?, h.venues, h.rooms,
    h.seats]

theorem Slot.inTheWay_congr (h : SameTree s s') :
    Slot.InTheWay s' ctx = Slot.InTheWay s ctx := by
  funext dayStart dayEnd start stop slot
  rw [Slot.InTheWay, Slot.InTheWay, h.conflictFilter]

/-- The loop appends the same slots, apart from what has come in the way. -/
theorem slotLoop_without {tz : Zone} {bookings bookings' : List Booking} {holds holds' : List Hold}
    {seatId : Option Uuid} {duration : Int} (hpos : 0 < duration) {slotEndLimit w : Int}
    {taken : AvailabilitySlot → Prop} [DecidablePred taken]
    (h : ∀ slot : AvailabilitySlot,
      ((∃ b ∈ bookings', overlaps slot.startTime slot.endTime b.startTime b.endTime) ∨
        ∃ x ∈ holds', overlaps slot.startTime slot.endTime x.startTime x.endTime) ↔
      ((∃ b ∈ bookings, overlaps slot.startTime slot.endTime b.startTime b.endTime) ∨
        ∃ x ∈ holds, overlaps slot.startTime slot.endTime x.startTime x.endTime) ∨ taken slot) :
    slotLoop tz bookings' holds' seatId duration hpos slotEndLimit w =
      (slotLoop tz bookings holds seatId duration hpos slotEndLimit w).map
        (AvailabilitySlot.without taken) := by
  rw [slotLoop_eq, slotLoop_eq, List.map_map]
  refine List.map_congr_left fun k _ => ?_
  have hslot := h (slotAt tz bookings holds seatId duration (w + k * duration))
  simp only [slotAt] at hslot
  simp only [slotAt, Function.comp_def, AvailabilitySlot.without, hslot, Bool.decide_or,
    Bool.not_or]

/-- **Two answers.**  On one tree they are the same error, or the same grid; a slot is available in
the second if it is in the first and nothing has come in its way. -/
theorem answer_of_inTheWay {q : AvailabilityQuery} {taken : AvailabilitySlot → Prop}
    [DecidablePred taken] (htree : SameTree s s')
    (h : ∀ ctx range, q.On s ctx → dayRange rt s ctx q.targetDate = some range →
      ∀ slot : AvailabilitySlot,
        InTheWay (c.now 0) s' ctx range.1 range.2 slot.startTime slot.endTime ↔
          InTheWay (c.now 0) s ctx range.1 range.2 slot.startTime slot.endTime ∨ taken slot) :
    q.answer rt c s' = (AvailabilityResponse.without taken) <$> q.answer rt c s := by
  unfold AvailabilityQuery.answer getAvailability
  split
  · rfl
  · rw [htree.resolveResource]
    simp only [map_bind]
    refine bind_congr_ok fun ctx hctx => ?_
    rw [htree.grows.sameRule, htree.grows.sameHours]
    refine bind_congr_ok fun _ _ => bind_congr_ok fun _ _ => ?_
    cases hhours : resolveOperatingHours s ctx q.targetDate with
    | none => rfl
    | some hours =>
      simp only [map_bind]
      refine bind_congr_ok fun tz htz => ?_
      split
      · rfl
      · -- Both answers have the slots of one grid; they differ in the flags.
        have hrange : dayRange rt s ctx q.targetDate =
            some (tz.toUtc (combine q.targetDate hours.1),
              tz.toUtc (combine q.targetDate hours.2)) := by
          simp [dayRange, hhours, (found_eq_ok _ _ _).mp htz]
        refine congrArg (fun slots => Except.ok (AvailabilityResponse.mk q.targetDate slots)) ?_
        exact slotLoop_without _ fun slot => h ctx _ (resolveResource_eq_ok.mp hctx) hrange slot

/-- Two stores with one tree, the same blocking bookings and the same blocking holds. -/
theorem answer_of_sameBlocking {q : AvailabilityQuery} (htree : SameTree s s')
    (hbookings : ∀ b : Booking, b.status.blocking → (b ∈ s'.bookings ↔ b ∈ s.bookings))
    (hholds : ∀ x : Hold, x.status.blocking → (x ∈ s'.holds ↔ x ∈ s.holds)) :
    q.answer rt c s' = q.answer rt c s := by
  have hsame : q.answer rt c s' =
      (AvailabilityResponse.without fun _ => False) <$> q.answer rt c s := by
    refine answer_of_inTheWay htree fun ctx range _ _ slot => ?_
    rw [or_false, inTheWay_iff, inTheWay_iff, Slot.inTheWay_congr htree]
    refine or_congr (exists_congr fun b => ?_) (exists_congr fun x => ?_)
    · rw [← and_assoc, ← and_assoc]
      exact and_congr_left' (and_congr_left fun hb => hbookings b hb)
    · rw [← and_assoc, ← and_assoc]
      exact and_congr_left' (and_congr_left fun hx => hholds x hx.1)
  rw [hsame]
  cases q.answer rt c s with
  | error e => rfl
  | ok resp => exact congrArg Except.ok resp.without_false

/-! ## §3 What a reservation takes -/

/-- The reservation blocks, the slot overlaps it, and it is one of the records of the day at the
venue of the query. -/
structure Reservation.Takes (rt : Runtime) (s : Store) (now : Instant) (q : AvailabilityQuery)
    (r : Reservation) (slot : AvailabilitySlot) : Prop where
  blocks : r.Blocks now
  overlaps : overlaps slot.startTime slot.endTime r.slot.startTime r.slot.endTime
  onDay : ∃ ctx range, q.On s ctx ∧ r.slot.venueId = some ctx.venueId ∧
    dayRange rt s ctx q.targetDate = some range ∧
    Overlaps range.1 range.2 r.slot.startTime r.slot.endTime

/-- The row of a reservation, whichever table it is in. -/
theorem Reservation.exists_row_iff {r : Reservation} {bookingId holdId : Uuid}
    {P : Slot → Prop} :
    ((∃ b ∈ r.bookingRows bookingId, b.status.blocking ∧ P b.toSlot) ∨
      ∃ x ∈ r.holdRows holdId, x.live now ∧ P x.toSlot) ↔ r.Blocks now ∧ P r.slot := by
  cases r with
  | hold d =>
    have hlive : (d.row holdId).live now ↔ now < d.expiresAt := ⟨fun h => h.2, fun h => ⟨rfl, h⟩⟩
    simp only [Reservation.bookingRows, Reservation.holdRows, List.not_mem_nil, false_and,
      exists_false, false_or, List.mem_singleton, exists_eq_left, hlive]
    rfl
  | booking d hnone =>
    simp only [Reservation.bookingRows, Reservation.holdRows, List.not_mem_nil, false_and,
      exists_false, or_false, List.mem_singleton, exists_eq_left]
    rfl

/-- What is in the way after a reservation: what was before, and the reservation itself. -/
theorem Reservation.write_inTheWay_iff {r : Reservation} {dayStart dayEnd now' : Instant} :
    InTheWay now' (r.write rt now s) ctx dayStart dayEnd start stop ↔
      InTheWay now' s ctx dayStart dayEnd start stop ∨
        r.Blocks now' ∧ r.slot.InTheWay s ctx dayStart dayEnd start stop := by
  have hbookings : ∀ b, b ∈ (r.write rt now s).bookings ↔
      b ∈ s.bookings ∨ b ∈ r.bookingRows (rt.fresh s.bookings) := fun b => by
    rw [Table.mem_def, r.write_bookings, List.mem_append]
    rfl
  have hholds : ∀ x, x ∈ (r.write rt now s).holds ↔
      x ∈ s.holds ∨ x ∈ r.holdRows (rt.fresh s.holds) := fun x => by
    rw [Table.mem_def, r.write_holds, List.mem_append]
    rfl
  rw [inTheWay_iff, inTheWay_iff, Slot.inTheWay_congr (r.write_sameTree rt now s)]
  simp only [hbookings, hholds, or_and_right, exists_or]
  rw [or_or_or_comm, r.exists_row_iff]

/-- **An answer after a reservation.** -/
theorem Reservation.answer_write {r : Reservation} {q : AvailabilityQuery}
    [DecidablePred (r.Takes rt s (c'.now 0) q)] (hr : r.slot.Decodes s) :
    q.answer rt c' (r.write rt now s) =
      (AvailabilityResponse.without (r.Takes rt s (c'.now 0) q)) <$> q.answer rt c' s := by
  refine answer_of_inTheWay (r.write_sameTree rt now s) fun ctx range hres hrange slot => ?_
  rw [r.write_inTheWay_iff, Slot.InTheWay, conflictFilter_iff_venueId hres hr]
  refine or_congr_right ⟨fun ⟨hblocks, hday, hvenue, hslot⟩ => ?_, fun h => ?_⟩
  · exact ⟨hblocks, hslot, ctx, range, hres, hvenue, hrange, hday⟩
  · obtain ⟨ctx', range', hres', hvenue, hrange', hday⟩ := h.onDay
    -- A query resolves to one resource.
    obtain rfl := hres.unique hres'
    obtain rfl := Option.mem_unique hrange hrange'
    exact ⟨h.blocks, hday, hvenue, h.overlaps⟩

/-! ## §4 Taking a request back -/

/-- The cancellation of what a request has created. -/
def Op.undo (rt : Runtime) (s : Store) : Op → Op
  | .createHold _ => .cancelHold (rt.fresh s.holds)
  | _ => .cancelBooking (rt.fresh s.bookings)

variable {s'' : Store} {q : AvailabilityQuery}

/-- **A hold taken back.** -/
theorem answer_cancelHold {d : HoldDraft}
    (h : cancelHold c (commitHold rt s d).1 (rt.fresh s.holds) = .ok s'') :
    q.answer rt c' s'' = q.answer rt c' s := by
  obtain ⟨row, hrow, rfl⟩ := cancelHold_eq_ok.mp h
  have hget : (commitHold rt s d).1.holds.get? (rt.fresh s.holds) =
      some (d.row (rt.fresh s.holds)) := Table.get?_insert_self (d.row_fresh rt s.holds)
  obtain rfl : d.row (rt.fresh s.holds) = row :=
    Option.mem_unique hget (Store.holdOf?_eq_some.mp hrow).1
  -- The row that was found is the new one, which is pending.
  rw [if_pos (show (d.row (rt.fresh s.holds)).status = .pending from rfl)]
  refine answer_of_sameBlocking ⟨rfl, rfl, rfl, rfl, rfl⟩ (fun _ _ => Iff.rfl) fun x hx => ?_
  refine (Table.mem_modify_insert (d.row_fresh rt s.holds) (Hold.setStatus_key .cancelled)).trans
    (or_iff_left ?_)
  rintro rfl
  cases hx

/-- **A booking taken back.** -/
theorem answer_cancelBooking {d : BookingDraft} (hnone : d.holdId = none)
    (hblocks : d.status.blocking)
    (h : cancelBooking c (commitBooking rt now s d).1 (rt.fresh s.bookings) = .ok s'') :
    q.answer rt c' s'' = q.answer rt c' s := by
  obtain ⟨r, hr, rfl⟩ := cancelBooking_eq_ok.mp h
  obtain ⟨row, hrow, rfl⟩ := checkCancel_eq_ok.mp hr
  have hget : (commitBooking rt now s d).1.bookings.get? (rt.fresh s.bookings) =
      some (d.row (rt.fresh s.bookings)) := Table.get?_insert_self (d.row_fresh rt s.bookings)
  obtain rfl : d.row (rt.fresh s.bookings) = row :=
    Option.mem_unique hget (Store.bookingOf?_eq_some.mp hrow).1
  have hstatus : (d.row (rt.fresh s.bookings)).status ≠ .cancelled := by
    intro hcancelled
    rw [show d.status = .cancelled from hcancelled] at hblocks
    cases hblocks
  rw [if_neg hstatus]
  refine answer_of_sameBlocking ⟨rfl, rfl, rfl, rfl, rfl⟩ (fun b hb => ?_) fun x _ => ?_
  · refine (Table.mem_modify_insert (d.row_fresh rt s.bookings) (BookingPatch.apply_key _)).trans
      (or_iff_left ?_)
    rintro rfl
    rw [BookingPatch.apply_status, dirty_getD] at hb
    cases hb
  · -- No hold was converted.
    show x ∈ convertHold s.holds d.holdId ↔ _
    rw [hnone]
    rfl

open scoped Classical in
/-- **Availability changes by what was asked for.**  A hold, or a booking without a hold, that is
granted takes from every later answer of `get_availability` the slots of its venue that overlap its
window, as long as it blocks: nothing becomes available, and all other slots, the grid and the
errors stay.  If it is cancelled right away, every answer is what it was before. -/
theorem availability_exact (h : op.Asks p) (hok : exec rt c s op = .ok s') :
    ∃ ctx start stop, Grants rt c s op p ctx start stop ∧
      (∀ c' (q : AvailabilityQuery), q.answer rt c' s' = (AvailabilityResponse.without
        ((op.reservation c.rows (c.now 0) s c.user ctx start stop).Takes rt s (c'.now 0) q)) <$>
          q.answer rt c' s) ∧
      ∀ c₁ s₁, exec rt c₁ s' (op.undo rt s) = .ok s₁ →
        ∀ c' (q : AvailabilityQuery), q.answer rt c' s₁ = q.answer rt c' s := by
  obtain ⟨ctx, start, stop, hg, rfl⟩ := (exec_asks_eq_ok h).mp hok
  refine ⟨ctx, start, stop, hg, fun c' q => ?_, fun c₁ s₁ hundo c' q => ?_⟩
  · refine Reservation.answer_write ?_
    rw [h.reservation_slot]
    exact hg.resolves.decodes c.user start stop
  · cases h with
    | hold p => exact answer_cancelHold hundo
    | booking p => exact answer_cancelBooking rfl (initialStatus_blocking _) hundo

/-- User 7, at a clock that ticks. -/
def tickingCall : Call := ⟨7, ⟨fun n => n, Int.ofNat_le.mpr⟩, .first⟩

/-- Seat `A1` is on hold for user 7, who cancels: no page of free slots shows that it was. -/
theorem availability_exact_seat :
    ∃ held cancelled, exec .plain tickingCall smallStore (.createHold smallHold) = .ok held ∧
      exec .plain (.plain 7 4) held (.cancelHold 1) = .ok cancelled ∧
      ∀ c' (q : AvailabilityQuery), q.answer .plain c' cancelled = q.answer .plain c' smallStore := by
  have hheld : exec .plain tickingCall smallStore (.createHold smallHold) = .ok _ := rfl
  obtain ⟨-, -, -, -, -, hundo⟩ := availability_exact (.hold smallHold) hheld
  have hcancelled : exec .plain (.plain 7 4) (replay .plain smallStore
      [⟨tickingCall, .createHold smallHold⟩]) (.cancelHold 1) = .ok _ := rfl
  exact ⟨_, _, hheld, hcancelled, hundo (.plain 7 4) _ hcancelled⟩

end Coworking
