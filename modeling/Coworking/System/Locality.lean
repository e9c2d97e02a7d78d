import Coworking.System.HoldOrBook

/-!
# Decisions about Slots Are Local

Four services decide about slots: two create, one moves and one lists.  Each resolves its
resource, reads the rule and the hours that apply, and asks one query for conflicting records.
That query spells out seats, rooms and the venue, and picks ids from two lists; among rows whose
columns follow the tree it comes down to the venue.

- `Placed`: every hold and booking decodes to itself; every reached store is so;
- `mem_loadConflicts_placed`: the conflict query, by the venue alone;
- `Agree`: two stores agree on what a request may look at;
- `decisions_local`: they then give it the same answer.
-/

namespace Coworking

open Foundation

variable {rt : Runtime} {c : Call} {now : Instant} {s s' : Store} {ctx : ResourceContext}
  {start stop : Instant}

/-! ## §1 The conflict query among placed rows -/

/-- The venue, room and seat columns of the holds and bookings follow the space tree. -/
structure Placed (s : Store) : Prop where
  bookings : ∀ b ∈ s.bookings, b.toSlot.Decodes s
  holds : ∀ h ∈ s.holds, h.toSlot.Decodes s

/-- The services only write such rows. -/
theorem Sound.placed (hs : Sound s) : Placed s := ⟨hs.bookings, hs.holds⟩

/-- **The conflict query looks at the venue only.** -/
theorem mem_loadConflicts_placed {level : BookingLevel} {seatId roomId venueId : Option Uuid}
    (hs : Placed s) (hres : Resolves s level seatId roomId venueId ctx)
    (now start stop : Instant) :
    (∀ b, b ∈ (loadConflicts now s ctx start stop).1 ↔
      b ∈ s.bookings ∧ b.status.blocking ∧ overlaps start stop b.startTime b.endTime ∧
        b.venueId = some ctx.venueId) ∧
    ∀ h, h ∈ (loadConflicts now s ctx start stop).2 ↔
      h ∈ s.holds ∧ h.live now ∧ overlaps start stop h.startTime h.endTime ∧
        h.venueId = some ctx.venueId := by
  refine ⟨fun b => mem_loadConflicts_bookings.trans (and_congr_right fun hb => ?_),
    fun h => mem_loadConflicts_holds.trans (and_congr_right fun hh => ?_)⟩
  · rw [conflictFilter_iff_venueId hres (hs.bookings b hb)]
  · rw [conflictFilter_iff_venueId hres (hs.holds h hh)]

/-! ## §2 Requests -/

/-- The level of a request and the ids it gives. -/
structure Target where
  level : BookingLevel
  seatId : Option Uuid
  roomId : Option Uuid
  venueId : Option Uuid

/-- The resources whose ids are given. -/
inductive Target.Names (t : Target) : Resource → Prop
  | seat {id : Uuid} : t.seatId = some id → t.Names (.seat id)
  | room {id : Uuid} : t.roomId = some id → t.Names (.room id)
  | venue {id : Uuid} : t.venueId = some id → t.Names (.venue id)

/-- The services that decide about a slot.  A booking that redeems a hold is not among them: it
looks at the hold too. -/
inductive SlotRequest
  | createHold (payload : HoldCreateRequest)
  | createBooking (payload : BookingCreateRequest) (hnone : payload.holdId = none)
  | rescheduleBooking (booking : Booking) (payload : BookingWindowUpdateRequest)
  | getAvailability (target : Target) (targetDate : Date) (durationMinutes : Int)

/-- What the request is resolved by. -/
def SlotRequest.target : SlotRequest → Target
  | .createHold p => ⟨p.level, p.seatId, p.roomId, p.venueId⟩
  | .createBooking p _ => ⟨p.level, p.seatId, p.roomId, p.venueId⟩
  | .rescheduleBooking b _ =>
    ⟨b.level, (resourceKwargsForLevel b.toSlot).1, (resourceKwargsForLevel b.toSlot).2.1,
      (resourceKwargsForLevel b.toSlot).2.2⟩
  | .getAvailability t _ _ => t

/-- The answer: an error, the slots of a day, or that the request is accepted. -/
def SlotRequest.answer (rt : Runtime) (c : Call) (s : Store) :
    SlotRequest → Except ServiceError (Option AvailabilityResponse)
  | .createHold p => (fun _ => none) <$> Coworking.createHold rt c s p
  | .createBooking p _ => (fun _ => none) <$> Coworking.createBooking rt c s p
  | .rescheduleBooking b p => (fun _ => none) <$> Coworking.rescheduleBooking rt c s b.id p
  | .getAvailability t targetDate durationMinutes =>
    some <$> Coworking.getAvailability rt c s t.level t.seatId t.roomId t.venueId targetDate
      durationMinutes

/-- The window a request is about; that of a list of slots is from opening to closing. -/
def SlotRequest.Window (rt : Runtime) (s : Store) (ctx : ResourceContext) (start stop : Instant) :
    SlotRequest → Prop
  | .createHold p => p.startTime.instant? = some start ∧ p.endTime.instant? = some stop
  | .createBooking p _ => p.startTime.instant? = some start ∧ p.endTime.instant? = some stop
  | .rescheduleBooking _ p => p.startTime.instant? = some start ∧ p.endTime.instant? = some stop
  | .getAvailability _ targetDate _ => ∃ hours tz,
    resolveOperatingHours s ctx targetDate = some hours ∧ rt.zoneInfo ctx.timezone = some tz ∧
      start = tz.toUtc (combine targetDate hours.1) ∧ stop = tz.toUtc (combine targetDate hours.2)

/-! ## §3 Agreement of two stores -/

/-- The row of a resource is the same in both. -/
def SameRow (s s' : Store) : Resource → Prop
  | .seat id => s'.seat? id = s.seat? id
  | .room id => s'.room? id = s.room? id
  | .venue id => s'.venue? id = s.venue? id

/-- The rows of the resources a request names, and of what these lie in, are the same. -/
def SameChain (s s' : Store) (t : Target) : Prop :=
  ∀ a, t.Names a → ∀ b, s.Within a b → SameRow s s' b

/-- The hours of the room and the rules of the room and the venue are the same, as the queries
return them. -/
structure SameTerms (s s' : Store) (ctx : ResourceContext) : Prop where
  hours : ∀ id, ctx.roomId = some id → ∀ weekday,
    s'.roomHours.get? (id, weekday) = s.roomHours.get? (id, weekday)
  roomRules : ∀ id, ctx.roomId = some id →
    s'.bookingRules.rows.filter (·.roomId = some id) =
      s.bookingRules.rows.filter (·.roomId = some id)
  venueRules : s'.bookingRules.rows.filter (·.venueId = some ctx.venueId) =
    s.bookingRules.rows.filter (·.venueId = some ctx.venueId)

/-- The blocking bookings and live holds of the venue that overlap the window are the same. -/
structure SameClaims (now : Instant) (s s' : Store) (venueId : Uuid) (start stop : Instant) :
    Prop where
  bookings : ∀ b : Booking, b.venueId = some venueId → b.status.blocking →
    overlaps start stop b.startTime b.endTime → (b ∈ s'.bookings ↔ b ∈ s.bookings)
  holds : ∀ h : Hold, h.venueId = some venueId → h.live now →
    overlaps start stop h.startTime h.endTime → (h ∈ s'.holds ↔ h ∈ s.holds)

/-- Two stores agree on what a request may look at. -/
structure Agree (rt : Runtime) (now : Instant) (s s' : Store) (q : SlotRequest) : Prop where
  chain : SameChain s s' q.target
  terms : ∀ ctx, Resolves s q.target.level q.target.seatId q.target.roomId q.target.venueId ctx →
    SameTerms s s' ctx
  claims : ∀ ctx start stop,
    Resolves s q.target.level q.target.seatId q.target.roomId q.target.venueId ctx →
    q.Window rt s ctx start stop → SameClaims now s s' ctx.venueId start stop
  /-- A booking that is moved is there in both. -/
  booking : ∀ b p, q = .rescheduleBooking b p → b ∈ s.bookings ∧ b ∈ s'.bookings

/-! ## §4 What the parts of a decision read -/

/-- **Resolution** reads the chain upwards. -/
theorem SameChain.resolveResource {t : Target} (h : SameChain s s' t) :
    resolveResource s' t.level t.seatId t.roomId t.venueId =
      resolveResource s t.level t.seatId t.roomId t.venueId := by
  rcases t with ⟨level, seatId, roomId, venueId⟩
  cases level with
  | seat =>
    rcases seatId with _ | id
    · rfl
    · rcases roomId with _ | _ <;> rcases venueId with _ | _ <;> try rfl
      -- Up the chain, each row says which one comes next.
      have hrow : s'.seat? id = s.seat? id := h _ (.seat rfl) _ .refl
      simp only [Coworking.resolveResource, hrow]
      refine bind_congr_ok fun seat hseat => ?_
      rw [found_eq_ok] at hseat
      have hparent : s.Within (.seat id) (.room seat.roomId) := .single (.seat hseat)
      have hroomRow : s'.room? seat.roomId = s.room? seat.roomId := h _ (.seat rfl) _ hparent
      rw [hroomRow]
      refine bind_congr_ok fun room hroom => ?_
      rw [found_eq_ok] at hroom
      have hvenueRow : s'.venue? room.venueId = s.venue? room.venueId :=
        h _ (.seat rfl) _ (hparent.tail (.room hroom))
      rw [hvenueRow]
  | room =>
    rcases roomId with _ | id
    · rfl
    · rcases seatId with _ | _ <;> rcases venueId with _ | _ <;> try rfl
      have hrow : s'.room? id = s.room? id := h _ (.room rfl) _ .refl
      simp only [Coworking.resolveResource, hrow]
      refine bind_congr_ok fun room hroom => ?_
      rw [found_eq_ok] at hroom
      have hvenueRow : s'.venue? room.venueId = s.venue? room.venueId :=
        h _ (.room rfl) _ (.single (.room hroom))
      rw [hvenueRow]
  | venue =>
    rcases venueId with _ | id
    · rfl
    · rcases seatId with _ | _ <;> rcases roomId with _ | _ <;> try rfl
      have hrow : s'.venue? id = s.venue? id := h _ (.venue rfl) _ .refl
      simp only [Coworking.resolveResource, hrow]

/-- **The rule and the hours** are found by the room and the venue. -/
theorem SameTerms.resolveBookingRule (h : SameTerms s s' ctx) (rows : RowChoice) :
    resolveBookingRule rows s' ctx = resolveBookingRule rows s ctx := by
  unfold Coworking.resolveBookingRule
  rw [h.venueRules]
  cases hroom : ctx.roomId with
  | none => cases ctx.level <;> rfl
  | some id => cases ctx.level <;> simp only [h.roomRules id hroom]

theorem SameTerms.resolveOperatingHours (h : SameTerms s s' ctx) (targetDate : Date) :
    resolveOperatingHours s' ctx targetDate = resolveOperatingHours s ctx targetDate := by
  unfold Coworking.resolveOperatingHours
  cases hroom : ctx.roomId with
  | none => rfl
  | some id => simp only [h.hours id hroom]

/-- **The conflict query** finds the same records. -/
theorem SameClaims.loadConflicts {level : BookingLevel} {seatId roomId venueId : Option Uuid}
    (h : SameClaims now s s' ctx.venueId start stop) (hs : Placed s) (hs' : Placed s')
    (hres : Resolves s level seatId roomId venueId ctx)
    (hres' : Resolves s' level seatId roomId venueId ctx) :
    (∀ b, b ∈ (loadConflicts now s' ctx start stop).1 ↔
      b ∈ (loadConflicts now s ctx start stop).1) ∧
    ∀ x, x ∈ (loadConflicts now s' ctx start stop).2 ↔
      x ∈ (loadConflicts now s ctx start stop).2 := by
  obtain ⟨hbookings, hholds⟩ := mem_loadConflicts_placed hs hres now start stop
  obtain ⟨hbookings', hholds'⟩ := mem_loadConflicts_placed hs' hres' now start stop
  refine ⟨fun b => ?_, fun x => ?_⟩
  · rw [hbookings, hbookings']
    exact and_congr_left fun ⟨hblocking, hov, hv⟩ => h.bookings b hv hblocking hov
  · rw [hholds, hholds']
    exact and_congr_left fun ⟨hlive, hov, hv⟩ => h.holds x hv hlive hov

/-- Of a request that resolves, the query in its window finds the same records. -/
theorem Agree.loadConflicts {q : SlotRequest} (h : Agree rt now s s' q) (hs : Placed s)
    (hs' : Placed s')
    (hctx : Coworking.resolveResource s q.target.level q.target.seatId q.target.roomId
      q.target.venueId = .ok ctx)
    (hwindow : q.Window rt s ctx start stop) :
    (∀ b, b ∈ (loadConflicts now s' ctx start stop).1 ↔
      b ∈ (loadConflicts now s ctx start stop).1) ∧
    ∀ x, x ∈ (loadConflicts now s' ctx start stop).2 ↔
      x ∈ (loadConflicts now s ctx start stop).2 := by
  have hres := resolveResource_eq_ok.mp hctx
  have hres' := resolveResource_eq_ok.mp (h.chain.resolveResource.trans hctx)
  exact (h.claims ctx start stop hres hwindow).loadConflicts hs hs' hres hres'

/-! ## §5 The four services -/

theorem SameTerms.validateBookingWindow (h : SameTerms s s' ctx) :
    validateBookingWindow rt c s' ctx start stop = validateBookingWindow rt c s ctx start stop := by
  simp only [Coworking.validateBookingWindow, h.resolveBookingRule, h.resolveOperatingHours]

theorem mem_filter_congr {α : Type} {xs ys : List α} {p : α → Bool} (x : α)
    (h : x ∈ xs ↔ x ∈ ys) : x ∈ xs.filter p ↔ x ∈ ys.filter p := by
  rw [List.mem_filter, List.mem_filter, h]

section

variable (hs : Placed s) (hs' : Placed s') (hc : c.At now)

include hs hs' hc

/-- `create_hold` up to its insert. -/
theorem checkHold_local {p : HoldCreateRequest} (h : Agree rt now s s' (.createHold p)) :
    checkHold rt c s' p = checkHold rt c s p := by
  have hresolve : resolveResource s' p.level p.seatId p.roomId p.venueId =
      resolveResource s p.level p.seatId p.roomId p.venueId := h.chain.resolveResource
  unfold checkHold
  refine bind_congr_ok fun start hstart => bind_congr_ok fun stop hstop => ?_
  refine bind_congr_ok fun _ _ => bind_congr_ok fun _ _ => ?_
  rw [hresolve]
  refine bind_congr_ok fun ctx hctx => ?_
  have hterms := h.terms ctx (resolveResource_eq_ok.mp hctx)
  simp only [hterms.resolveBookingRule, hterms.resolveOperatingHours]
  -- The guards up to the query read nothing else.
  refine bind_congr_ok fun _ _ => bind_congr_ok fun _ _ => bind_congr_ok fun _ _ => ?_
  refine bind_congr_ok fun _ _ => bind_congr_ok fun _ _ => bind_congr_ok fun _ _ => ?_
  refine bind_congr_ok fun _ _ => ?_
  obtain ⟨hbookings, hholds⟩ := h.loadConflicts hs hs' hctx
    ⟨ensureUtc_eq_ok.mp hstart, ensureUtc_eq_ok.mp hstop⟩
  rw [hc 1, raiseIf_mem_congr hbookings, raiseIf_mem_congr hholds]

/-- `create_booking` up to its insert, without a hold. -/
theorem checkBooking_local {p : BookingCreateRequest} {hnone : p.holdId = none}
    (h : Agree rt now s s' (.createBooking p hnone)) :
    checkBooking rt c s' p = checkBooking rt c s p := by
  have hresolve : resolveResource s' p.level p.seatId p.roomId p.venueId =
      resolveResource s p.level p.seatId p.roomId p.venueId := h.chain.resolveResource
  unfold checkBooking
  refine bind_congr_ok fun start hstart => bind_congr_ok fun stop hstop => ?_
  rw [hresolve]
  refine bind_congr_ok fun ctx hctx => ?_
  rw [(h.terms ctx (resolveResource_eq_ok.mp hctx)).validateBookingWindow]
  refine bind_congr_ok fun window _ => ?_
  obtain ⟨hbookings, hholds⟩ := h.loadConflicts hs hs' hctx
    ⟨ensureUtc_eq_ok.mp hstart, ensureUtc_eq_ok.mp hstop⟩
  -- Without a hold nothing is left out of the query's answer on account of one.
  rw [hnone, hc 2]
  refine bind_congr_ok fun hold _ => ?_
  dsimp only
  rw [raiseIf_mem_congr hbookings, raiseIf_mem_congr fun x => mem_filter_congr x (hholds x)]

/-- `reschedule_booking` up to its writes. -/
theorem checkReschedule_local {b : Booking} {p : BookingWindowUpdateRequest}
    (h : Agree rt now s s' (.rescheduleBooking b p)) :
    checkReschedule rt c s' b.id p = checkReschedule rt c s b.id p := by
  obtain ⟨hb, hb'⟩ := h.booking b p rfl
  have hget : s.bookings.get? b.id = some b := Table.get?_of_mem hb
  have hget' : s'.bookings.get? b.id = some b := Table.get?_of_mem hb'
  have hresolve : resolveResource s' b.level (resourceKwargsForLevel b.toSlot).1
      (resourceKwargsForLevel b.toSlot).2.1 (resourceKwargsForLevel b.toSlot).2.2 =
    resolveResource s b.level (resourceKwargsForLevel b.toSlot).1
      (resourceKwargsForLevel b.toSlot).2.1 (resourceKwargsForLevel b.toSlot).2.2 :=
    h.chain.resolveResource
  unfold checkReschedule
  simp only [Store.bookingOf?, hget, hget']
  refine bind_congr_ok fun booking hbooking => bind_congr_ok fun _ _ => ?_
  refine bind_congr_ok fun start hstart => bind_congr_ok fun stop hstop => ?_
  -- The row that was found is the booking itself.
  obtain rfl : b = booking := (Option.filter_eq_some_iff.mp ((found_eq_ok _ _ _).mp hbooking)).1
    |> Option.some.inj
  rw [hresolve]
  refine bind_congr_ok fun ctx hctx => ?_
  rw [(h.terms ctx (resolveResource_eq_ok.mp hctx)).validateBookingWindow]
  refine bind_congr_ok fun window _ => ?_
  obtain ⟨hbookings, hholds⟩ := h.loadConflicts hs hs' hctx
    ⟨ensureUtc_eq_ok.mp hstart, ensureUtc_eq_ok.mp hstop⟩
  rw [hc 2, raiseIf_mem_congr fun x => mem_filter_congr x (hbookings x), raiseIf_mem_congr hholds]

end

/-- A slot of the grid depends on which records the query returned, not on their order. -/
theorem slotLoop_congr {bookings bookings' : List Booking} {holds holds' : List Hold}
    (hb : ∀ b, b ∈ bookings' ↔ b ∈ bookings) (hh : ∀ h, h ∈ holds' ↔ h ∈ holds) (tz : Zone)
    (seatId : Option Uuid) (duration : Int) (hpos : 0 < duration) (slotEndLimit w : Int) :
    slotLoop tz bookings' holds' seatId duration hpos slotEndLimit w =
      slotLoop tz bookings holds seatId duration hpos slotEndLimit w := by
  -- Along the grid, which ends where it ends for both.
  fun_induction slotLoop tz bookings holds seatId duration hpos slotEndLimit w with
  | case1 w hfits ih =>
    have hslot : slotAt tz bookings' holds' seatId duration w =
        slotAt tz bookings holds seatId duration w := by simp only [slotAt, hb, hh]
    rw [slotLoop, dif_pos hfits, ih, hslot]
  | case2 w hfull => rw [slotLoop, dif_neg hfull]

/-- `get_availability`. -/
theorem getAvailability_local {t : Target} {targetDate : Date} {durationMinutes : Int}
    (hs : Placed s) (hs' : Placed s') (hc : c.At now)
    (h : Agree rt now s s' (.getAvailability t targetDate durationMinutes)) :
    getAvailability rt c s' t.level t.seatId t.roomId t.venueId targetDate durationMinutes =
      getAvailability rt c s t.level t.seatId t.roomId t.venueId targetDate durationMinutes := by
  have hresolve : resolveResource s' t.level t.seatId t.roomId t.venueId =
      resolveResource s t.level t.seatId t.roomId t.venueId := h.chain.resolveResource
  unfold getAvailability
  split
  · rfl
  · rw [hresolve]
    refine bind_congr_ok fun ctx hctx => ?_
    have hterms := h.terms ctx (resolveResource_eq_ok.mp hctx)
    simp only [hterms.resolveBookingRule, hterms.resolveOperatingHours]
    refine bind_congr_ok fun _ _ => bind_congr_ok fun _ _ => ?_
    cases hhours : resolveOperatingHours s ctx targetDate with
    | none => rfl
    | some hours =>
      -- The conflict query asks for the opening hours of the day, which is where the stores agree.
      refine bind_congr_ok fun tz htz => ?_
      obtain ⟨hbookings, hholds⟩ := h.loadConflicts hs hs' hctx
        ⟨hours, tz, hhours, (found_eq_ok _ _ _).mp htz, rfl, rfl⟩
      rw [hc 0]
      refine ite_congr rfl (fun _ => rfl) fun _ => ?_
      have hslots := slotLoop_congr hbookings hholds tz
        (if ctx.level = .seat then ctx.seatId else none) (minutes durationMinutes)
        (Int.mul_pos (by omega) microsPerMinute_pos) (combine targetDate hours.2)
        (combine targetDate hours.1)
      exact congrArg (fun slots => Except.ok (AvailabilityResponse.mk targetDate slots)) hslots

/-! ## §6 Locality -/

/-- **Decisions about slots are local.**  Of two stores whose rows follow the tree and that agree
on the resource, on its terms, and on the live records of its venue in the window, a request gets
the same answer at the same instant: the same error, the same slots, or acceptance. -/
theorem decisions_local {q : SlotRequest} (hs : Placed s) (hs' : Placed s') (hc : c.At now)
    (h : Agree rt now s s' q) : q.answer rt c s' = q.answer rt c s := by
  cases q with
  | createHold p =>
    simp only [SlotRequest.answer, createHold, checkHold_local hs hs' hc h]
    cases checkHold rt c s p <;> rfl
  | createBooking p hnone =>
    simp only [SlotRequest.answer, createBooking, checkBooking_local hs hs' hc h]
    cases checkBooking rt c s p <;> rfl
  | rescheduleBooking b p =>
    simp only [SlotRequest.answer, rescheduleBooking, checkReschedule_local hs hs' hc h]
    cases checkReschedule rt c s b.id p <;> rfl
  | getAvailability t targetDate durationMinutes =>
    simp only [SlotRequest.answer, getAvailability_local hs hs' hc h]

/-- User 7 books seat `A1` and cancels. -/
def bookAndCancel : List Event :=
  [⟨.plain 7 0, .createBooking (smallBooking none)⟩, ⟨.plain 7 1, .cancelBooking 1⟩]

/-- Whether the seat can be held does not depend on the cancelled booking. -/
theorem decisions_local_cancelled :
    (SlotRequest.createHold smallHold).answer .plain (.plain 8 2)
        (replay .plain smallStore bookAndCancel) =
      (SlotRequest.createHold smallHold).answer .plain (.plain 8 2) smallStore := by
  have hreached : Run (SerialStep .plain) ⟨0, smallStore⟩ bookAndCancel
      ⟨1, replay .plain smallStore bookAndCancel⟩ :=
    (by decide : InOrder 0 bookAndCancel).run smallStore
  have hsound : Sound (replay .plain smallStore bookAndCancel) :=
    smallStore_unreserved.sound.run hreached
  refine decisions_local smallStore_unreserved.sound.placed hsound.placed
    (fun _ => rfl : (Call.plain 8 2).At 2) ⟨?_, ?_, ?_, fun _ _ hq => ?_⟩
  · rintro a - b -
    cases b <;> rfl
  · exact fun ctx _ => ⟨fun _ _ _ => rfl, fun _ _ => rfl, rfl⟩
  · intro ctx start stop _ _
    have hholds : (replay .plain smallStore bookAndCancel).holds.rows = [] := rfl
    refine ⟨fun b _ hblocking _ => ?_, fun h _ _ _ => by
      rw [Table.mem_def, Table.mem_def, hholds]
      rfl⟩
    -- The one booking of the other store is cancelled.
    refine ⟨fun hmem => ?_, fun hmem => absurd hmem (smallStore_unreserved.bookings b)⟩
    obtain rfl := List.mem_singleton.mp hmem
    cases hblocking
  · cases hq

end Coworking
