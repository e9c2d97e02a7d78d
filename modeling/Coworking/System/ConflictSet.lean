import Coworking.System.Records

/-!
# The Conflict Set

`_load_conflicts` is meant to return what contends for a resource: the records for the resource
itself, for what contains it and for what lies in it.  Rows carry all the ids on their way up the
tree and the filters compare each of them, so they return every row of the venue.

- `ResourceContext.Placed`: where the resource of a context lies in the tree;
- `related_iff_not_beside`: two resources of a venue are related unless they lie side by side;
- `conflicts_exact_iff`: when the conflict set is exact;
- `neighbour_conflicts`: a booking of seat `A1` is in the way of seat `A2`.
-/

namespace Coworking

open Foundation

variable {s : Store} {level : BookingLevel} {seatId roomId venueId : Option Uuid}
  {ctx ctx' : ResourceContext} {r r' : Resource}

/-! ## §1 Side by side -/

/-- The resource a context is for. -/
def ResourceContext.resource (ctx : ResourceContext) : Option Resource :=
  match ctx.level with
  | .seat => ctx.seatId.map .seat
  | .room => ctx.roomId.map .room
  | .venue => some (.venue ctx.venueId)

/-- Two rows of columns name different rooms, or different seats. -/
def Beside (roomId seatId roomId' seatId' : Option Uuid) : Prop :=
  (∃ x ∈ roomId, ∃ y ∈ roomId', x ≠ y) ∨ ∃ x ∈ seatId, ∃ y ∈ seatId', x ≠ y

instance (roomId seatId roomId' seatId' : Option Uuid) :
    Decidable (Beside roomId seatId roomId' seatId') :=
  inferInstanceAs (Decidable (_ ∨ _))

/-- The room a resource is or lies in. -/
def Store.roomOf (s : Store) : Resource → Option Uuid
  | .seat id => (s.seat? id).map (·.roomId)
  | .room id => some id
  | .venue _ => none

/-- The seat a resource is. -/
def Resource.seatOf : Resource → Option Uuid
  | .seat id => some id
  | .room _ | .venue _ => none

/-- A container is of the same room as what it contains, or of none. -/
theorem Store.Within.roomOf (h : s.Within r r') :
    s.roomOf r' = none ∨ s.roomOf r = s.roomOf r' := by
  induction h with
  | refl => exact .inr rfl
  | tail _ hlast ih =>
    cases hlast with
    | seat hseat =>
      right
      rcases ih with hnone | heq
      · simp [Store.roomOf, hseat] at hnone
      · simpa [Store.roomOf, hseat] using heq
    | room => exact .inl rfl

/-- A container is the same seat, or none. -/
theorem Store.Within.seatOf (h : s.Within r r') : r'.seatOf = none ∨ r.seatOf = r'.seatOf := by
  induction h with
  | refl => exact .inr rfl
  | tail _ hlast _ => cases hlast <;> exact .inl rfl

/-- The tree above the resource of a context. -/
structure ResourceContext.Placed (s : Store) (ctx : ResourceContext) (r : Resource) : Prop where
  roomOf : s.roomOf r = ctx.roomId
  seatOf : r.seatOf = ctx.seatId
  inVenue : s.Within r (.venue ctx.venueId)
  inRoom : ∀ id, ctx.roomId = some id → s.Within r (.room id)
  isVenue : ctx.roomId = none → r = .venue ctx.venueId
  isRoom : ∀ id, ctx.roomId = some id → ctx.seatId = none → r = .room id
  isSeat : ∀ id, ctx.seatId = some id → r = .seat id

/-- A resolved context has a resource, placed where its columns say. -/
theorem Resolves.placed (h : Resolves s level seatId roomId venueId ctx) :
    ∃ r, ctx.resource = some r ∧ ctx.Placed s r := by
  -- The chain of parents that the resolution has gone up.
  cases h with
  | @seat id seat room venue hseat hroom hvenue =>
    obtain rfl := Store.seat?_id hseat
    have hup : s.Within (.seat seat.id) (.room seat.roomId) := .single (.seat hseat)
    rw [← Store.room?_id hroom] at hup
    rw [← Store.room?_id hroom] at hroom
    have htop : s.Parent (.room room.id) (.venue room.venueId) := .room hroom
    rw [← Store.venue?_id hvenue] at htop
    refine ⟨.seat seat.id, rfl, ?_⟩
    exact
      { roomOf := hup.roomOf.resolve_left nofun
        seatOf := rfl
        inVenue := hup.tail htop
        inRoom := fun id hid => Option.some.inj hid ▸ hup
        isVenue := nofun
        isRoom := fun _ _ => nofun
        isSeat := fun id hid => by rw [Option.some.inj hid] }
  | @room id room venue hroom hvenue =>
    obtain rfl := Store.room?_id hroom
    have htop : s.Parent (.room room.id) (.venue room.venueId) := .room hroom
    rw [← Store.venue?_id hvenue] at htop
    refine ⟨.room room.id, rfl, ?_⟩
    exact
      { roomOf := rfl
        seatOf := rfl
        inVenue := .single htop
        inRoom := fun id hid => Option.some.inj hid ▸ .refl
        isVenue := nofun
        isRoom := fun id hid _ => by rw [Option.some.inj hid]
        isSeat := fun _ => nofun }
  | @venue id venue hvenue =>
    refine ⟨.venue venue.id, rfl, ?_⟩
    exact
      { roomOf := rfl
        seatOf := rfl
        inVenue := .refl
        inRoom := fun _ => nofun
        isVenue := fun _ => rfl
        isRoom := fun _ => nofun
        isSeat := fun _ => nofun }

/-- Related resources do not lie side by side. -/
theorem ResourceContext.Placed.not_beside (h : ctx.Placed s r) (h' : ctx'.Placed s r')
    (hw : s.Within r r') : ¬ Beside ctx.roomId ctx.seatId ctx'.roomId ctx'.seatId := by
  rintro (⟨x, hx, y, hy, hne⟩ | ⟨x, hx, y, hy, hne⟩) <;> rw [Option.mem_def] at hx hy
  · have hroom := hw.roomOf
    rw [h.roomOf, h'.roomOf, hx, hy] at hroom
    rcases hroom with hnone | heq
    · cases hnone
    · exact hne (Option.some.inj heq)
  · have hseat := hw.seatOf
    rw [h.seatOf, h'.seatOf, hx, hy] at hseat
    rcases hseat with hnone | heq
    · cases hnone
    · exact hne (Option.some.inj heq)

theorem Beside.symm {a b c d : Option Uuid} (h : Beside a b c d) : Beside c d a b := by
  rcases h with ⟨x, hx, y, hy, hne⟩ | ⟨x, hx, y, hy, hne⟩
  · exact .inl ⟨y, hy, x, hx, hne.symm⟩
  · exact .inr ⟨y, hy, x, hx, hne.symm⟩

/-- **Siblings.**  Two resources of one venue are related unless their rooms or seats differ. -/
theorem related_iff_not_beside (h : ctx.Placed s r) (h' : ctx'.Placed s r')
    (hv : ctx.venueId = ctx'.venueId) :
    s.Related r r' ↔ ¬ Beside ctx.roomId ctx.seatId ctx'.roomId ctx'.seatId := by
  constructor
  · intro hrel
    rcases hrel with hw | hw
    · exact h.not_beside h' hw
    · exact fun hb => h'.not_beside h hw hb.symm
  · intro hb
    -- Down the tree: one of the two is the venue, else they share the room, and so on.
    cases hroom : ctx.roomId with
    | none => exact .inr (h.isVenue hroom ▸ hv ▸ h'.inVenue)
    | some x =>
      cases hroom' : ctx'.roomId with
      | none => exact .inl (h'.isVenue hroom' ▸ hv ▸ h.inVenue)
      | some y =>
        obtain rfl : x = y := by
          by_contra hne
          exact hb (.inl ⟨x, hroom, y, hroom', hne⟩)
        cases hseat : ctx.seatId with
        | none => exact .inr (h.isRoom x hroom hseat ▸ h'.inRoom x hroom')
        | some i =>
          cases hseat' : ctx'.seatId with
          | none => exact .inl (h'.isRoom x hroom' hseat' ▸ h.inRoom x hroom)
          | some j =>
            obtain rfl : i = j := by
              by_contra hne
              exact hb (.inr ⟨i, hseat, j, hseat', hne⟩)
            rw [h.isSeat i hseat, h'.isSeat i hseat']
            exact .refl s _

/-! ## §2 The filter against the tree -/

/-- The resource of a row is that of the context, contains it or lies in it. -/
def Slot.RelatedTo (s : Store) (ctx : ResourceContext) (slot : Slot) : Prop :=
  ∃ r r', slot.resource = some r ∧ ctx.resource = some r' ∧ s.Related r r'

/-- The row is in the venue of the context, and names another room or another seat. -/
def Slot.Neighbour (ctx : ResourceContext) (slot : Slot) : Prop :=
  slot.venueId = some ctx.venueId ∧ Beside slot.roomId slot.seatId ctx.roomId ctx.seatId

instance (ctx : ResourceContext) (slot : Slot) : Decidable (slot.Neighbour ctx) :=
  inferInstanceAs (Decidable (_ ∧ _))

/-- What a decoding row carries, by the context it decodes to. -/
theorem Slot.Decodes.relatedTo_iff {slot : Slot} (hslot : slot.Decodes s)
    (hres : Resolves s level seatId roomId venueId ctx) :
    slot.RelatedTo s ctx ↔ slot.venueId = some ctx.venueId ∧ ¬ slot.Neighbour ctx := by
  obtain ⟨r', hr', hplaced'⟩ := hres.placed
  have hdecodes := hslot
  rcases hslot with ⟨ctx₀, hres₀, hslot⟩
  obtain ⟨r, hr, hplaced⟩ := hres₀.placed
  have hresource : slot.resource = some r := by
    rw [hslot, ← hr]
    cases hl : ctx₀.level <;>
      simp [Slot.resource, ResourceContext.slot, ResourceContext.resource, hl]
  have hvenue : slot.venueId = some ctx₀.venueId := by rw [hslot]; rfl
  have hroom : slot.roomId = ctx₀.roomId := by rw [hslot]; rfl
  have hseat : slot.seatId = ctx₀.seatId := by rw [hslot]; rfl
  have hunfold : slot.RelatedTo s ctx ↔ s.Related r r' := by
    simp [Slot.RelatedTo, hresource, hr']
  rw [hunfold, Slot.Neighbour, hroom, hseat, hvenue, Option.some.injEq]
  constructor
  · intro hrel
    -- Related resources are of one venue.
    have hv : ctx₀.venueId = ctx.venueId := by
      have hv := hplaced.inVenue.venueOf.symm.trans (hrel.venueOf.trans hplaced'.inVenue.venueOf)
      exact Option.some.inj hv
    exact ⟨hv, fun h => (related_iff_not_beside hplaced hplaced' hv).mp hrel h.2⟩
  · intro h
    exact (related_iff_not_beside hplaced hplaced' h.1).mpr fun hb => h.2 ⟨h.1, hb⟩

/-- The filter returns the related rows of a venue, and the rows beside them. -/
theorem conflictFilter_iff_relatedTo {slot : Slot} (hslot : slot.Decodes s)
    (hres : Resolves s level seatId roomId venueId ctx) :
    conflictFilter s ctx slot ↔ slot.RelatedTo s ctx ∨ slot.Neighbour ctx := by
  rw [conflictFilter_iff_venueId hres hslot, hslot.relatedTo_iff hres]
  constructor
  · intro hv
    by_cases hb : slot.Neighbour ctx
    · exact .inr hb
    · exact .inl ⟨hv, hb⟩
  · rintro (h | h)
    · exact h.1
    · exact h.1

/-! ## §3 Exactness -/

variable {now start stop : Instant}

/-- The conflict set is what contends for the resource in the range. -/
structure ConflictsExact (now : Instant) (s : Store) (ctx : ResourceContext)
    (start stop : Instant) : Prop where
  bookings : ∀ b, b ∈ (loadConflicts now s ctx start stop).1 ↔
    b ∈ s.bookings ∧ b.status.blocking ∧ overlaps start stop b.startTime b.endTime ∧
      b.toSlot.RelatedTo s ctx
  holds : ∀ h, h ∈ (loadConflicts now s ctx start stop).2 ↔
    h ∈ s.holds ∧ h.live now ∧ overlaps start stop h.startTime h.endTime ∧
      h.toSlot.RelatedTo s ctx

/-- No blocking booking and no live hold of the venue that overlaps the range is for another room
or another seat than the context. -/
structure NoNeighbours (now : Instant) (s : Store) (ctx : ResourceContext) (start stop : Instant) :
    Prop where
  bookings : ∀ b ∈ s.bookings, b.status.blocking → overlaps start stop b.startTime b.endTime →
    ¬ b.toSlot.Neighbour ctx
  holds : ∀ h ∈ s.holds, h.live now → overlaps start stop h.startTime h.endTime →
    ¬ h.toSlot.Neighbour ctx

/-- **When the conflict set is exact.**  On rows that the services wrote, `_load_conflicts` returns
exactly the records for the resource, its containers and its parts if and only if the venue has no
overlapping record for another room or seat. -/
theorem conflicts_exact_iff (hres : Resolves s level seatId roomId venueId ctx)
    (hbookings : ∀ b ∈ s.bookings, b.toSlot.Decodes s)
    (hholds : ∀ h ∈ s.holds, h.toSlot.Decodes s) :
    ConflictsExact now s ctx start stop ↔ NoNeighbours now s ctx start stop := by
  constructor
  · intro hexact
    -- A neighbour is of the venue, so it is returned, and is not related.
    refine ⟨fun b hb hblocking hov hn => ?_, fun h hh hlive hov hn => ?_⟩
    · have hload : b ∈ (loadConflicts now s ctx start stop).1 :=
        mem_loadConflicts_bookings.mpr ⟨hb, hblocking, hov, conflictFilter_of_venueId hn.1⟩
      have hrel := ((hexact.bookings b).mp hload).2.2.2
      exact (((hbookings b hb).relatedTo_iff hres).mp hrel).2 hn
    · have hload : h ∈ (loadConflicts now s ctx start stop).2 :=
        mem_loadConflicts_holds.mpr ⟨hh, hlive, hov, conflictFilter_of_venueId hn.1⟩
      have hrel := ((hexact.holds h).mp hload).2.2.2
      exact (((hholds h hh).relatedTo_iff hres).mp hrel).2 hn
  · intro hnone
    refine ⟨fun b => ?_, fun h => ?_⟩
    · rw [mem_loadConflicts_bookings]
      refine and_congr_right fun hb => and_congr_right fun hblocking =>
        and_congr_right fun hov => ?_
      rw [conflictFilter_iff_relatedTo (hbookings b hb) hres,
        or_iff_left (hnone.bookings b hb hblocking hov)]
    · rw [mem_loadConflicts_holds]
      refine and_congr_right fun hh => and_congr_right fun hlive => and_congr_right fun hov => ?_
      rw [conflictFilter_iff_relatedTo (hholds h hh) hres,
        or_iff_left (hnone.holds h hh hlive hov)]

/-- User 7 books seat `A1` from ten to eleven. -/
def bookA1 : List Event := [⟨.plain 7 0, .createBooking (smallBooking none)⟩]

theorem bookA1_run :
    Run (SerialStep .plain) ⟨0, smallStore⟩ bookA1 ⟨0, replay .plain smallStore bookA1⟩ :=
  (by decide : InOrder 0 bookA1).run smallStore

/-- A seat of the small venue. -/
def smallSeat (id : Uuid) : ResourceContext := ⟨.seat, 1, some 2, some id, "UTC", ⟨rfl, rfl⟩⟩

/-- The booking of seat `A1` is all that is in the way of another one of it. -/
theorem conflicts_exact_iff_sameSeat :
    ConflictsExact 1 (replay .plain smallStore bookA1) (smallSeat 3) (minutes 600)
      (minutes 660) := by
  have hsound := smallStore_unreserved.sound.run bookA1_run
  have hsmall : Resolves smallStore .seat (some 3) none none (smallSeat 3) :=
    resolveResource_eq_ok.mp rfl
  have hres : Resolves (replay .plain smallStore bookA1) .seat (some 3) none none (smallSeat 3) :=
    hsmall.grows (Grows.run bookA1_run)
  refine (conflicts_exact_iff hres hsound.bookings hsound.holds).mpr ⟨?_, ?_⟩
  · exact (by decide : ∀ b ∈ (replay .plain smallStore bookA1).bookings.rows, b.status.blocking →
      overlaps (minutes 600) (minutes 660) b.startTime b.endTime →
        ¬ b.toSlot.Neighbour (smallSeat 3))
  · exact (by decide : ∀ h ∈ (replay .plain smallStore bookA1).holds.rows, h.live 1 →
      overlaps (minutes 600) (minutes 660) h.startTime h.endTime →
        ¬ h.toSlot.Neighbour (smallSeat 3))

/-- It is in the way of seat `A2` as well, though the two seats are not related. -/
theorem neighbour_conflicts :
    Run (SerialStep .plain) ⟨0, smallStore⟩ bookA1 ⟨0, replay .plain smallStore bookA1⟩ ∧
      resolveResource (replay .plain smallStore bookA1) .seat (some 4) none none =
        .ok (smallSeat 4) ∧
      ¬ ConflictsExact 1 (replay .plain smallStore bookA1) (smallSeat 4) (minutes 600)
        (minutes 660) := by
  refine ⟨bookA1_run, rfl, fun hexact => ?_⟩
  obtain ⟨b, hload, hb⟩ : ∃ b ∈ (loadConflicts 1 (replay .plain smallStore bookA1) (smallSeat 4)
      (minutes 600) (minutes 660)).1, b.resource = some (.seat 3) := by decide
  obtain ⟨-, -, -, r, r', hr, hr', hrel⟩ := (hexact.bookings b).mp hload
  obtain rfl := Option.mem_unique hb hr
  obtain rfl := Option.some.inj hr'
  -- Neither seat contains the other.
  rcases hrel with hw | hw
  · exact hw.seatOf.elim nofun nofun
  · exact hw.seatOf.elim nofun nofun

end Coworking
