import Coworking.System.Operation

/-!
# The Space Tree

Seats lie in rooms and rooms in venues.  A row is for one resource, named by its level;
two resources are related when they are equal or one contains the other.

- `Related.venueOf`: related resources lie in one venue;
- `Slot.Decodes`: a row's columns are those of the resource it resolves to;
- `Resolves.grows`, `Slot.Decodes.grows`: growth of the tree changes no resolution.
-/

namespace Coworking

open Foundation

/-! ## §1 Resources and containment -/

inductive Resource
  | seat (id : Uuid)
  | room (id : Uuid)
  | venue (id : Uuid)
  deriving DecidableEq

/-- The resource a row is for. -/
def Slot.resource (slot : Slot) : Option Resource :=
  match slot.level with
  | .seat => slot.seatId.map .seat
  | .room => slot.roomId.map .room
  | .venue => slot.venueId.map .venue

/-- The first resource lies directly in the second. -/
inductive Store.Parent (s : Store) : Resource → Resource → Prop
  | seat {id : Uuid} {seat : Seat} :
      s.seat? id = some seat → s.Parent (.seat id) (.room seat.roomId)
  | room {id : Uuid} {room : Room} :
      s.room? id = some room → s.Parent (.room id) (.venue room.venueId)

/-- The first resource is the second or lies in it. -/
abbrev Store.Within (s : Store) : Resource → Resource → Prop := Relation.ReflTransGen s.Parent

/-- Two resources are equal or one contains the other. -/
def Store.Related (s : Store) (a b : Resource) : Prop := s.Within a b ∨ s.Within b a

theorem Store.Related.refl (s : Store) (a : Resource) : s.Related a a := .inl .refl

theorem Store.Related.symm {s : Store} {a b : Resource} (h : s.Related a b) : s.Related b a :=
  Or.symm h

/-- The venue a resource lies in. -/
def Store.venueOf (s : Store) : Resource → Option Uuid
  | .seat id => (s.seat? id).bind fun seat => (s.room? seat.roomId).map (·.venueId)
  | .room id => (s.room? id).map (·.venueId)
  | .venue id => some id

theorem Store.Parent.venueOf {s : Store} {a b : Resource} (h : s.Parent a b) :
    s.venueOf a = s.venueOf b := by
  cases h with
  | seat hseat => simp [Store.venueOf, hseat]
  | room hroom => simp [Store.venueOf, hroom]

theorem Store.Within.venueOf {s : Store} {a b : Resource} (h : s.Within a b) :
    s.venueOf a = s.venueOf b := by
  induction h with
  | refl => rfl
  | tail _ hlast ih => exact ih.trans hlast.venueOf

/-- Related resources lie in one venue. -/
theorem Store.Related.venueOf {s : Store} {a b : Resource} (h : s.Related a b) :
    s.venueOf a = s.venueOf b :=
  h.elim Store.Within.venueOf fun h => h.venueOf.symm

/-! ## §2 Resolution along a growing tree -/

variable {s s' : Store} {level : BookingLevel} {seatId roomId venueId : Option Uuid}
  {ctx : ResourceContext}

/-- Growth changes no resolution. -/
theorem Resolves.grows (hg : Grows s s') (h : Resolves s level seatId roomId venueId ctx) :
    Resolves s' level seatId roomId venueId ctx := by
  cases h with
  | @seat id seat room venue hseat hroom hvenue =>
    -- The rows may have been written to, but the chain upwards is the same.
    obtain ⟨seat', hseat', hsr⟩ := hg.seats _ _ hseat
    obtain ⟨room', hroom', hrv⟩ := hg.rooms _ _ hroom
    have hseatId : seat'.id = seat.id :=
      (Store.seat?_id hseat').trans (Store.seat?_id hseat).symm
    have hroomId : room'.id = room.id :=
      (Store.room?_id hroom').trans (Store.room?_id hroom).symm
    have hres : Resolves s' .seat (some id) none none _ :=
      .seat hseat' (hsr ▸ hroom') (hrv ▸ hg.venues _ _ hvenue)
    simpa only [hseatId, hroomId] using hres
  | @room id room venue hroom hvenue =>
    obtain ⟨room', hroom', hrv⟩ := hg.rooms _ _ hroom
    have hroomId : room'.id = room.id :=
      (Store.room?_id hroom').trans (Store.room?_id hroom).symm
    have hres : Resolves s' .room none (some id) none _ :=
      .room hroom' (hrv ▸ hg.venues _ _ hvenue)
    simpa only [hroomId] using hres
  | venue hvenue => exact .venue (hg.venues _ _ hvenue)

/-- A request resolves to at most one resource. -/
theorem Resolves.unique {ctx' : ResourceContext} (h : Resolves s level seatId roomId venueId ctx)
    (h' : Resolves s level seatId roomId venueId ctx') : ctx = ctx' := by
  have hok := resolveResource_eq_ok.mpr h
  rw [resolveResource_eq_ok.mpr h'] at hok
  exact (Except.ok.inj hok).symm

/-- The zone of a resolved resource is that of its venue. -/
theorem Resolves.timezone (h : Resolves s level seatId roomId venueId ctx) :
    ∃ venue, s.venue? ctx.venueId = some venue ∧ ctx.timezone = venue.timezone := by
  cases h with
  | seat _ _ hvenue => exact ⟨_, Store.venue?_id hvenue ▸ hvenue, rfl⟩
  | room _ hvenue => exact ⟨_, Store.venue?_id hvenue ▸ hvenue, rfl⟩
  | venue hvenue => exact ⟨_, Store.venue?_id hvenue ▸ hvenue, rfl⟩

/-! ## §3 Rows that decode to themselves -/

/-- `_resolve_resource(level, **_resource_kwargs_for_level(row))` of a row. -/
abbrev Slot.ResolvesTo (s : Store) (slot : Slot) (ctx : ResourceContext) : Prop :=
  Resolves s slot.level (resourceKwargsForLevel slot).1 (resourceKwargsForLevel slot).2.1
    (resourceKwargsForLevel slot).2.2 ctx

/-- The row resolves, and its columns are those of the resource it resolves to. -/
def Slot.Decodes (s : Store) (slot : Slot) : Prop :=
  ∃ ctx, slot.ResolvesTo s ctx ∧ slot = ctx.slot slot.userId slot.startTime slot.endTime

/-- A row written for a resolved resource resolves to that resource. -/
theorem Resolves.slot (h : Resolves s level seatId roomId venueId ctx) (userId : Uuid)
    (start stop : Instant) : (ctx.slot userId start stop).ResolvesTo s ctx := by
  cases h with
  | seat hseat hroom hvenue =>
    obtain rfl := Store.seat?_id hseat
    exact .seat hseat hroom hvenue
  | room hroom hvenue =>
    obtain rfl := Store.room?_id hroom
    exact .room hroom hvenue
  | venue hvenue =>
    obtain rfl := Store.venue?_id hvenue
    exact .venue hvenue

theorem Resolves.decodes (h : Resolves s level seatId roomId venueId ctx) (userId : Uuid)
    (start stop : Instant) : (ctx.slot userId start stop).Decodes s :=
  ⟨ctx, h.slot userId start stop, rfl⟩

theorem Slot.Decodes.grows {slot : Slot} (hg : Grows s s') (h : slot.Decodes s) :
    slot.Decodes s' := by
  rcases h with ⟨ctx, hres, hslot⟩
  exact ⟨ctx, hres.grows hg, hslot⟩

/-- Moving the window of a row does not change what it decodes to. -/
theorem Slot.Decodes.window {slot : Slot} (h : slot.Decodes s) (startTime endTime : Instant) :
    { slot with startTime, endTime }.Decodes s := by
  rcases h with ⟨ctx, hres, hslot⟩
  refine ⟨ctx, hres, ?_⟩
  rw [hslot]
  rfl

/-- The seat of a resolved resource lies in its venue. -/
theorem Resolves.venueOf_seat (h : Resolves s level seatId roomId venueId ctx) {id : Uuid}
    (hid : ctx.seatId = some id) : s.venueOf (.seat id) = some ctx.venueId := by
  cases h with
  | seat hseat hroom hvenue =>
    obtain rfl := Option.some.inj hid
    simp [Store.venueOf, Store.seat?_id hseat, hseat, hroom, Store.venue?_id hvenue]
  | room => cases hid
  | venue => cases hid

/-- The room of a resolved resource lies in its venue. -/
theorem Resolves.venueOf_room (h : Resolves s level seatId roomId venueId ctx) {id : Uuid}
    (hid : ctx.roomId = some id) : s.venueOf (.room id) = some ctx.venueId := by
  cases h with
  | seat _ hroom hvenue =>
    obtain rfl := Option.some.inj hid
    simp [Store.venueOf, Store.room?_id hroom, hroom, Store.venue?_id hvenue]
  | room hroom hvenue =>
    obtain rfl := Option.some.inj hid
    simp [Store.venueOf, Store.room?_id hroom, hroom, Store.venue?_id hvenue]
  | venue => cases hid

theorem Slot.Decodes.venueOf_seat {slot : Slot} (h : slot.Decodes s) {id : Uuid}
    (hid : slot.seatId = some id) : s.venueOf (.seat id) = slot.venueId := by
  rcases h with ⟨ctx, hres, hslot⟩
  rw [hslot] at hid ⊢
  exact hres.venueOf_seat hid

theorem Slot.Decodes.venueOf_room {slot : Slot} (h : slot.Decodes s) {id : Uuid}
    (hid : slot.roomId = some id) : s.venueOf (.room id) = slot.venueId := by
  rcases h with ⟨ctx, hres, hslot⟩
  rw [hslot] at hid ⊢
  exact hres.venueOf_room hid

/-- The venue column of a row is the venue of its resource. -/
theorem Slot.Decodes.venueOf {slot : Slot} (h : slot.Decodes s) {r : Resource}
    (hr : slot.resource = some r) : s.venueOf r = slot.venueId := by
  unfold Slot.resource at hr
  split at hr <;> obtain ⟨id, hid, rfl⟩ := Option.map_eq_some_iff.mp hr
  · exact h.venueOf_seat hid
  · exact h.venueOf_room hid
  · exact hid.symm

/-- Rows for related resources carry one venue. -/
theorem Slot.Decodes.venueId_eq {a b : Slot} (ha : a.Decodes s) (hb : b.Decodes s)
    {r₁ r₂ : Resource} (h₁ : a.resource = some r₁) (h₂ : b.resource = some r₂)
    (hrel : s.Related r₁ r₂) : a.venueId = b.venueId := by
  rw [← ha.venueOf h₁, hrel.venueOf, hb.venueOf h₂]

/-! ## §4 The conflict filter -/

theorem venueOf_of_mem_rooms {room : Room} (h : room ∈ s.rooms) :
    s.venueOf (.room room.id) = some room.venueId := by
  have hget : s.room? room.id = some room := Table.get?_of_mem h
  simp [Store.venueOf, hget]

theorem venueOf_of_mem_seats {seat : Seat} (h : seat ∈ s.seats) :
    s.venueOf (.seat seat.id) = s.venueOf (.room seat.roomId) := by
  have hget : s.seat? seat.id = some seat := Table.get?_of_mem h
  simp [Store.venueOf, hget]

/-- **The conflict filter keeps to the venue.**  It matches a row that decodes to itself only if
the row is in the venue of the resource. -/
theorem venueId_of_conflictFilter {slot : Slot} (hres : Resolves s level seatId roomId venueId ctx)
    (hslot : slot.Decodes s) (hf : conflictFilter s ctx slot) :
    slot.venueId = some ctx.venueId := by
  unfold conflictFilter at hf
  -- Whichever column matches lies in the venue of the row, and in that of the resource.
  split at hf <;>
    simp only [Bool.or_eq_true, sqlEq_eq_true, sqlIn_eq_true, List.mem_map, List.mem_filter,
      decide_eq_true_eq] at hf
  · rcases hf with (⟨x, hx, hctx⟩ | ⟨x, hx, hctx⟩) | ⟨x, hx, hctx⟩
    · rw [← hslot.venueOf_seat hx, hres.venueOf_seat hctx]
    · rw [← hslot.venueOf_room hx, hres.venueOf_room hctx]
    · rw [hx, hctx]
  · rcases hf with (⟨x, hx, hctx⟩ | ⟨x, hx, hctx⟩) | ⟨_, ⟨seat, ⟨hmem, hroom⟩, rfl⟩, hx⟩
    · rw [← hslot.venueOf_room hx, hres.venueOf_room hctx]
    · rw [hx, hctx]
    · rw [← hslot.venueOf_seat hx, venueOf_of_mem_seats hmem, hres.venueOf_room hroom.symm]
  · obtain (⟨x, hx, hctx⟩ | ⟨_, ⟨room, ⟨hmem, hv⟩, rfl⟩, hx⟩) |
      ⟨_, ⟨seat, ⟨hmem, room, ⟨hroom, hv⟩, hid⟩, rfl⟩, hx⟩ := hf
    · rw [hx, hctx]
    · rw [← hslot.venueOf_room hx, venueOf_of_mem_rooms hmem, hv]
    · rw [← hslot.venueOf_seat hx, venueOf_of_mem_seats hmem, ← hid, venueOf_of_mem_rooms hroom, hv]

/-- Among rows that decode to themselves, the conflict filter is the venue. -/
theorem conflictFilter_iff_venueId {slot : Slot} (hres : Resolves s level seatId roomId venueId ctx)
    (hslot : slot.Decodes s) : conflictFilter s ctx slot ↔ slot.venueId = some ctx.venueId :=
  ⟨venueId_of_conflictFilter hres hslot, conflictFilter_of_venueId⟩

end Coworking
