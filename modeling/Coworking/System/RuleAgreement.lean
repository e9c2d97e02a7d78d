import Coworking.Services.Space
import Coworking.System.Operation

/-!
# The Rule Enforced and the Rule Displayed

`_resolve_booking_rule` finds the rule that durations, holds and payments go by;
`get_booking_rule` shows a rule to clients.  The query for the venue differs: a room's rule carries
the venue of the room as well, and only `get_booking_rule` leaves such rules out.  The other
difference is the order, which only `get_booking_rule` asks for.

- `resolveBookingRule_eq`, `displayedRule_eq`: the two as choices from lists of rules;
- `RulesSettled`: no more than one rule is in question;
- `enforced_iff_settled`: the two agree exactly then.
-/

namespace Coworking

open Foundation

variable {rows : RowChoice} {db : Database} {s : Store} {ctx : ResourceContext}

/-! ## §1 The two resolutions -/

/-- The rule on display for a resource: that of its room, or else that of its venue. -/
def displayedRule (db : Database) (s : Store) (ctx : ResourceContext) :
    Option BookingRulePublic :=
  let venueRule := (getBookingRule db s "venue" (some ctx.venueId) none).toOption
  match ctx.level with
  | .seat | .room => (getBookingRule db s "room" none ctx.roomId).toOption <|> venueRule
  | .venue => venueRule

/-- The rules of the room of a resource. -/
def roomRules (s : Store) (ctx : ResourceContext) : List BookingRule :=
  s.bookingRules.rows.filter fun rule => sqlEq rule.roomId ctx.roomId

/-- The rules that carry the venue of a resource. -/
def venueRules (s : Store) (ctx : ResourceContext) : List BookingRule :=
  s.bookingRules.rows.filter fun rule => sqlEq rule.venueId (some ctx.venueId)

/-- The rules of the venue itself. -/
def ownVenueRules (s : Store) (ctx : ResourceContext) : List BookingRule :=
  s.bookingRules.rows.filter fun rule =>
    sqlEq rule.venueId (some ctx.venueId) && rule.roomId = none

theorem roomRules_of_none (h : ctx.roomId = none) : roomRules s ctx = [] := by
  simp [roomRules, h, sqlEq_none]

/-- Enforced is any rule of the room, or else any rule that carries the venue. -/
theorem resolveBookingRule_eq :
    resolveBookingRule rows s ctx =
      (rows.pick (roomRules s ctx)).or (rows.pick (venueRules s ctx)) := by
  have hvenue : s.bookingRules.rows.filter (·.venueId = some ctx.venueId) = venueRules s ctx := by
    simp [venueRules, sqlEq_some]
  simp only [resolveBookingRule, hvenue]
  rcases ctx.roomId_cases with ⟨hlevel, hid⟩ | ⟨hlevel, roomId, hid⟩
  · simp [hlevel, roomRules_of_none hid, rows.pick_nil]
  · have hroom : s.bookingRules.rows.filter (·.roomId = some roomId) = roomRules s ctx := by
      simp [roomRules, hid, sqlEq_some]
    cases hl : ctx.level with
    | venue => exact absurd hl hlevel
    | room | seat =>
      simp only [hid, hroom]
      cases rows.pick (roomRules s ctx) <;> rfl

/-- A request that names what its scope asks for ends with the newest rule found, or without any. -/
theorem getBookingRule_eq {scope : String} {venueId roomId : Option Uuid}
    (hscope : scope ∈ ["venue", "room"]) (hvenue : ¬ (scope = "venue" ∧ venueId = none))
    (hroom : ¬ (scope = "room" ∧ roomId = none)) :
    getBookingRule db s scope venueId roomId =
      found ((db.bookingRuleOrder.arrange (s.bookingRules.rows.filter fun rule =>
        if scope = "venue" then sqlEq rule.venueId venueId && rule.roomId = none
        else sqlEq rule.roomId roomId)).head?.map BookingRule.toPublic)
          (.spaceNotFound "Booking rule not found.") := by
  simp only [getBookingRule]
  rw [raiseIf_of_not (not_not.mpr hscope), ok_bind, raiseIf_of_not hvenue, ok_bind,
    raiseIf_of_not hroom, ok_bind]
  generalize (db.bookingRuleOrder.arrange _).head? = rule
  cases rule <;> rfl

/-- A request for the rule of a room ends with the newest one, or without any. -/
theorem getBookingRule_room {venueId : Option Uuid} {roomId : Uuid} :
    getBookingRule db s "room" venueId (some roomId) =
      found ((db.bookingRuleOrder.arrange (s.bookingRules.rows.filter fun rule =>
        sqlEq rule.roomId (some roomId))).head?.map BookingRule.toPublic)
          (.spaceNotFound "Booking rule not found.") := by
  rw [getBookingRule_eq (by decide) (by simp) (by simp)]
  simp only [show ¬ "room" = "venue" by decide, if_false]

/-- A request for the rule of a venue ends with the newest of its own, or without any. -/
theorem getBookingRule_venue {venueId : Uuid} {roomId : Option Uuid} :
    getBookingRule db s "venue" (some venueId) roomId =
      found ((db.bookingRuleOrder.arrange (s.bookingRules.rows.filter fun rule =>
        sqlEq rule.venueId (some venueId) && rule.roomId = none)).head?.map BookingRule.toPublic)
          (.spaceNotFound "Booking rule not found.") := by
  rw [getBookingRule_eq (by decide) (by simp) (by simp)]
  simp only [if_true]

theorem toOption_found {α ε : Type} (value : Option α) (error : ε) :
    (found value error).toOption = value := by
  cases value <;> rfl

/-- On display is the newest rule of the room, or else the newest rule of the venue itself. -/
theorem displayedRule_eq :
    displayedRule db s ctx =
      ((db.bookingRuleOrder.arrange (roomRules s ctx)).head?.or
        (db.bookingRuleOrder.arrange (ownVenueRules s ctx)).head?).map BookingRule.toPublic := by
  have hor : ∀ a b : Option BookingRule, (a.or b).map BookingRule.toPublic =
      (a.map BookingRule.toPublic <|> b.map BookingRule.toPublic) := by
    intro a b
    cases a <;> rfl
  simp only [displayedRule, getBookingRule_venue, toOption_found, hor]
  rcases ctx.roomId_cases with ⟨hlevel, hid⟩ | ⟨hlevel, roomId, hid⟩
  · simp [hlevel, roomRules_of_none hid, ownVenueRules]
  · cases hl : ctx.level with
    | venue => exact absurd hl hlevel
    | room | seat =>
      simp only [hid, getBookingRule_room, toOption_found, roomRules, ownVenueRules]

/-! ## §2 Agreement -/

/-- The rule is one of the room of the resource. -/
def BookingRule.OfRoom (rule : BookingRule) (ctx : ResourceContext) : Prop :=
  ∃ roomId, ctx.roomId = some roomId ∧ rule.roomId = some roomId

/-- No more than one rule is in question for the resource: its room has one rule; or it has none,
and at most one rule carries the venue, which is not a rule of another room. -/
structure RulesSettled (s : Store) (ctx : ResourceContext) : Prop where
  room : ∀ rule ∈ s.bookingRules, ∀ other ∈ s.bookingRules, rule.OfRoom ctx → other.OfRoom ctx →
    rule = other
  venue : (∀ rule ∈ s.bookingRules, ¬ rule.OfRoom ctx) →
    ∀ rule ∈ s.bookingRules, rule.venueId = some ctx.venueId →
      rule.roomId = none ∧
        ∀ other ∈ s.bookingRules, other.venueId = some ctx.venueId → rule = other

theorem mem_roomRules {rule : BookingRule} :
    rule ∈ roomRules s ctx ↔ rule ∈ s.bookingRules ∧ rule.OfRoom ctx := by
  cases h : ctx.roomId <;>
    simp [roomRules, h, sqlEq_some, sqlEq_none, BookingRule.OfRoom, Table.mem_def]

theorem mem_venueRules {rule : BookingRule} :
    rule ∈ venueRules s ctx ↔ rule ∈ s.bookingRules ∧ rule.venueId = some ctx.venueId := by
  simp [venueRules, sqlEq_some, Table.mem_def]

theorem mem_ownVenueRules {rule : BookingRule} :
    rule ∈ ownVenueRules s ctx ↔ rule ∈ venueRules s ctx ∧ rule.roomId = none := by
  simp [ownVenueRules, venueRules, and_assoc]

/-- What is shown of a stored rule identifies it. -/
theorem toPublic_map_inj {a b : Option BookingRule} (ha : ∀ rule ∈ a, rule ∈ s.bookingRules)
    (hb : ∀ rule ∈ b, rule ∈ s.bookingRules) :
    a.map BookingRule.toPublic = b.map BookingRule.toPublic ↔ a = b := by
  refine ⟨fun h => ?_, fun h => by rw [h]⟩
  cases a with
  | none => simpa [eq_comm] using h
  | some x =>
    cases b with
    | none => simp at h
    | some y =>
      have hid : x.id = y.id := congrArg BookingRulePublic.id (Option.some.inj h)
      exact congrArg some (Table.key_injective (ha x rfl) (hb y rfl) hid)

/-- Any of the rules `found` agrees with the newest of the rules `shown` among them exactly when
there is at most one, and it is shown. -/
theorem forall_pick_eq_newest {found shown : List BookingRule}
    (hfound : ∀ rule ∈ found, rule ∈ s.bookingRules) (hshown : shown ⊆ found) :
    (∀ rows : RowChoice, (rows.pick found).map BookingRule.toPublic =
        (db.bookingRuleOrder.arrange shown).head?.map BookingRule.toPublic) ↔
      ∀ rule ∈ found, rule ∈ shown ∧ ∀ other ∈ found, rule = other := by
  have hnewest : ∀ rule ∈ (db.bookingRuleOrder.arrange shown).head?, rule ∈ shown :=
    fun rule h => db.bookingRuleOrder.mem_arrange.mp (List.mem_of_head? h)
  have hinj : ∀ rows : RowChoice, (rows.pick found).map BookingRule.toPublic =
      (db.bookingRuleOrder.arrange shown).head?.map BookingRule.toPublic ↔
      rows.pick found = (db.bookingRuleOrder.arrange shown).head? := fun rows =>
    toPublic_map_inj (fun rule h => hfound rule (rows.pick_mem h))
      fun rule h => hfound rule (hshown (hnewest rule h))
  simp only [hinj, RowChoice.forall_pick_eq]
  constructor
  · rintro ⟨hall, -⟩ rule hrule
    refine ⟨hnewest rule (hall rule hrule), fun other hother => ?_⟩
    exact Option.some.inj ((hall rule hrule).symm.trans (hall other hother))
  · intro h
    constructor
    · intro rule hrule
      -- Something is shown, and all that is found is this rule.
      have hne : db.bookingRuleOrder.arrange shown ≠ [] :=
        List.ne_nil_of_mem (db.bookingRuleOrder.mem_arrange.mpr (h rule hrule).1)
      obtain ⟨newest, hhead⟩ := Option.isSome_iff_exists.mp (List.isSome_head?.mpr hne)
      rw [hhead, (h rule hrule).2 newest (hshown (hnewest newest hhead))]
    · intro hnil
      have hempty : shown = [] := List.eq_nil_of_subset_nil (hnil ▸ hshown)
      rw [hempty, RowOrder.arrange_nil, List.head?_nil]

/-- **The rule enforced and the rule displayed.**  Whatever rows the queries return, the rule that
is enforced for a resource is the one on display exactly when no more than one is in question. -/
theorem enforced_iff_settled :
    (∀ rows : RowChoice, (resolveBookingRule rows s ctx).map BookingRule.toPublic =
        displayedRule db s ctx) ↔ RulesSettled s ctx := by
  have hmem : ∀ rule ∈ roomRules s ctx, rule ∈ s.bookingRules := fun rule h =>
    (mem_roomRules.mp h).1
  simp only [resolveBookingRule_eq, displayedRule_eq]
  by_cases hnil : roomRules s ctx = []
  · -- The room has no rule, and both fall back to the venue.
    have hnone : ∀ rule ∈ s.bookingRules, ¬ rule.OfRoom ctx := fun rule hrule hof =>
      List.ne_nil_of_mem (mem_roomRules.mpr ⟨hrule, hof⟩) hnil
    simp only [hnil, RowChoice.pick_nil, RowOrder.arrange_nil, List.head?_nil, Option.none_or]
    rw [forall_pick_eq_newest (fun rule h => (mem_venueRules.mp h).1)
      fun rule h => (mem_ownVenueRules.mp h).1]
    constructor
    · intro h
      refine ⟨fun rule hrule _ _ hof => absurd hof (hnone rule hrule), fun _ rule hrule hv => ?_⟩
      obtain ⟨hown, hother⟩ := h rule (mem_venueRules.mpr ⟨hrule, hv⟩)
      exact ⟨(mem_ownVenueRules.mp hown).2, fun other ho hvo =>
        hother other (mem_venueRules.mpr ⟨ho, hvo⟩)⟩
    · intro h rule hrule
      obtain ⟨hstored, hv⟩ := mem_venueRules.mp hrule
      obtain ⟨hown, hother⟩ := h.venue hnone rule hstored hv
      exact ⟨mem_ownVenueRules.mpr ⟨hrule, hown⟩, fun other ho =>
        hother other (mem_venueRules.mp ho).1 (mem_venueRules.mp ho).2⟩
  · -- The room has a rule, which goes before any of the venue.
    have hpick : ∀ rows : RowChoice, (rows.pick (roomRules s ctx)).or
        (rows.pick (venueRules s ctx)) = rows.pick (roomRules s ctx) := fun rows =>
      Option.or_of_isSome (rows.pick_isSome hnil)
    have hhead : (db.bookingRuleOrder.arrange (roomRules s ctx)).head?.isSome := by
      obtain ⟨rule, hrule⟩ := List.exists_mem_of_ne_nil _ hnil
      exact List.isSome_head?.mpr
        (List.ne_nil_of_mem (db.bookingRuleOrder.mem_arrange.mpr hrule))
    simp only [hpick, Option.or_of_isSome hhead]
    rw [forall_pick_eq_newest hmem (List.Subset.refl _)]
    constructor
    · intro h
      refine ⟨fun rule hrule other hother hr ho => ?_, fun hnone => ?_⟩
      · exact (h rule (mem_roomRules.mpr ⟨hrule, hr⟩)).2 other (mem_roomRules.mpr ⟨hother, ho⟩)
      · obtain ⟨rule, hrule⟩ := List.exists_mem_of_ne_nil _ hnil
        exact absurd (mem_roomRules.mp hrule).2 (hnone rule (hmem rule hrule))
    · intro h rule hrule
      exact ⟨hrule, fun other hother => h.room rule (hmem rule hrule) other (hmem other hother)
        (mem_roomRules.mp hrule).2 (mem_roomRules.mp hother).2⟩

/-! ## §3 The rule of another room -/

/-- The rule of a venue with long bookings. -/
def venueRule : BookingRule := ⟨8, some 1, none, 30, 480, 30, 60, false, 900, 30, 150, 0⟩

/-- The rule of its meeting room with short ones. -/
def meetingRule : BookingRule := ⟨9, some 1, some 5, 60, 180, 30, 60, false, 900, 30, 150, 0⟩

/-- The small venue with a meeting room, under both rules. -/
def ruledStore : Store :=
  { smallStore with
    rooms := ⟨[⟨2, 1, "Hall", true, none, none⟩, ⟨5, 1, "Meeting Room", true, none, none⟩], by decide⟩
    bookingRules := ⟨[venueRule, meetingRule], by decide⟩ }

/-- The hall, which has no rule. -/
def hall : ResourceContext := ⟨.room, 1, some 2, none, "UTC", ⟨rfl, rfl⟩⟩

/-- Every rule of a room carries the venue of the room, and the query for the hall may return the
rule of the meeting room, while the rule on display is that of the venue. -/
theorem meeting_rule_enforced_for_hall :
    (∀ rule ∈ ruledStore.bookingRules.rows, ∀ roomId ∈ rule.roomId,
      ∃ room ∈ ruledStore.room? roomId, rule.venueId = some room.venueId) ∧
    resolveResource ruledStore .room none (some 2) none = .ok hall ∧
    resolveBookingRule (.prefer meetingRule) ruledStore hall = some meetingRule ∧
    displayedRule .plain ruledStore hall = some venueRule.toPublic ∧
    ¬ ∀ rows : RowChoice, (resolveBookingRule rows ruledStore hall).map BookingRule.toPublic =
      displayedRule .plain ruledStore hall := by
  have hdisplayed : displayedRule .plain ruledStore hall = some venueRule.toPublic := by
    have hroom : roomRules ruledStore hall = [] := rfl
    have hvenue : ownVenueRules ruledStore hall = [venueRule] := rfl
    rw [displayedRule_eq, hroom, hvenue, RowOrder.arrange_nil, RowOrder.arrange_singleton]
    rfl
  refine ⟨by decide, rfl, rfl, hdisplayed, fun hagree => ?_⟩
  have h := hagree (.prefer meetingRule)
  rw [hdisplayed] at h
  exact absurd h (by decide)

end Coworking
