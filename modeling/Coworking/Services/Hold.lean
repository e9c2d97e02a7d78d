import Coworking.Schemas
import Coworking.Services.Availability

/-!
# Holds

`create_hold` is split at `session.add`: `checkHold` is everything up to it and returns
the row about to be inserted, `commitHold` is the insert and the commit.

## Specification

`checkHold_eq_ok`: a hold is accepted exactly when the request resolves, the window is
admissible and nothing that conflicts with the resource overlaps it.
-/

namespace Coworking

open Foundation

/-- `_ensure_utc`, of which `hold.py` and `booking.py` have the same copy. -/
def ensureUtc (value : DateTime) (fieldName : String) : Except ServiceError Instant :=
  found value.instant?
    (.availabilityValidation (fieldName ++ " must include timezone information."))

theorem ensureUtc_eq_ok {value : DateTime} {fieldName : String} {t : Instant} :
    ensureUtc value fieldName = .ok t ↔ value.instant? = some t := found_eq_ok _ _ _

/-- The shared columns of a row for this resource, user and window. -/
def ResourceContext.slot (ctx : ResourceContext) (userId : Uuid) (startTime endTime : Instant) :
    Slot where
  userId
  level := ctx.level
  venueId := some ctx.venueId
  roomId := ctx.roomId
  seatId := ctx.seatId
  startTime
  endTime

/-- A hold before its insert draws an id. -/
structure HoldDraft where
  slot : Slot
  expiresAt : Instant
  deriving DecidableEq

/-- The lifetime of a hold under a rule. -/
def holdTtlSeconds : Option BookingRule → Int
  | some rule => rule.holdTtlSeconds
  | none => 900

/-- `create_hold` up to `session.add`. -/
def checkHold (rt : Runtime) (c : Call) (s : Store) (payload : HoldCreateRequest) :
    Except ServiceError HoldDraft := do
  let startTime ← ensureUtc payload.startTime "startTime"
  let endTime ← ensureUtc payload.endTime "endTime"
  let now := c.now 0
  raiseIf (endTime ≤ startTime)
    (.availabilityValidation "endTime must be greater than startTime.")
  raiseIf (startTime ≤ now) (.availabilityValidation "startTime must be in the future.")
  let ctx ← resolveResource s payload.level payload.seatId payload.roomId payload.venueId
  let durationMinutes := wholeMinutes (endTime - startTime)
  let bookingRule := resolveBookingRule c.rows s ctx
  raiseIf (∃ rule ∈ bookingRule, durationMinutes < rule.minDurationMinutes)
    (.availabilityValidation "Requested interval is below the minimum allowed duration.")
  raiseIf (∃ rule ∈ bookingRule, rule.maxDurationMinutes < durationMinutes)
    (.availabilityValidation "Requested interval exceeds the maximum allowed duration.")
  raiseIf (∃ rule ∈ bookingRule, now + days rule.maxAdvanceDays < startTime)
    (.availabilityValidation "Requested interval exceeds the maximum advance booking window.")
  -- From here on in local time: both ends carry the zone of the resource, and Python compares
  -- datetimes of one zone by what the clock on the wall shows.
  let resourceTz ← found (rt.zoneInfo ctx.timezone) (.zoneInfo ctx.timezone)
  let localStart := resourceTz.toWall startTime
  let localEnd := resourceTz.toWall endTime
  raiseIf (localStart.date ≠ localEnd.date)
    (.availabilityValidation "Requested interval must fit within a single local day.")
  let operatingHours ← found (resolveOperatingHours s ctx localStart.date)
    (.availabilityValidation "Resource is closed for the selected date.")
  let openAt := combine localStart.date operatingHours.1
  let closeAt := combine localStart.date operatingHours.2
  raiseIf (localStart < openAt ∨ closeAt < localEnd)
    (.availabilityValidation "Requested interval is outside operating hours.")
  -- The conflict query reads the clock again.
  let conflicts := loadConflicts (c.now 1) s ctx startTime endTime
  raiseIf (∃ b ∈ conflicts.1, overlaps startTime endTime b.startTime b.endTime)
    (.holdConflict "Requested slot is not available.")
  raiseIf (∃ h ∈ conflicts.2, overlaps startTime endTime h.startTime h.endTime)
    (.holdConflict "Requested slot is already on hold.")
  pure
    { slot := ctx.slot c.user startTime endTime
      expiresAt := min startTime (now + seconds (holdTtlSeconds bookingRule)) }

/-- The row a hold insert writes. -/
def HoldDraft.row (d : HoldDraft) (id : Uuid) : Hold :=
  { d.slot with id, status := .pending, expiresAt := d.expiresAt }

theorem HoldDraft.row_fresh (d : HoldDraft) (rt : Runtime) (t : Table Hold) :
    Keyed.key (d.row (rt.fresh t)) ∉ t.keys := rt.fresh_notMem t

/-- `session.add(hold)` and the commit. -/
def commitHold (rt : Runtime) (s : Store) (d : HoldDraft) : Store × Hold :=
  ({ s with holds := s.holds.insert (d.row (rt.fresh s.holds)) (d.row_fresh rt s.holds) },
    d.row (rt.fresh s.holds))

/-- `create_hold`. -/
def createHold (rt : Runtime) (c : Call) (s : Store) (payload : HoldCreateRequest) :
    Except ServiceError (Store × Hold) := do
  let draft ← checkHold rt c s payload
  pure (commitHold rt s draft)

/-- `hold.status = status`. -/
def Hold.setStatus (status : HoldStatus) (h : Hold) : Hold := { h with status }

theorem Hold.setStatus_key (status : HoldStatus) (h : Hold) :
    Keyed.key (h.setStatus status) = Keyed.key h := rfl

/-- `cancel_hold`. -/
def cancelHold (c : Call) (s : Store) (holdId : Uuid) : Except ServiceError Store := do
  let hold ← found (s.holdOf? holdId c.user) (.holdNotFound "Hold not found.")
  -- A hold in any other status is left alone, without an error.
  if hold.status = .pending then
    pure { s with
      holds := s.holds.modify holdId (Hold.setStatus .cancelled) (Hold.setStatus_key .cancelled) }
  else pure s

/-- `cancel_hold` up to its write; a hold that is no longer pending gets none. -/
def checkCancelHold (c : Call) (s : Store) (holdId : Uuid) : Except ServiceError (Option Uuid) := do
  let hold ← found (s.holdOf? holdId c.user) (.holdNotFound "Hold not found.")
  pure (if hold.status = .pending then some holdId else none)

/-- The commit of `cancel_hold`, which writes the status of a row that need not be pending now. -/
def commitCancelHold (s : Store) (holdId : Uuid) : Store :=
  { s with
    holds := s.holds.modify holdId (Hold.setStatus .cancelled) (Hold.setStatus_key .cancelled) }

/-! ## Specification -/

/-- The rule guards of a request let through exactly what the rule admits. -/
theorem rule_guards {rule : Option BookingRule} {now start stop : Instant} :
    (¬ (∃ r ∈ rule, wholeMinutes (stop - start) < r.minDurationMinutes) ∧
      ¬ (∃ r ∈ rule, r.maxDurationMinutes < wholeMinutes (stop - start)) ∧
      ¬ (∃ r ∈ rule, now + days r.maxAdvanceDays < start)) ↔
    ∀ r, rule = some r → RuleAdmits r now start stop := by
  cases rule with
  | none => simp
  | some r =>
    simp only [Option.mem_def, Option.some.injEq, exists_eq_left', not_lt, forall_eq']
    exact ⟨fun ⟨h₁, h₂, h₃⟩ => ⟨h₁, h₂, h₃⟩, fun h => ⟨h.1, h.2, h.3⟩⟩

/-- The hours guards of a request let through exactly what the opening hours admit. -/
theorem hours_guards {s : Store} {ctx : ResourceContext} {tz : Zone} {start stop : Instant} :
    (¬ (tz.toWall start).date ≠ (tz.toWall stop).date ∧
      ∃ hours, resolveOperatingHours s ctx (tz.toWall start).date = some hours ∧
        ¬ (tz.toWall start < combine (tz.toWall start).date hours.1 ∨
          combine (tz.toWall start).date hours.2 < tz.toWall stop)) ↔
    HoursAdmit s ctx tz start stop := by
  simp only [ne_eq, not_not, not_or, not_lt]
  exact ⟨fun ⟨h₁, h₂⟩ => ⟨h₁, h₂⟩, fun h => ⟨h.sameDay, h.isOpen⟩⟩

/-- The two conflict guards let through exactly an unclaimed window. -/
theorem conflict_guards {now : Instant} {s : Store} {ctx : ResourceContext}
    {start stop : Instant} :
    (¬ (∃ b ∈ (loadConflicts now s ctx start stop).1, overlaps start stop b.startTime b.endTime) ∧
      ¬ (∃ h ∈ (loadConflicts now s ctx start stop).2,
        overlaps start stop h.startTime h.endTime)) ↔
    Unclaimed now s ctx start stop none none :=
  guards_iff_unclaimed (by simp) (by simp)

/-- **Acceptance of a hold.** -/
theorem checkHold_eq_ok {rt : Runtime} {c : Call} {s : Store} {payload : HoldCreateRequest}
    {d : HoldDraft} :
    checkHold rt c s payload = .ok d ↔ ∃ start stop ctx,
      payload.startTime.instant? = some start ∧ payload.endTime.instant? = some stop ∧
      Resolves s payload.level payload.seatId payload.roomId payload.venueId ctx ∧
      Admissible rt c.rows s ctx (c.now 0) start stop ∧
      Unclaimed (c.now 1) s ctx start stop none none ∧
      d = ⟨ctx.slot c.user start stop,
        min start (c.now 0 + seconds (holdTtlSeconds (resolveBookingRule c.rows s ctx)))⟩ := by
  simp only [checkHold, bind_eq_ok, raiseIf_eq_ok, found_eq_ok, pure_eq_ok, ensureUtc_eq_ok,
    resolveResource_eq_ok, exists_const]
  constructor
  · intro hok
    rcases hok with ⟨start, hstart, stop, hstop, hord, hfut, ctx, hres, hmin, hmax, hadv, tz, htz,
      hday, hours, hhours, hopen, hb, hh, rfl⟩
    refine ⟨start, stop, ctx, hstart, hstop, hres, ⟨not_le.mp hord, not_le.mp hfut, ?_, ?_⟩, ?_,
      rfl⟩
    · exact rule_guards.mp ⟨hmin, hmax, hadv⟩
    · exact ⟨tz, htz, hours_guards.mp ⟨hday, hours, hhours, hopen⟩⟩
    · exact conflict_guards.mp ⟨hb, hh⟩
  · intro hspec
    rcases hspec with ⟨start, stop, ctx, hstart, hstop, hres, hadm, hfree, rfl⟩
    obtain ⟨hmin, hmax, hadv⟩ := rule_guards.mpr hadm.rule
    obtain ⟨tz, htz, hin⟩ := hadm.hours
    obtain ⟨hday, hours, hhours, hopen⟩ := hours_guards.mpr hin
    obtain ⟨hb, hh⟩ := conflict_guards.mpr hfree
    exact ⟨start, hstart, stop, hstop, not_le.mpr hadm.ordered, not_le.mpr hadm.future, ctx, hres,
      hmin, hmax, hadv, tz, htz, hday, hours, hhours, hopen, hb, hh, rfl⟩

theorem createHold_eq_ok {rt : Runtime} {c : Call} {s : Store} {payload : HoldCreateRequest}
    {r : Store × Hold} :
    createHold rt c s payload = .ok r ↔
      ∃ d, checkHold rt c s payload = .ok d ∧ commitHold rt s d = r := by
  simp only [createHold, bind_eq_ok, pure_eq_ok]

/-- **What a created hold is.**  A pending row for the resource and window of the request, which
expires no later than the window starts. -/
theorem createHold_spec {rt : Runtime} {c : Call} {s s' : Store} {payload : HoldCreateRequest}
    {h : Hold} (hok : createHold rt c s payload = .ok (s', h)) :
    ∃ start stop ctx, payload.startTime.instant? = some start ∧
      payload.endTime.instant? = some stop ∧
      Resolves s payload.level payload.seatId payload.roomId payload.venueId ctx ∧
      Admissible rt c.rows s ctx (c.now 0) start stop ∧ h ∈ s'.holds ∧ h.status = .pending ∧
      h.toSlot = ctx.slot c.user start stop ∧ h.expiresAt ≤ start := by
  obtain ⟨d, hd, hcommit⟩ := createHold_eq_ok.mp hok
  obtain ⟨start, stop, ctx, hstart, hstop, hres, hadm, -, rfl⟩ := checkHold_eq_ok.mp hd
  obtain ⟨rfl, rfl⟩ := Prod.mk.inj hcommit
  refine ⟨start, stop, ctx, hstart, hstop, hres, hadm, ?_, rfl, rfl, min_le_left _ _⟩
  simp

/-- A cancelled hold was pending; a repeated cancel changes nothing. -/
theorem cancelHold_eq_ok {c : Call} {s s' : Store} {holdId : Uuid} :
    cancelHold c s holdId = .ok s' ↔ ∃ h, s.holdOf? holdId c.user = some h ∧
      s' = if h.status = .pending then
        { s with
          holds := s.holds.modify holdId (Hold.setStatus .cancelled)
            (Hold.setStatus_key .cancelled) }
        else s := by
  simp only [cancelHold, bind_eq_ok, found_eq_ok]
  refine exists_congr fun h => and_congr_right fun _ => ?_
  by_cases hs : h.status = .pending
  · rw [if_pos hs, if_pos hs, pure_eq_ok, eq_comm]
  · rw [if_neg hs, if_neg hs, pure_eq_ok, eq_comm]

/-- The two halves make up the operation. -/
theorem cancelHold_halves (c : Call) (s : Store) (holdId : Uuid) :
    cancelHold c s holdId =
      (fun r => r.elim s (commitCancelHold s)) <$> checkCancelHold c s holdId := by
  unfold cancelHold checkCancelHold
  cases s.holdOf? holdId c.user with
  | none => rfl
  | some h =>
    show (if h.status = .pending then _ else _) = Except.ok _
    by_cases hs : h.status = .pending
    · rw [if_pos hs, if_pos hs]
      rfl
    · rw [if_neg hs, if_neg hs]
      rfl

/-- A cancellation that has something to write has found the hold of its user pending. -/
theorem checkCancelHold_eq_ok {c : Call} {s : Store} {holdId id : Uuid} :
    checkCancelHold c s holdId = .ok (some id) ↔
      id = holdId ∧ ∃ h, s.holdOf? holdId c.user = some h ∧ h.status = .pending := by
  simp only [checkCancelHold, bind_eq_ok, found_eq_ok, pure_eq_ok]
  constructor
  · rintro ⟨h, hget, hid⟩
    by_cases hs : h.status = .pending
    · rw [if_pos hs, Option.some.injEq] at hid
      exact ⟨hid.symm, h, hget, hs⟩
    · rw [if_neg hs] at hid
      cases hid
  · rintro ⟨rfl, h, hget, hs⟩
    exact ⟨h, hget, if_pos hs⟩

end Coworking
