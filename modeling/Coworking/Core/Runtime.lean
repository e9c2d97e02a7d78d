import Coworking.Db.Models

/-!
# The Runtime and the Circumstances of a Request

What the services rely on and do not define: the time-zone database, `uuid4`, Unicode
case mapping, the order in which a flush emits its statements, and the row a query
without `ORDER BY` hands back first.

Each part carries the law the code relies on as a field: a drawn UUID is new, a flush
order is a permutation, a query returns one of the matching rows.
-/

namespace Coworking

open Foundation

/-- One row write of a seat table flush. -/
inductive SeatWrite
  /-- `UPDATE seats SET label, grid_x, … WHERE id`. -/
  | update (id : Uuid) (label : String) (gridX gridY : Int) (seatType attributes : Option String)
      (active : Bool)
  /-- `INSERT INTO seats`. -/
  | insert (label : String) (gridX gridY : Int) (seatType attributes : Option String)
      (active : Bool)
  deriving DecidableEq

/-- What the process supplies. -/
structure Runtime where
  /-- `ZoneInfo(name)`; `none` when it raises. -/
  zoneInfo : String → Option Zone
  /-- `uuid4()`, given the keys of the table it is drawn for. -/
  uuid4 : List Uuid → Uuid
  uuid4_fresh : ∀ used, uuid4 used ∉ used
  /-- `str.upper`. -/
  upper : String → String
  /-- `str.lower`. -/
  lower : List Char → List Char
  /-- `str.isspace`, which `str.strip` removes at both ends. -/
  isSpace : Char → Bool
  /-- The order in which a flush writes seat rows. -/
  flushOrder : List SeatWrite → List SeatWrite
  flushOrder_perm : ∀ writes, (flushOrder writes).Perm writes

/-- The row `session.scalar(select(BookingRule).where(…))` returns when several match. -/
structure RowChoice where
  pick : List BookingRule → Option BookingRule
  pick_mem : ∀ {rows rule}, pick rows = some rule → rule ∈ rows
  pick_isSome : ∀ {rows}, rows ≠ [] → (pick rows).isSome

/-- The choice of the oldest matching row. -/
def RowChoice.first : RowChoice where
  pick := List.head?
  pick_mem := List.mem_of_head?
  pick_isSome := fun h => by simpa [List.isSome_head?] using h

/-- The choice of a given row wherever it matches. -/
def RowChoice.prefer (rule : BookingRule) : RowChoice where
  pick := fun rows => if rule ∈ rows then some rule else rows.head?
  pick_mem := fun {rows _} h => by
    split at h
    next hmem => exact Option.some.inj h ▸ hmem
    next => exact List.mem_of_head? h
  pick_isSome := fun h => by
    split
    · rfl
    · simpa [List.isSome_head?] using h

theorem RowChoice.pick_nil (rows : RowChoice) : rows.pick [] = none :=
  Option.eq_none_iff_forall_ne_some.mpr fun _ h => List.not_mem_nil (rows.pick_mem h)

theorem RowChoice.pick_singleton (rows : RowChoice) (rule : BookingRule) :
    rows.pick [rule] = some rule := by
  obtain ⟨r, hr⟩ := Option.isSome_iff_exists.mp (rows.pick_isSome (List.cons_ne_nil rule []))
  rw [hr, List.mem_singleton.mp (rows.pick_mem hr)]

/-- Every choice has one outcome when at most one row matches. -/
theorem RowChoice.forall_pick_eq {rules : List BookingRule} {outcome : Option BookingRule} :
    (∀ rows : RowChoice, rows.pick rules = outcome) ↔
      (∀ rule ∈ rules, outcome = some rule) ∧ (rules = [] → outcome = none) := by
  constructor
  · intro h
    refine ⟨fun rule hmem => ?_, fun hnil => ?_⟩
    · rw [← h (.prefer rule)]
      exact if_pos hmem
    · rw [← h .first, hnil, RowChoice.pick_nil]
  · rintro ⟨hsome, hnone⟩ rows
    cases hpick : rows.pick rules with
    | some rule => exact (hsome rule (rows.pick_mem hpick)).symm
    | none =>
      refine (hnone ?_).symm
      by_contra hne
      exact absurd (rows.pick_isSome hne) (by simp [hpick])

/-- The circumstances of one request: who calls, what the clock reads, which rows come first. -/
structure Call where
  user : Uuid
  clock : Clock
  rows : RowChoice

/-- The `n`-th `datetime.now(UTC)` of the request. -/
def Call.now (c : Call) (n : Nat) : Instant := c.clock.reading n

theorem Call.now_mono (c : Call) {m n : Nat} (h : m ≤ n) : c.now m ≤ c.now n := c.clock.mono h

/-- A UUID for a new row of a table. -/
def Runtime.fresh (rt : Runtime) {ρ : Type} [Keyed ρ Uuid] (t : Table ρ) : Uuid := rt.uuid4 t.keys

theorem Runtime.fresh_notMem (rt : Runtime) {ρ : Type} [Keyed ρ Uuid] (t : Table ρ) :
    rt.fresh t ∉ t.keys := rt.uuid4_fresh t.keys

theorem Runtime.get?_fresh (rt : Runtime) {ρ : Type} [Keyed ρ Uuid] (t : Table ρ) :
    t.get? (rt.fresh t) = none := Table.get?_eq_none.mpr (rt.fresh_notMem t)

/-- A process whose only time zone is UTC. -/
def Runtime.plain : Runtime where
  zoneInfo := fun key => if key = "UTC" then some Zone.utc else none
  uuid4 := fun used => used.foldr max 0 + 1
  uuid4_fresh := fun used hmem => by
    have hle : ∀ l : List Uuid, ∀ x ∈ l, x ≤ l.foldr max 0 := fun l => by
      induction l with
      | nil => simp
      | cons a l ih =>
        intro x hx
        rcases List.mem_cons.mp hx with rfl | hx
        · exact le_max_left ..
        · exact (ih x hx).trans (le_max_right ..)
    exact absurd (hle used _ hmem) (Nat.not_succ_le_self _)
  upper := fun text => String.ofList (text.toList.map Char.toUpper)
  lower := List.map Char.toLower
  isSpace := Char.isWhitespace
  flushOrder := id
  flushOrder_perm := fun _ => .refl _

end Coworking
