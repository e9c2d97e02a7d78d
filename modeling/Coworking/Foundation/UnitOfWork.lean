import Mathlib.Logic.Basic

/-!
# Units of Work

A session with a database collects writes.  It emits them when it is flushed, which also happens
before it queries, and what it has emitted counts when it commits.  A write that the database
rejects raises where it is emitted, not where it is added.

- `UnitOfWork.flush`, `UnitOfWork.commit`, `UnitOfWork.rollback`: the calls of a session;
- `inSession`: what a computation leaves in the database, and what it answers;
- `run_flush_bind_error`, `run_catching_ok`: what a handler around a later commit gets to see.
-/

namespace Coworking.Foundation

variable {ε σ ω α : Type}

/-- A session: what is committed, what its transaction sees, and the writes to emit. -/
structure UnitOfWork (σ ω : Type) where
  committed : σ
  seen : σ
  pending : List ω

/-- A computation in a session, which outlives the exceptions that are raised in it. -/
abbrev InSession (ε σ ω α : Type) := EStateM ε (UnitOfWork σ ω) α

namespace UnitOfWork

variable (emit : σ → ω → Except ε σ)

def add (write : ω) : InSession ε σ ω Unit :=
  modify fun u => { u with pending := u.pending ++ [write] }

/-- Emits what is pending. -/
def flush : InSession ε σ ω Unit := fun u =>
  match u.pending.foldlM emit u.seen with
  | .ok seen => .ok () { u with seen, pending := [] }
  | .error e => .error e u

/-- A query, before which the session is flushed. -/
def select (query : σ → α) : InSession ε σ ω α := do
  flush emit
  return query (← get).seen

def commit : InSession ε σ ω Unit := do
  flush emit
  modify fun u => { u with committed := u.seen }

def rollback : InSession ε σ ω Unit := modify fun u => ⟨u.committed, u.committed, []⟩

variable {emit} {before s s' : σ} {write : ω} {e : ε}

/-! ## Flushes -/

@[simp] theorem run_add {writes : List ω} :
    (add write : InSession ε σ ω Unit).run ⟨before, s, writes⟩ =
      .ok () ⟨before, s, writes ++ [write]⟩ := rfl

theorem run_flush_ok (h : emit s write = .ok s') :
    (flush emit).run ⟨before, s, [write]⟩ = .ok () ⟨before, s', []⟩ := by
  simp [flush, EStateM.run, h]

theorem run_flush_error (h : emit s write = .error e) :
    (flush emit).run ⟨before, s, [write]⟩ = .error e ⟨before, s, [write]⟩ := by
  simp [flush, EStateM.run, h]

@[simp] theorem run_select {query : σ → α} :
    (select emit query).run ⟨before, s, []⟩ = .ok (query s) ⟨before, s, []⟩ := rfl

@[simp] theorem run_commit_nil : (commit emit).run ⟨before, s, []⟩ = .ok () ⟨s, s, []⟩ := rfl

theorem run_commit_ok (h : emit s write = .ok s') :
    (commit emit).run ⟨before, s, [write]⟩ = .ok () ⟨s', s', []⟩ := by
  simp only [commit, EStateM.run_bind, run_flush_ok h]
  rfl

/-- A handler does not get to see a computation that raises nothing. -/
theorem run_catching_ok {x : InSession ε σ ω α} {handler : ε → InSession ε σ ω α}
    {u u' : UnitOfWork σ ω} {a : α} (h : x.run u = .ok a u') :
    (tryCatch x handler).run u = .ok a u' := by
  have h : x u = .ok a u' := h
  change EStateM.tryCatch x handler u = _
  delta EStateM.tryCatch
  rw [h]

/-- What a flush raises, no handler around what follows gets to see. -/
theorem run_flush_bind_error {next : Unit → InSession ε σ ω α} (h : emit s write = .error e) :
    (flush emit >>= next).run ⟨before, s, [write]⟩ = .error e ⟨before, s, [write]⟩ := by
  rw [EStateM.run_bind, run_flush_error h]

end UnitOfWork

/-- A session from its start: what it leaves in the database, and what it answers. -/
def inSession (s : σ) (x : InSession ε σ ω α) : σ × Except ε α :=
  match x.run ⟨s, s, []⟩ with
  | .ok a u => (u.committed, .ok a)
  | .error e u => (u.committed, .error e)

end Coworking.Foundation
