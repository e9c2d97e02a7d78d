import Mathlib.Data.Set.Basic

/-!
# Scoped Grants

Roles are assigned everywhere or in one scope, and carry permissions.  Flattening forgets the
scopes: a permission is kept when any assignment grants it.

- `Granted`, `Entitled`: a permission in one scope, and where a scope looks for it;
- `flatten_sound_iff`: what a flattened permission says about a scope, exactly.
-/

namespace Coworking.Foundation

variable {ρ κ π : Type*} {perms : ρ → Set π} {A : Set (ρ × Option κ)} {p : π} {k : κ}

/-- An assignment to this scope (`none` is everywhere) carries the permission. -/
def Granted (perms : ρ → Set π) (A : Set (ρ × Option κ)) (p : π) (scope : Option κ) : Prop :=
  ∃ r, (r, scope) ∈ A ∧ p ∈ perms r

/-- The permission holds in a scope: it is granted everywhere or there. -/
def Entitled (perms : ρ → Set π) (A : Set (ρ × Option κ)) (p : π) (k : κ) : Prop :=
  Granted perms A p none ∨ Granted perms A p (some k)

/-- The permissions granted anywhere. -/
def flatten (perms : ρ → Set π) (A : Set (ρ × Option κ)) : Set π :=
  {p | ∃ scope, Granted perms A p scope}

/-- **What flattening gives away.**  A flattened permission entitles in a scope exactly when
whoever is granted it in some other scope is entitled in this one too. -/
theorem flatten_sound_iff :
    (p ∈ flatten perms A → Entitled perms A p k) ↔
      ∀ l, l ≠ k → Granted perms A p (some l) → Entitled perms A p k := by
  constructor
  · intro h l _ hl
    exact h ⟨some l, hl⟩
  · intro h hp
    rcases hp with ⟨scope, hscope⟩
    cases scope with
    | none => exact .inl hscope
    | some l =>
      -- Only a grant in another scope needs the hypothesis.
      by_cases hl : l = k
      · exact .inr (hl ▸ hscope)
      · exact h l hl hscope

end Coworking.Foundation
