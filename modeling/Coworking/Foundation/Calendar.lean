import Mathlib.Logic.Function.Basic
import Mathlib.Logic.Relation
import Mathlib.Order.Lattice

/-!
# Exclusive Calendars

What a reservation system is for, without the system: a calendar assigns to some
keys an entry, entries may clash, and no two keys ever hold clashing entries.

- `Calendar κ α`: a partial assignment of entries to keys.
- `Exclusive clash cal`: entries under different keys do not clash.
- `CalendarStep`: entries may be released at any time; an entry may be reserved when
  nothing under another key clashes with it.
- `exclusive_of_steps`: exclusivity survives any number of such steps.

Windows are half-open: a window that ends when another starts does not overlap it.
-/

namespace Coworking.Foundation

/-! ## Half-open windows -/

section Windows

variable {T : Type*} [LinearOrder T]

/-- Do `[s₁, e₁)` and `[s₂, e₂)` overlap? -/
def Overlaps (s₁ e₁ s₂ e₂ : T) : Prop := s₁ < e₂ ∧ s₂ < e₁

instance (s₁ e₁ s₂ e₂ : T) : Decidable (Overlaps s₁ e₁ s₂ e₂) :=
  inferInstanceAs (Decidable (_ ∧ _))

theorem Overlaps.symm {s₁ e₁ s₂ e₂ : T} (h : Overlaps s₁ e₁ s₂ e₂) : Overlaps s₂ e₂ s₁ e₁ :=
  ⟨h.2, h.1⟩

/-- Overlapping is inherited by a larger window. -/
theorem Overlaps.widen {s e s₁ e₁ s₂ e₂ : T} (h : Overlaps s₁ e₁ s₂ e₂) (hs : s ≤ s₁)
    (he : e₁ ≤ e) : Overlaps s e s₂ e₂ :=
  ⟨hs.trans_lt h.1, h.2.trans_le he⟩

end Windows

/-! ## Calendars -/

/-- A partial assignment of entries to keys. -/
abbrev Calendar (κ α : Type*) := κ → Option α

variable {κ α : Type*} {clash : α → α → Prop} {cal cal' : Calendar κ α}

/-- Every entry of the first calendar is an entry of the second. -/
def Within (cal cal' : Calendar κ α) : Prop := ∀ k a, cal k = some a → cal' k = some a

/-- Entries under different keys do not clash. -/
def Exclusive (clash : α → α → Prop) (cal : Calendar κ α) : Prop :=
  ∀ ⦃k l⦄, k ≠ l → ∀ ⦃a b⦄, cal k = some a → cal l = some b → ¬ clash a b

theorem Exclusive.of_within (h : Exclusive clash cal) (hsub : Within cal' cal) :
    Exclusive clash cal' :=
  fun _ _ hne _ _ ha hb => h hne (hsub _ _ ha) (hsub _ _ hb)

/-- A clash relation that is finer on the entries is violated less often. -/
theorem Exclusive.weaken {clash' : α → α → Prop} (h : Exclusive clash cal)
    (hsub : ∀ k l a b, cal k = some a → cal l = some b → clash' a b → clash a b) :
    Exclusive clash' cal :=
  fun _ _ hne _ _ ha hb hc => h hne ha hb (hsub _ _ _ _ ha hb hc)

section Steps

variable [DecidableEq κ]

/-- Entry `a` can be put under key `k`: nothing under another key clashes with it. -/
def Free (clash : α → α → Prop) (cal : Calendar κ α) (k : κ) (a : α) : Prop :=
  ∀ l b, l ≠ k → cal l = some b → ¬ clash a b

/-- One move of a reservation system. -/
inductive CalendarStep (clash : α → α → Prop) : Calendar κ α → Calendar κ α → Prop
  /-- Entries are given up. -/
  | release {cal cal' : Calendar κ α} : Within cal' cal → CalendarStep clash cal cal'
  /-- A free entry is put under a key, in place of what the key held. -/
  | reserve {cal : Calendar κ α} {k : κ} {a : α} :
      Free clash cal k a → CalendarStep clash cal (Function.update cal k (some a))

/-- Any number of moves. -/
abbrev CalendarSteps (clash : α → α → Prop) : Calendar κ α → Calendar κ α → Prop :=
  Relation.ReflTransGen (CalendarStep clash)

theorem CalendarSteps.release (h : Within cal' cal) : CalendarSteps clash cal cal' :=
  .single (.release h)

/-- At most one entry is new, and everything else was there before and does not clash with it:
give up what is gone, reserve the new entry, and give it up again if it did not last. -/
theorem CalendarSteps.place {k : κ} {a : α} (hnew : ∀ b, cal' k = some b → b = a)
    (hother : ∀ l b, l ≠ k → cal' l = some b → cal l = some b ∧ ¬ clash a b) :
    CalendarSteps clash cal cal' := by
  -- The calendar in between: what stays, without the key that is written.
  let mid : Calendar κ α := Function.update cal' k none
  have hrel : Within mid cal := by
    intro l b hl
    by_cases hlk : l = k
    · subst hlk
      simp [mid] at hl
    · exact (hother l b hlk (by simpa [mid, hlk] using hl)).1
  have hfree : Free clash mid k a := by
    intro l b hlk hl
    exact (hother l b hlk (by simpa [mid, hlk] using hl)).2
  have hend : Within cal' (Function.update mid k (some a)) := by
    intro l b hl
    by_cases hlk : l = k
    · subst hlk
      rw [hnew b hl, Function.update_self]
    · simpa [mid, hlk] using hl
  exact ((CalendarSteps.release hrel).tail (.reserve hfree)).tail (.release hend)

/-- One move keeps a calendar exclusive. -/
theorem exclusive_of_step (hsymm : ∀ a b, clash a b → clash b a)
    (hstep : CalendarStep clash cal cal') (h : Exclusive clash cal) : Exclusive clash cal' := by
  cases hstep with
  | release hsub => exact h.of_within hsub
  | @reserve k a hfree =>
    intro i j hij x y hx hy
    -- At most one of the two keys is the one written; the relation is symmetric.
    by_cases hi : i = k
    · subst hi
      rw [Function.update_self, Option.some.injEq] at hx
      rw [Function.update_of_ne hij.symm] at hy
      exact hx ▸ hfree j y hij.symm hy
    · rw [Function.update_of_ne hi] at hx
      by_cases hj : j = k
      · subst hj
        rw [Function.update_self, Option.some.injEq] at hy
        exact fun hc => hfree i x hi hx (hsymm _ _ (hy ▸ hc))
      · rw [Function.update_of_ne hj] at hy
        exact h hij hx hy

/-- **Safety of the abstract machine**: any number of moves keeps a calendar exclusive. -/
theorem exclusive_of_steps (hsymm : ∀ a b, clash a b → clash b a)
    (hsteps : CalendarSteps clash cal cal') (h : Exclusive clash cal) : Exclusive clash cal' := by
  induction hsteps with
  | refl => exact h
  | tail _ hstep ih => exact exclusive_of_step hsymm hstep ih

end Steps

end Coworking.Foundation
