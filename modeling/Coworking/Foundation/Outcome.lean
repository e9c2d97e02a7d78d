import Mathlib.Logic.Basic

/-!
# Raising Computations

A service function either returns or raises.  `Except ε` models it, and the two
combinators below are the two ways the services raise:

- `raiseIf c e` is `if c: raise e`;
- `found o e` is `if o is None: raise e`, handing on the value otherwise.

The `_eq_ok` lemmas turn "the call returned" into the conjunction of what each
statement before the `return` let through, so a specification of a function is
one `simp only` away from its body.
-/

namespace Coworking.Foundation

variable {ε α β : Type}

/-- `if condition: raise error`. -/
def raiseIf (condition : Prop) [Decidable condition] (error : ε) : Except ε Unit :=
  if condition then .error error else .ok ()

/-- `if value is None: raise error`, and the value itself otherwise. -/
def found (value : Option α) (error : ε) : Except ε α :=
  match value with
  | some a => .ok a
  | none => .error error

/-- Did the computation return? -/
def Returns (x : Except ε α) : Prop := ∃ a, x = .ok a

instance (x : Except ε α) : Decidable (Returns x) :=
  match x with
  | .ok a => isTrue ⟨a, rfl⟩
  | .error _ => isFalse fun ⟨_, h⟩ => nomatch h

/-! ## Equal computations -/

/-- What comes next matters only where the first part returns. -/
theorem bind_congr_ok {x : Except ε α} {f g : α → Except ε β} (h : ∀ a, x = .ok a → f a = g a) :
    (x >>= f) = (x >>= g) := by
  cases x with
  | error e => rfl
  | ok a => exact h a rfl

theorem raiseIf_congr {c c' : Prop} [Decidable c] [Decidable c'] (h : c ↔ c') (error : ε) :
    raiseIf c error = raiseIf c' error := by
  unfold raiseIf
  exact if_congr h rfl rfl

/-- A guard that looks for a member does not depend on the order of the list. -/
theorem raiseIf_mem_congr {xs ys : List α} {p : α → Prop} [DecidablePred p]
    (h : ∀ x, x ∈ xs ↔ x ∈ ys) (error : ε) :
    raiseIf (∃ x ∈ xs, p x) error = raiseIf (∃ x ∈ ys, p x) error :=
  raiseIf_congr (exists_congr fun x => and_congr_left fun _ => h x) error

/-! ## Running forwards -/

theorem ok_bind (a : α) (f : α → Except ε β) : (Except.ok a >>= f) = f a := rfl

theorem raiseIf_of_not {c : Prop} [Decidable c] (h : ¬ c) (error : ε) : raiseIf c error = .ok () :=
  if_neg h

/-- Of two guards, one of which does not let through, one raises. -/
theorem raiseIf_raiseIf {c d : Prop} [Decidable c] [Decidable d] (h : ¬ (¬ c ∧ ¬ d)) (e₁ e₂ : ε)
    (x : Except ε α) :
    (raiseIf c e₁ >>= fun _ => raiseIf d e₂ >>= fun _ => x) = .error e₁ ∨
      (raiseIf c e₁ >>= fun _ => raiseIf d e₂ >>= fun _ => x) = .error e₂ := by
  by_cases hc : c
  · left
    rw [raiseIf, if_pos hc]
    rfl
  · right
    have hd : d := Decidable.not_not.mp fun hd => h ⟨hc, hd⟩
    rw [raiseIf_of_not hc, ok_bind, raiseIf, if_pos hd]
    rfl

/-! ## What a returning computation went through -/

theorem bind_eq_ok (x : Except ε α) (f : α → Except ε β) (b : β) :
    (x >>= f) = .ok b ↔ ∃ a, x = .ok a ∧ f a = .ok b := by
  cases x with
  | error e =>
    show Except.error e = .ok b ↔ _
    simp
  | ok a =>
    show f a = .ok b ↔ _
    simp

theorem raiseIf_eq_ok (c : Prop) [Decidable c] (e : ε) (u : Unit) :
    raiseIf c e = .ok u ↔ ¬ c := by
  by_cases hc : c <;> simp [raiseIf, hc]

theorem found_eq_ok (o : Option α) (e : ε) (a : α) : found o e = .ok a ↔ o = some a := by
  cases o <;> simp [found]

theorem pure_eq_ok (a b : α) : (pure a : Except ε α) = .ok b ↔ a = b := by
  simp [pure, Except.pure]

theorem map_eq_ok (f : α → β) (x : Except ε α) (b : β) :
    f <$> x = .ok b ↔ ∃ a, x = .ok a ∧ f a = b := by
  cases x <;> simp [Functor.map, Except.map]

/-! ## What a raising computation stopped at -/

theorem bind_eq_error (x : Except ε α) (f : α → Except ε β) (e : ε) :
    (x >>= f) = .error e ↔ x = .error e ∨ ∃ a, x = .ok a ∧ f a = .error e := by
  cases x with
  | error e' =>
    show Except.error e' = .error e ↔ _
    simp
  | ok a =>
    show f a = .error e ↔ _
    simp

theorem raiseIf_eq_error (c : Prop) [Decidable c] (e e' : ε) :
    raiseIf c e = .error e' ↔ c ∧ e = e' := by
  by_cases hc : c <;> simp [raiseIf, hc]

theorem found_eq_error (o : Option α) (e e' : ε) : found o e = .error e' ↔ o = none ∧ e = e' := by
  cases o <;> simp [found]

theorem pure_ne_error (a : α) (e : ε) : (pure a : Except ε α) ≠ .error e := nofun

/-! ## Which exceptions to expect -/

/-- Every exception the computation can end in is one of `P`. -/
def RaisesOnly (P : ε → Prop) (x : Except ε α) : Prop := ∀ e, x = .error e → P e

section

variable {P Q : ε → Prop} {x : Except ε α} {f : α → Except ε β}

theorem RaisesOnly.mono (h : RaisesOnly P x) (hsub : ∀ e, P e → Q e) : RaisesOnly Q x :=
  fun e he => hsub e (h e he)

theorem RaisesOnly.bind (hx : RaisesOnly P x) (hf : ∀ a, x = .ok a → RaisesOnly P (f a)) :
    RaisesOnly P (x >>= f) := by
  intro e he
  rcases (bind_eq_error _ _ _).mp he with hfirst | ⟨a, ha, hrest⟩
  · exact hx e hfirst
  · exact hf a ha e hrest

theorem raisesOnly_pure (a : α) : RaisesOnly P (pure a : Except ε α) :=
  fun e he => (pure_ne_error a e he).elim

theorem raisesOnly_raiseIf {c : Prop} [Decidable c] {error : ε} (h : P error) :
    RaisesOnly P (raiseIf c error) :=
  fun e he => ((raiseIf_eq_error c error e).mp he).2 ▸ h

theorem raisesOnly_found {o : Option α} {error : ε} (h : o = none → P error) :
    RaisesOnly P (found o error) := by
  intro e he
  obtain ⟨hnone, rfl⟩ := (found_eq_error o error e).mp he
  exact h hnone

end

end Coworking.Foundation
