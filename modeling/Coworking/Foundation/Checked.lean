import Coworking.Foundation.Outcome

/-!
# Computations in a Limited Range

A computation whose arithmetic has a limited range does what the same computation over unlimited
numbers does, until one of its results is out of range.

- `Checked`: computations that raise their own exceptions or overflow;
- `OverflowsUnless`: the condition under which a checked computation does what the unlimited one
  does, with a rule for each way to build one;
- `OverflowsUnless.raisesOnly_iff`: for what only raises expected exceptions when unlimited, the
  condition decides whether the checked computation does so too.
-/

namespace Coworking.Foundation

variable {ε α β : Type}

/-! ## §1 Checked computations -/

/-- An exception of the computation itself, or of its arithmetic. -/
inductive Raised (ε : Type)
  | overflow
  | error (e : ε)
  deriving DecidableEq

abbrev Checked (ε α : Type) := Except (Raised ε) α

/-- A computation without arithmetic that could overflow. -/
def lift (x : Except ε α) : Checked ε α := x.mapError .error

/-- An arithmetic operation whose result is as given: it overflows unless that is in range. -/
def checked (range : α → Prop) [DecidablePred range] (result : α) : Checked ε α :=
  if range result then .ok result else .error .overflow

/-- The exceptions of the computation itself that are to be expected; overflow never is. -/
def Raised.Within (P : ε → Prop) : Raised ε → Prop
  | .overflow => False
  | .error e => P e

theorem raisesOnly_lift {P : ε → Prop} {x : Except ε α} (h : RaisesOnly P x) :
    RaisesOnly (Raised.Within P) (lift x) := by
  intro e he
  cases x with
  | ok a => cases he
  | error e' =>
    obtain rfl := Except.error.inj he
    exact h e' rfl

/-! ## §2 When they overflow -/

/-- Under the condition `C` the checked computation `x` does what `y` does; else it overflows. -/
structure OverflowsUnless (C : Prop) (x : Checked ε α) (y : Except ε α) : Prop where
  agrees : C → x = lift y
  overflows : ¬ C → x = .error .overflow

namespace OverflowsUnless

variable {C C' D : Prop} {x : Checked ε α} {y : Except ε α}

theorem congr (h : OverflowsUnless C x y) (hiff : C' ↔ C) : OverflowsUnless C' x y where
  agrees := fun hc => h.agrees (hiff.mp hc)
  overflows := fun hc => h.overflows fun hc' => hc (hiff.mpr hc')

theorem of_lift (y : Except ε α) : OverflowsUnless True (lift y) y where
  agrees := fun _ => rfl
  overflows := fun h => absurd trivial h

theorem pure (a : α) : OverflowsUnless True (pure a : Checked ε α) (pure a) :=
  of_lift (.ok a)

theorem checked (range : α → Prop) [DecidablePred range] (result : α) :
    OverflowsUnless (range result) (checked range result : Checked ε α) (Pure.pure result) where
  agrees := fun h => if_pos h
  overflows := fun h => if_neg h

/-- One computation after the other: the second matters where the first returns. -/
theorem bind {D : α → Prop} {f : α → Checked ε β} {g : α → Except ε β}
    (h : OverflowsUnless C x y) (hf : ∀ a, y = .ok a → OverflowsUnless (D a) (f a) (g a)) :
    OverflowsUnless (C ∧ ∀ a, y = .ok a → D a) (x >>= f) (y >>= g) where
  agrees := by
    rintro ⟨hc, hd⟩
    rw [h.agrees hc]
    cases hy : y with
    | error e => rfl
    | ok a => exact (hf a hy).agrees (hd a hy)
  overflows := by
    intro hnot
    by_cases hc : C
    · rw [not_and] at hnot
      have hstop := hnot hc
      simp only [not_forall] at hstop
      obtain ⟨a, hy, hd⟩ := hstop
      rw [h.agrees hc, hy]
      exact (hf a hy).overflows hd
    · rw [h.overflows hc]
      rfl

/-- What is made of the result without arithmetic. -/
theorem bind_pure (h : OverflowsUnless C x y) (f : α → β) :
    OverflowsUnless C (x >>= fun a => (Pure.pure (f a) : Checked ε β))
      (y >>= fun a => Pure.pure (f a)) where
  agrees := fun hc => by
    rw [h.agrees hc]
    cases y <;> rfl
  overflows := fun hc => by
    rw [h.overflows hc]
    rfl

/-- A step without arithmetic in front. -/
theorem lift_bind {D : α → Prop} {f : α → Checked ε β} {g : α → Except ε β}
    (hf : ∀ a, y = .ok a → OverflowsUnless (D a) (f a) (g a)) :
    OverflowsUnless (∀ a, y = .ok a → D a) (lift y >>= f) (y >>= g) :=
  ((of_lift y).bind hf).congr (by rw [true_and])

/-- A guard in front. -/
theorem guard_bind {p : Prop} [Decidable p] {e : ε} {f : Unit → Checked ε β}
    {g : Unit → Except ε β} (hf : ¬ p → OverflowsUnless D (f ()) (g ())) :
    OverflowsUnless (¬ p → D) (lift (raiseIf p e) >>= f) (raiseIf p e >>= g) := by
  have hbind : OverflowsUnless (∀ u, raiseIf p e = .ok u → D) (lift (raiseIf p e) >>= f)
      (raiseIf p e >>= g) := lift_bind fun u hu => hf ((raiseIf_eq_ok p e u).mp hu)
  exact hbind.congr (by simp only [raiseIf_eq_ok, forall_const])

/-- A guard in front of what cannot overflow. -/
theorem guard_pass {p : Prop} [Decidable p] {e : ε} {f : Unit → Checked ε β}
    {g : Unit → Except ε β} (hf : OverflowsUnless True (f ()) (g ())) :
    OverflowsUnless True (lift (raiseIf p e) >>= f) (raiseIf p e >>= g) :=
  (guard_bind fun _ => hf).congr (by simp)

/-- A value that has to be there in front. -/
theorem found_bind {D : α → Prop} {o : Option α} {e : ε} {f : α → Checked ε β}
    {g : α → Except ε β} (hf : ∀ a, o = some a → OverflowsUnless (D a) (f a) (g a)) :
    OverflowsUnless (∀ a, o = some a → D a) (lift (found o e) >>= f) (found o e >>= g) := by
  refine congr (lift_bind fun a ha => hf a ((found_eq_ok o e a).mp ha)) ?_
  simp only [found_eq_ok]

/-- An arithmetic operation in front. -/
theorem checked_bind {range : α → Prop} [DecidablePred range] {result : α}
    {f : α → Checked ε β} {z : Except ε β} (hf : OverflowsUnless D (f result) z) :
    OverflowsUnless (range result ∧ D) (Foundation.checked range result >>= f) z where
  agrees := by
    rintro ⟨hrange, hd⟩
    rw [Foundation.checked, if_pos hrange]
    exact hf.agrees hd
  overflows := by
    intro hnot
    by_cases hrange : range result
    · rw [Foundation.checked, if_pos hrange]
      exact hf.overflows fun hd => hnot ⟨hrange, hd⟩
    · rw [Foundation.checked, if_neg hrange]
      rfl

/-- An arithmetic operation, and what is made of its result. -/
theorem checked_pure {range : α → Prop} [DecidablePred range] {result : α} {f : α → β} {b : β}
    (h : f result = b) :
    OverflowsUnless (range result)
      (Foundation.checked range result >>= fun a => (Pure.pure (f a) : Checked ε β))
      (Pure.pure b) where
  agrees := fun hrange => by
    rw [Foundation.checked, if_pos hrange, ← h]
    rfl
  overflows := fun hrange => by
    rw [Foundation.checked, if_neg hrange]
    rfl

/-- **What is decided by the condition.** -/
theorem raisesOnly_iff {P : ε → Prop} (h : OverflowsUnless C x y) (hy : RaisesOnly P y) :
    RaisesOnly (Raised.Within P) x ↔ C := by
  constructor
  · intro hx
    exact Classical.byContradiction fun hc => hx .overflow (h.overflows hc)
  · intro hc
    rw [h.agrees hc]
    exact raisesOnly_lift hy

end OverflowsUnless

end Coworking.Foundation
