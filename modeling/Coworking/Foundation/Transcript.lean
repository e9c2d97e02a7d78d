import Mathlib.Logic.Basic

/-!
# What a Caller Sees

A machine answers every call.  Whoever makes the calls sees the answers and not the states, so two
states are the same to them if the calls they can make are answered alike.

- `Machine.transcript`: the answers to a list of calls;
- `Machine.Admitted`: a condition on each call in the state that it meets;
- `Machine.transcript_eq_iff`: the unwinding rule, with the exact condition on the calls.
-/

namespace Coworking.Foundation

variable {σ ι ο : Type*}

/-- A machine that answers every call. -/
structure Machine (σ ι ο : Type*) where
  step : σ → ι → σ
  answer : σ → ι → ο

namespace Machine

variable (m : Machine σ ι ο)

/-- The answers to the calls, one after the other. -/
def transcript : σ → List ι → List ο
  | _, [] => []
  | s, e :: es => m.answer s e :: transcript (m.step s e) es

/-- Each call meets the condition in the state it is made in. -/
def Admitted (C : σ → ι → Prop) : σ → List ι → Prop
  | _, [] => True
  | s, e :: es => C s e ∧ Admitted C (m.step s e) es

variable {m}

/-- **Unwinding.**  Let related states stay related under the calls that are admitted in the first,
and be told apart by such a call exactly when it is not `silent`.  Then the answers to a list of
them are the same from both states if and only if every call is silent. -/
theorem transcript_eq_iff {R : σ → σ → Prop} {C : σ → ι → Prop} (silent : ι → Prop)
    (hstep : ∀ s t e, R s t → C s e → R (m.step s e) (m.step t e))
    (hanswer : ∀ s t e, R s t → C s e → (m.answer s e = m.answer t e ↔ silent e))
    {s t : σ} {es : List ι} (h : R s t) (hes : m.Admitted C s es) :
    m.transcript s es = m.transcript t es ↔ ∀ e ∈ es, silent e := by
  induction es generalizing s t with
  | nil => simp [transcript]
  | cons e es ih =>
    obtain ⟨he, hes⟩ := hes
    rw [transcript, transcript, List.cons.injEq, hanswer s t e h he, ih (hstep s t e h he) hes,
      List.forall_mem_cons]

end Machine

end Coworking.Foundation
