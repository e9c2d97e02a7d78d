import Mathlib.Order.Defs.Unbundled

/-!
# Labelled Runs

Finite runs of a labelled transition system, with the induction rules that turn
what one step preserves into what a whole run preserves.

- `Run step s es t`: some sequence of steps leads from `s` to `t` under the labels `es`.
- `Guarded C step`: the steps of `step` that satisfy the condition `C` on the state
  they leave and on their label.
- `Run.invariant`, `Run.relates`, `Run.history`: the three induction rules (a state
  predicate, a preorder between the ends, a predicate that also sees the labels so far).
- `Run.keeping_iff_guarded`, `Run.related_iff_guarded`: when a condition on each step is exactly
  what keeps a property of the states, or relates their ends;
- `Run.agenda`: steps that each do their part of what is pending, among the steps of others;
- `Since`, `Run.since`: what holds now has held since some step of the run.
-/

namespace Coworking.Foundation

variable {σ ι : Type*} {step step' : σ → ι → σ → Prop} {s t u : σ} {es fs : List ι}

/-- A finite run; the last step is the outermost constructor. -/
inductive Run (step : σ → ι → σ → Prop) : σ → List ι → σ → Prop
  | nil (s : σ) : Run step s [] s
  | snoc {s t u : σ} {es : List ι} {e : ι} :
      Run step s es t → step t e u → Run step s (es ++ [e]) u

/-- The steps that satisfy a condition on the state before and on the label. -/
def Guarded (C : σ → ι → Prop) (step : σ → ι → σ → Prop) : σ → ι → σ → Prop :=
  fun s e t => C s e ∧ step s e t

/-- The steps that end in states of `I`. -/
def Keeping (I : σ → Prop) (step : σ → ι → σ → Prop) : σ → ι → σ → Prop :=
  fun s e t => step s e t ∧ I t

/-- A single step is a run. -/
theorem Run.single {e : ι} (h : step s e t) : Run step s [e] t :=
  .snoc (.nil s) h

theorem Run.append (h₁ : Run step s es t) (h₂ : Run step t fs u) : Run step s (es ++ fs) u := by
  induction h₂ with
  | nil => simpa using h₁
  | snoc _ hstep ih =>
    rw [← List.append_assoc]
    exact .snoc ih hstep

/-- The last step of a run. -/
theorem Run.last {e : ι} (h : Run step s (es ++ [e]) u) : ∃ t, Run step s es t ∧ step t e u := by
  generalize hfs : es ++ [e] = fs at h
  cases h with
  | nil => simp at hfs
  | snoc hrun hlast =>
    obtain ⟨rfl, hlabel⟩ := List.append_inj' hfs rfl
    obtain rfl := List.singleton_inj.mp hlabel
    exact ⟨_, hrun, hlast⟩

/-- A run of one label is one step. -/
theorem Run.of_single {e : ι} (h : Run step s [e] u) : step s e u := by
  have hsnoc : Run step s ([] ++ [e]) u := h
  obtain ⟨t, hrun, hlast⟩ := hsnoc.last
  generalize hfs : [] = fs at hrun
  cases hrun with
  | nil => exact hlast
  | snoc => simp at hfs

theorem Run.mono (hsub : ∀ s e t, step s e t → step' s e t) (h : Run step s es t) :
    Run step' s es t := by
  induction h with
  | nil => exact .nil _
  | snoc _ hstep ih => exact .snoc ih (hsub _ _ _ hstep)

/-- Dropping the condition of a guarded run. -/
theorem Run.unguard {C : σ → ι → Prop} (h : Run (Guarded C step) s es t) : Run step s es t :=
  h.mono fun _ _ _ hstep => hstep.2

/-- **Invariant rule.** What every step preserves, every run preserves. -/
theorem Run.invariant {I : σ → Prop} (hstep : ∀ s e t, I s → step s e t → I t)
    (h : Run step s es t) (hs : I s) : I t := by
  induction h with
  | nil => exact hs
  | snoc _ hlast ih => exact hstep _ _ _ ih hlast

/-- **Exact condition rule.**  If, from the states of `I` and `J`, a step ends in `I` exactly when
it meets the condition `C`, and every step keeps `J`, then the runs that stay in `I` are those
whose steps all meet `C`. -/
theorem Run.keeping_iff_guarded_of {I J : σ → Prop} {C : σ → ι → Prop}
    (hstep : ∀ s e t, J s → I s → step s e t → (I t ↔ C s e))
    (hinv : ∀ s e t, J s → step s e t → J t) (hJ : J s) (hs : I s) :
    Run (Keeping I step) s es t ↔ Run (Guarded C step) s es t := by
  constructor
  · intro h
    suffices Run (Guarded C step) s es t ∧ I t ∧ J t from this.1
    induction h with
    | nil => exact ⟨.nil _, hs, hJ⟩
    | snoc _ hlast ih =>
      rcases ih with ⟨hrun, hI, hJ⟩
      exact ⟨.snoc hrun ⟨(hstep _ _ _ hJ hI hlast.1).mp hlast.2, hlast.1⟩, hlast.2,
        hinv _ _ _ hJ hlast.1⟩
  · intro h
    suffices Run (Keeping I step) s es t ∧ I t ∧ J t from this.1
    induction h with
    | nil => exact ⟨.nil _, hs, hJ⟩
    | snoc _ hlast ih =>
      rcases ih with ⟨hrun, hI, hJ⟩
      have ht := (hstep _ _ _ hJ hI hlast.2).mpr hlast.1
      exact ⟨.snoc hrun ⟨hlast.2, ht⟩, ht, hinv _ _ _ hJ hlast.2⟩

/-- The exact condition rule without a further invariant. -/
theorem Run.keeping_iff_guarded {I : σ → Prop} {C : σ → ι → Prop}
    (hstep : ∀ s e t, I s → step s e t → (I t ↔ C s e)) (hs : I s) :
    Run (Keeping I step) s es t ↔ Run (Guarded C step) s es t :=
  Run.keeping_iff_guarded_of (J := fun _ => True) (fun _ _ _ _ => hstep _ _ _)
    (fun _ _ _ _ _ => trivial) trivial hs

/-- **Exact condition rule for steps.**  If, along the invariant `J`, a step relates its ends exactly
when it meets the condition `C`, then the runs of such steps are those whose steps all meet it. -/
theorem Run.related_iff_guarded {J : σ → Prop} {R : σ → ι → σ → Prop} {C : σ → ι → Prop}
    (hstep : ∀ s e t, J s → step s e t → (R s e t ↔ C s e))
    (hinv : ∀ s e t, J s → step s e t → J t) (hJ : J s) :
    Run (fun s e t => step s e t ∧ R s e t) s es t ↔ Run (Guarded C step) s es t := by
  constructor
  · intro h
    suffices Run (Guarded C step) s es t ∧ J t from this.1
    induction h with
    | nil => exact ⟨.nil _, hJ⟩
    | snoc _ hlast ih =>
      rcases ih with ⟨hrun, hmid⟩
      exact ⟨.snoc hrun ⟨(hstep _ _ _ hmid hlast.1).mp hlast.2, hlast.1⟩, hinv _ _ _ hmid hlast.1⟩
  · intro h
    suffices Run (fun s e t => step s e t ∧ R s e t) s es t ∧ J t from this.1
    induction h with
    | nil => exact ⟨.nil _, hJ⟩
    | snoc _ hlast ih =>
      rcases ih with ⟨hrun, hmid⟩
      exact ⟨.snoc hrun ⟨hlast.2, (hstep _ _ _ hmid hlast.2).mpr hlast.1⟩,
        hinv _ _ _ hmid hlast.2⟩

/-- **Two-ended rule.** A preorder that contains every step relates the ends of every run. -/
theorem Run.relates {R : σ → σ → Prop} (hrefl : ∀ s, R s s)
    (htrans : ∀ s t u, R s t → R t u → R s u) (hstep : ∀ s e t, step s e t → R s t)
    (h : Run step s es t) : R s t := by
  induction h with
  | nil => exact hrefl _
  | snoc _ hlast ih => exact htrans _ _ _ ih (hstep _ _ _ hlast)

/-- **History rule.** An invariant that may also speak about the labels so far. -/
theorem Run.history {I : List ι → σ → Prop}
    (hstep : ∀ es s e t, Run step u es s → I es s → step s e t → I (es ++ [e]) t)
    (h : Run step u es t) (hu : I [] u) : I es t := by
  induction h with
  | nil => exact hu
  | snoc hrun hlast ih => exact hstep _ _ _ _ hrun ih hlast

/-- **Agenda rule.**  Let a step that is `mine` and has a pending task do what is `asked` of it and
take this task, and no other, off the agenda, and let the steps that are not mine leave the agenda
alone.  Then a run whose own steps have different tasks, all pending at the start, does what is asked
of each of them, in whatever order they come, and leaves pending what was pending and is no task
of theirs. -/
theorem Run.agenda {κ : Type*} (I : σ → Prop) (mine : ι → Bool) (task : ι → κ)
    (pending : σ → κ → Prop) (asked : σ → ι → σ → Prop)
    (hmine : ∀ s e t, I s → step s e t → mine e → pending s (task e) →
      asked s e t ∧ ∀ k, pending t k ↔ pending s k ∧ k ≠ task e)
    (hother : ∀ s e t, I s → step s e t → mine e = false → ∀ k, pending t k ↔ pending s k)
    (hinv : ∀ s e t, I s → step s e t → I t) (h : Run step s es t) (hs : I s)
    (hnodup : ((es.filter mine).map task).Nodup)
    (hpending : ∀ k ∈ (es.filter mine).map task, pending s k) :
    Run (fun s e t => step s e t ∧ (mine e → asked s e t)) s es t ∧ I t ∧
      ∀ k, pending t k ↔ pending s k ∧ k ∉ (es.filter mine).map task := by
  induction h with
  | nil => simp [hs, Run.nil]
  | @snoc v _ es e hrun hlast ih =>
    rw [List.filter_append, List.map_append] at hnodup hpending ⊢
    obtain ⟨hasked, hv, hleft⟩ := ih (List.nodup_append.mp hnodup).1 fun k hk =>
      hpending k (List.mem_append_left _ hk)
    cases hown : mine e with
    | false =>
      refine ⟨.snoc hasked ⟨hlast, fun h => absurd (hown.symm.trans h) (by decide)⟩,
        hinv _ _ _ hv hlast, fun k => ?_⟩
      rw [hother _ _ _ hv hlast hown, hleft]
      simp [hown]
    | true =>
      have htask : (([e].filter mine).map task) = [task e] := by simp [hown]
      rw [htask] at hnodup hpending ⊢
      -- The task is pending still: no step so far had it.
      have hnew : task e ∉ (es.filter mine).map task := by
        intro hmem
        exact (List.nodup_append.mp hnodup).2.2 _ hmem _ (List.mem_singleton_self _) rfl
      have hpend : pending v (task e) :=
        (hleft _).mpr ⟨hpending _ (List.mem_append_right _ (List.mem_singleton_self _)), hnew⟩
      obtain ⟨hdone, hrest⟩ := hmine _ _ _ hv hlast hown hpend
      refine ⟨.snoc hasked ⟨hlast, fun _ => hdone⟩, hinv _ _ _ hv hlast, fun k => ?_⟩
      rw [hrest, hleft, List.mem_append, List.mem_singleton, not_or, and_assoc]

/-! ## Since -/

/-- Some step of the run was an `event`, and no step after it was `bad`. -/
def Since (step event bad : σ → ι → σ → Prop) (s : σ) (es : List ι) (t : σ) : Prop :=
  ∃ es₁ e es₂ u v, es = es₁ ++ e :: es₂ ∧ Run step s es₁ u ∧ step u e v ∧ event u e v ∧
    Run (fun x e y => step x e y ∧ ¬ bad x e y) v es₂ t

theorem Since.snoc {event bad : σ → ι → σ → Prop} {e : ι} (h : Since step event bad s es t)
    (hlast : step t e u) (hbad : ¬ bad t e u) : Since step event bad s (es ++ [e]) u := by
  rcases h with ⟨es₁, f, es₂, v, w, rfl, hrun, hstep, hevent, hrest⟩
  exact ⟨es₁, f, es₂ ++ [e], v, w, by simp, hrun, hstep, hevent, .snoc hrest ⟨hlast, hbad⟩⟩

/-- An event that has just happened. -/
theorem Since.last {event bad : σ → ι → σ → Prop} {e : ι} (hrun : Run step s es t)
    (hlast : step t e u) (hevent : event t e u) : Since step event bad s (es ++ [e]) u :=
  ⟨es, e, [], t, u, rfl, hrun, hlast, hevent, .nil u⟩

/-- An event may be read in the light of what follows it. -/
theorem Since.imp {event event' bad : σ → ι → σ → Prop} (h : Since step event bad s es t)
    (himp : ∀ u e v es₂, event u e v → Run step v es₂ t → event' u e v) :
    Since step event' bad s es t := by
  rcases h with ⟨es₁, e, es₂, u, v, hes, hrun, hstep, hevent, hrest⟩
  exact ⟨es₁, e, es₂, u, v, hes, hrun, hstep,
    himp u e v es₂ hevent (hrest.mono fun _ _ _ h => h.1), hrest⟩

/-- **Since rule.**  If a step makes something hold only when it is an `event`, and lets it hold
on only when it is not `bad`, then what does not hold at the start of a run and holds at its end
has held since an event. -/
theorem Run.since {P : σ → Prop} {event bad : σ → ι → σ → Prop}
    (hstep : ∀ s e t, e ∈ es → step s e t → P t → event s e t ∨ P s ∧ ¬ bad s e t)
    (h : Run step s es t) (hs : ¬ P s) (ht : P t) : Since step event bad s es t := by
  induction h with
  | nil => exact (hs ht).elim
  | @snoc _ u es e hrun hlast ih =>
    have hmem : e ∈ es ++ [e] := List.mem_append_right es (List.mem_singleton_self e)
    rcases hstep _ _ _ hmem hlast ht with hevent | ⟨hu, hbad⟩
    · exact .last hrun hlast hevent
    · exact (ih (fun _ _ _ hm => hstep _ _ _ (List.mem_append_left _ hm)) hu).snoc hlast hbad

/-- The since rule along an invariant: what the steps do need only be known where it holds. -/
theorem Run.since_of {J P : σ → Prop} {event bad : σ → ι → σ → Prop}
    (hstep : ∀ s e t, J s → step s e t → P t → event s e t ∨ P s ∧ ¬ bad s e t)
    (hinv : ∀ s e t, J s → step s e t → J t) (h : Run step s es t) (hJ : J s) (hs : ¬ P s)
    (ht : P t) : Since step event bad s es t := by
  suffices J t ∧ (P t → Since step event bad s es t) from this.2 ht
  refine h.history (I := fun es t => J t ∧ (P t → Since step event bad s es t)) ?_
    ⟨hJ, fun hP => (hs hP).elim⟩
  intro es u e v hrun hu hlast
  refine ⟨hinv _ _ _ hu.1 hlast, fun hv => ?_⟩
  rcases hstep _ _ _ hu.1 hlast hv with hevent | ⟨hP, hbad⟩
  · exact .last hrun hlast hevent
  · exact (hu.2 hP).snoc hlast hbad

end Coworking.Foundation
