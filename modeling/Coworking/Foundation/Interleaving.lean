import Coworking.Foundation.Run

/-!
# Interleaved Requests

Requests that first read a shared state and write to it later, with other requests in
between.  Nothing is locked: what a request writes was computed from the state it read.

- `Protocol`: what a request can read off a state, and what writing that does to one;
- `Ticket`: a request between its read and its write, with the state it saw;
- `Protocol.Step`: read, commit and abort moves, in any order;
- `Protocol.Standing`, `Protocol.allStanding_step`: what is known of a ticket long after its
  read is what a frame relation carries from that read to the present;
- `Protocol.Throughout`, `Protocol.throughout_step`: an invariant of the shared state, which also
  held of every state that a ticket has read;
- `Protocol.run_atomic`: a request nobody interrupts is a run of two moves;
- `Protocol.or`: two kinds of requests on one state.
-/

namespace Coworking.Foundation

/-- Requests `ρ` on states `σ`: reading yields a plan `π`, committing carries it out. -/
structure Protocol (σ ρ π : Type*) where
  /-- In the first state the request reads the plan; the second is the state afterwards. -/
  reads : σ → ρ → π → σ → Prop
  /-- The plan of the request, written to the first state, leaves the second. -/
  commits : σ → ρ → π → σ → Prop

/-- A request that has read: what it saw and what it is going to write. -/
structure Ticket (σ ρ π : Type*) where
  request : ρ
  seen : σ
  plan : π

/-- The shared state, the requests between their read and their write, and those that have
written, latest first. -/
structure Config (σ ρ π : Type*) where
  shared : σ
  inFlight : List (Ticket σ ρ π)
  committed : List (Ticket σ ρ π)

inductive Move (σ ρ π : Type*)
  | read (t : Ticket σ ρ π)
  | commit (t : Ticket σ ρ π)
  | abort (t : Ticket σ ρ π)

variable {σ ρ π : Type*} {P : Protocol σ ρ π} {R : σ → σ → Prop}

/-- Nobody has read or written yet. -/
def Config.start (s : σ) : Config σ ρ π := ⟨s, [], []⟩

/-- One move; which requests move when is open. -/
inductive Protocol.Step (P : Protocol σ ρ π) :
    Config σ ρ π → Move σ ρ π → Config σ ρ π → Prop
  | read {s s' : σ} {q l : List (Ticket σ ρ π)} {r : ρ} {p : π} :
      P.reads s r p s' → P.Step ⟨s, q, l⟩ (.read ⟨r, s, p⟩) ⟨s', ⟨r, s, p⟩ :: q, l⟩
  | commit {s s' : σ} {q₁ q₂ l : List (Ticket σ ρ π)} {t : Ticket σ ρ π} :
      P.commits s t.request t.plan s' →
      P.Step ⟨s, q₁ ++ t :: q₂, l⟩ (.commit t) ⟨s', q₁ ++ q₂, t :: l⟩
  | abort {s : σ} {q₁ q₂ l : List (Ticket σ ρ π)} {t : Ticket σ ρ π} :
      P.Step ⟨s, q₁ ++ t :: q₂, l⟩ (.abort t) ⟨s, q₁ ++ q₂, l⟩

/-! ## What is known of a ticket -/

/-- The ticket was read before the state `s`, and only `R` has happened since. -/
def Protocol.Standing (P : Protocol σ ρ π) (R : σ → σ → Prop) (t : Ticket σ ρ π) (s : σ) : Prop :=
  ∃ s₀, P.reads t.seen t.request t.plan s₀ ∧ R s₀ s

/-- Every ticket of a configuration is standing. -/
def Protocol.AllStanding (P : Protocol σ ρ π) (R : σ → σ → Prop) (c : Config σ ρ π) : Prop :=
  (∀ t ∈ c.inFlight, P.Standing R t c.shared) ∧ ∀ t ∈ c.committed, P.Standing R t c.shared

theorem Protocol.Standing.later {t : Ticket σ ρ π} {s s' : σ}
    (htrans : ∀ a b c, R a b → R b c → R a c) (h : P.Standing R t s) (hR : R s s') :
    P.Standing R t s' := by
  rcases h with ⟨s₀, hread, h₀⟩
  exact ⟨s₀, hread, htrans _ _ _ h₀ hR⟩

/-- A ticket that commits or aborts is in flight. -/
theorem Protocol.AllStanding.inFlight {s : σ} {q₁ q₂ l : List (Ticket σ ρ π)} {t : Ticket σ ρ π}
    (h : P.AllStanding R ⟨s, q₁ ++ t :: q₂, l⟩) : P.Standing R t s :=
  h.1 t (List.mem_append_right q₁ List.mem_cons_self)

theorem Protocol.allStanding_start (s : σ) : P.AllStanding R (.start s) :=
  ⟨fun _ => nofun, fun _ => nofun⟩

/-- **Ticket rule, one move.**  If `R` is a preorder that contains every read, and every commit
of a standing ticket, then all tickets stay standing. -/
theorem Protocol.allStanding_step {c c' : Config σ ρ π} {m : Move σ ρ π} (hrefl : ∀ s, R s s)
    (htrans : ∀ a b c, R a b → R b c → R a c)
    (hreads : ∀ s r p s', P.reads s r p s' → R s s')
    (hcommits : ∀ s t s', P.Standing R t s → P.commits s t.request t.plan s' → R s s')
    (h : P.AllStanding R c) (hstep : P.Step c m c') : P.AllStanding R c' := by
  have ⟨hflight, hdone⟩ := h
  cases hstep with
  | read hread =>
    have hR := hreads _ _ _ _ hread
    refine ⟨fun t ht => ?_, fun t ht => (hdone t ht).later htrans hR⟩
    -- The new ticket stands on its own read, the others are carried over it.
    rcases List.mem_cons.mp ht with rfl | ht
    · exact ⟨_, hread, hrefl _⟩
    · exact (hflight t ht).later htrans hR
  | @commit _ _ q₁ q₂ _ t hcommit =>
    have hstanding : P.Standing R t _ := h.inFlight
    have hR := hcommits _ _ _ hstanding hcommit
    -- The commit leaves the flight for the done ones; every ticket is carried over it.
    refine ⟨fun u hu => (hflight u ?_).later htrans hR, fun u hu => ?_⟩
    · rcases List.mem_append.mp hu with hu | hu
      · exact List.mem_append_left _ hu
      · exact List.mem_append_right q₁ (List.mem_cons_of_mem t hu)
    · rcases List.mem_cons.mp hu with rfl | hu
      · exact hstanding.later htrans hR
      · exact (hdone u hu).later htrans hR
  | @abort _ q₁ q₂ _ t =>
    refine ⟨fun u hu => hflight u ?_, hdone⟩
    rcases List.mem_append.mp hu with hu | hu
    · exact List.mem_append_left _ hu
    · exact List.mem_append_right q₁ (List.mem_cons_of_mem t hu)

/-! ## Invariants of the shared state -/

/-- The invariant holds, and held of whatever the open tickets have read. -/
structure Protocol.Throughout (P : Protocol σ ρ π) (R : σ → σ → Prop) (I : σ → Prop)
    (c : Config σ ρ π) : Prop where
  standing : P.AllStanding R c
  shared : I c.shared
  seen : ∀ t ∈ c.inFlight, I t.seen

theorem Protocol.throughout_start {I : σ → Prop} {s : σ} (h : I s) :
    P.Throughout R I (.start s) :=
  ⟨P.allStanding_start s, h, fun _ => nofun⟩

/-- **Invariant rule, one move.**  Under the conditions of the ticket rule, what reads keep, and
commits of tickets that have seen it, holds throughout. -/
theorem Protocol.throughout_step {I : σ → Prop} {c c' : Config σ ρ π} {m : Move σ ρ π}
    (hstanding : P.AllStanding R c → P.AllStanding R c')
    (hreads : ∀ s r p s', I s → P.reads s r p s' → I s')
    (hcommits : ∀ s t s', P.Standing R t s → I t.seen → I s → P.commits s t.request t.plan s' →
      I s')
    (h : P.Throughout R I c) (hstep : P.Step c m c') : P.Throughout R I c' := by
  refine ⟨hstanding h.standing, ?_, ?_⟩
  · cases hstep with
    | read hread => exact hreads _ _ _ _ h.shared hread
    | commit hcommit =>
      exact hcommits _ _ _ h.standing.inFlight
        (h.seen _ (List.mem_append_right _ List.mem_cons_self)) h.shared hcommit
    | abort => exact h.shared
  · intro t ht
    cases hstep with
    | read hread =>
      rcases List.mem_cons.mp ht with rfl | ht
      · exact h.shared
      · exact h.seen t ht
    | commit =>
      rcases List.mem_append.mp ht with ht | ht
      · exact h.seen t (List.mem_append_left _ ht)
      · exact h.seen t (List.mem_append_right _ (List.mem_cons_of_mem _ ht))
    | abort =>
      rcases List.mem_append.mp ht with ht | ht
      · exact h.seen t (List.mem_append_left _ ht)
      · exact h.seen t (List.mem_append_right _ (List.mem_cons_of_mem _ ht))

/-! ## Uninterrupted requests -/

/-- The request that read last can commit first. -/
theorem Protocol.Step.commit_last {s s' : σ} {q l : List (Ticket σ ρ π)} {t : Ticket σ ρ π}
    (h : P.commits s t.request t.plan s') : P.Step ⟨s, t :: q, l⟩ (.commit t) ⟨s', q, t :: l⟩ :=
  @Protocol.Step.commit _ _ _ P s s' [] q l t h

/-- A request that commits right after its read. -/
theorem Protocol.run_atomic {s s₀ s' : σ} {r : ρ} {p : π} (q l : List (Ticket σ ρ π))
    (hread : P.reads s r p s₀) (hcommit : P.commits s₀ r p s') :
    Run P.Step ⟨s, q, l⟩ [.read ⟨r, s, p⟩, .commit ⟨r, s, p⟩] ⟨s', q, ⟨r, s, p⟩ :: l⟩ :=
  .snoc (.single (.read hread)) (Step.commit_last (t := ⟨r, s, p⟩) hcommit)

/-! ## Two kinds of requests -/

variable {ρ' π' : Type*} {Q : Protocol σ ρ' π'}

/-- Requests of two protocols, against each other. -/
def Protocol.or (P : Protocol σ ρ π) (Q : Protocol σ ρ' π') : Protocol σ (ρ ⊕ ρ') (π ⊕ π') where
  reads := fun
    | s, .inl r, .inl p, s' => P.reads s r p s'
    | s, .inr r, .inr p, s' => Q.reads s r p s'
    | _, _, _, _ => False
  commits := fun
    | s, .inl r, .inl p, s' => P.commits s r p s'
    | s, .inr r, .inr p, s' => Q.commits s r p s'
    | _, _, _, _ => False

/-- Every ticket is one of the two kinds. -/
theorem Protocol.Standing.or_cases {t : Ticket σ (ρ ⊕ ρ') (π ⊕ π')} {s : σ}
    (h : (P.or Q).Standing R t s) :
    (∃ r p, t = ⟨.inl r, t.seen, .inl p⟩ ∧ P.Standing R ⟨r, t.seen, p⟩ s) ∨
      ∃ r p, t = ⟨.inr r, t.seen, .inr p⟩ ∧ Q.Standing R ⟨r, t.seen, p⟩ s := by
  obtain ⟨request, seen, plan⟩ := t
  obtain ⟨s₀, hread, hR⟩ := h
  cases request with
  | inl r =>
    cases plan with
    | inl p => exact .inl ⟨r, p, rfl, s₀, hread, hR⟩
    | inr p => exact hread.elim
  | inr r =>
    cases plan with
    | inl p => exact hread.elim
    | inr p => exact .inr ⟨r, p, rfl, s₀, hread, hR⟩

end Coworking.Foundation
