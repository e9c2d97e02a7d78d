import Mathlib.Data.List.Nodup
import Mathlib.Logic.Relation

/-!
# Chains of Successors

Keys that are replaced, one by the next: a record lists who succeeded whom, and the chain of
a key is everything that came out of it.

- `Descends l a b`: `b` came out of `a` by any number of the successions in `l`;
- `Descends.live_unique`: if a key is given up before it is replaced, and replaced once, then a
  chain has at most one live key;
- `descends_cons`: what a new succession adds to the chains.
-/

namespace Coworking.Foundation

variable {κ : Type*} {l : List (κ × κ)} {live : κ → Prop} {a b c k k' : κ}

/-- The second key came out of the first by any number of the recorded successions. -/
abbrev Descends (l : List (κ × κ)) : κ → κ → Prop := Relation.ReflTransGen fun a b => (a, b) ∈ l

/-- A live key has no successors, so nothing but itself came out of it. -/
theorem eq_of_descends (hspent : ∀ a b, (a, b) ∈ l → ¬ live a) (ha : live a)
    (h : Descends l a b) : a = b := by
  rcases h.cases_head with rfl | ⟨x, hx, -⟩
  · rfl
  · exact (hspent a x hx ha).elim

/-- **One live key in a chain.** -/
theorem Descends.live_unique (honce : (l.map Prod.fst).Nodup)
    (hspent : ∀ a b, (a, b) ∈ l → ¬ live a) (hb : Descends l a b) (hc : Descends l a c)
    (hlb : live b) (hlc : live c) : b = c := by
  -- A key with one successor at most has a chain without branches.
  have hunique : Relator.RightUnique fun a b => (a, b) ∈ l := fun x y z hy hz =>
    (Prod.mk.inj (List.inj_on_of_nodup_map honce hy hz rfl)).2
  rcases hb.total_of_right_unique hunique hc with h | h
  · exact eq_of_descends hspent hlb h
  · exact (eq_of_descends hspent hlc h).symm

/-- A succession by a key that has none itself adds that key to the chains of its predecessor. -/
theorem descends_cons (hnew : ∀ x, (k', x) ∉ l) (hne : k ≠ k')
    (h : Descends ((k, k') :: l) a b) : Descends l a b ∨ b = k' ∧ Descends l a k := by
  induction h with
  | refl => exact .inl .refl
  | @tail x y _ hlast ih =>
    rcases List.mem_cons.mp hlast with he | hold
    · -- The last succession is the new one.
      obtain ⟨rfl, rfl⟩ := Prod.mk.inj he
      rcases ih with hx | ⟨hx, -⟩
      · exact .inr ⟨rfl, hx⟩
      · exact (hne hx).elim
    · rcases ih with hx | ⟨rfl, -⟩
      · exact .inl (hx.tail hold)
      · exact (hnew y hold).elim

end Coworking.Foundation
