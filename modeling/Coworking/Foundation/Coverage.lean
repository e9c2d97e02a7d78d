import Mathlib.Algebra.BigOperators.Ring.Finset
import Mathlib.Combinatorics.Enumerative.DoubleCounting

/-!
# Coverage

Finite sets of cells that may overlap, and what is counted when each set is counted in full.

- `sum_card_eq`: the sizes add up to the cells covered and the repeats;
- `repeats_eq_zero_iff`: there are no repeats among disjoint sets;
- `sum_add_surplus`: how far counting once is from counting with weights.
-/

namespace Coworking.Foundation

open Finset

variable {ι κ : Type} [DecidableEq κ] {sets : Finset ι} {cells : ι → Finset κ}

/-- How often a cell is covered. -/
def depth (sets : Finset ι) (cells : ι → Finset κ) (k : κ) : Nat := #{i ∈ sets | k ∈ cells i}

/-- How often cells are covered beyond the first time. -/
def repeats (sets : Finset ι) (cells : ι → Finset κ) : Nat :=
  ∑ k ∈ sets.biUnion cells, (depth sets cells k - 1)

theorem depth_pos {k : κ} (hk : k ∈ sets.biUnion cells) : 0 < depth sets cells k := by
  obtain ⟨i, hi, hki⟩ := mem_biUnion.mp hk
  exact card_pos.mpr ⟨i, mem_filter.mpr ⟨hi, hki⟩⟩

/-- **Sets that are counted in full** count the cells that they cover, and the repeats. -/
theorem sum_card_eq : ∑ i ∈ sets, #(cells i) = #(sets.biUnion cells) + repeats sets cells := by
  -- Counted cell by cell, each one as often as it is covered.
  have hswap : ∑ i ∈ sets, #(cells i) = ∑ k ∈ sets.biUnion cells, depth sets cells k := by
    refine Eq.trans (sum_congr rfl fun i hi => ?_)
      (sum_card_bipartiteAbove_eq_sum_card_bipartiteBelow fun i k => k ∈ cells i)
    rw [bipartiteAbove, filter_mem_eq_inter, inter_eq_right.mpr (subset_biUnion_of_mem cells hi)]
  rw [hswap, card_eq_sum_ones, repeats, ← sum_add_distrib]
  refine sum_congr rfl fun k hk => ?_
  have hpos := depth_pos hk
  omega

theorem repeats_eq_zero_iff :
    repeats sets cells = 0 ↔ ∀ i ∈ sets, ∀ j ∈ sets, i ≠ j → Disjoint (cells i) (cells j) := by
  rw [repeats, sum_eq_zero_iff]
  constructor
  · intro h i hi j hj hne
    refine disjoint_left.mpr fun k hki hkj => hne ?_
    have hone : depth sets cells k ≤ 1 :=
      Nat.sub_eq_zero_iff_le.mp (h k (mem_biUnion.mpr ⟨i, hi, hki⟩))
    exact card_le_one.mp hone i (mem_filter.mpr ⟨hi, hki⟩) j (mem_filter.mpr ⟨hj, hkj⟩)
  · intro h k hk
    refine Nat.sub_eq_zero_of_le (card_le_one.mpr fun i hi j hj => ?_)
    obtain ⟨hi, hki⟩ := mem_filter.mp hi
    obtain ⟨hj, hkj⟩ := mem_filter.mp hj
    exact by_contra fun hne => disjoint_left.mp (h i hi j hj hne) hki hkj

/-! ## Weights -/

variable {size weight : ι → Nat}

/-- Beyond the first: what heavy elements would count more than once. -/
def surplus (sets : Finset ι) (size weight : ι → Nat) : Nat :=
  ∑ i ∈ sets, size i * (weight i - 1)

/-- What elements without weight count at all. -/
def idle (sets : Finset ι) (size weight : ι → Nat) : Nat := ∑ i ∈ sets with weight i = 0, size i

/-- Counting once and counting with weights differ by the surplus and the idle. -/
theorem sum_add_surplus :
    ∑ i ∈ sets, size i + surplus sets size weight =
      ∑ i ∈ sets, size i * weight i + idle sets size weight := by
  rw [surplus, idle, sum_filter, ← sum_add_distrib, ← sum_add_distrib]
  refine sum_congr rfl fun i _ => ?_
  cases hweight : weight i with
  | zero => simp
  | succ n =>
    rw [if_neg (Nat.succ_ne_zero n), Nat.add_sub_cancel, Nat.mul_succ]
    omega

end Coworking.Foundation
