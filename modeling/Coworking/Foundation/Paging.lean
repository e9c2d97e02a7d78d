import Mathlib.Data.List.Sort
import Mathlib.Data.Multiset.Basic

/-!
# Ordered Pages

Answers of the form `ORDER BY … LIMIT … OFFSET …`.

- `RowOrder`: the order in which a database hands back the rows a query selects;
- `page`, `flatMap_page`: the pages of a list, one after the other, are the list;
- `mem_pages`: so what is in the list is on some page, whatever the page size;
- `ClearCuts`: no page break between rows that tie, which decides whether pages that are ordered
  anew each time still hold every row once (`ClearCuts.allPages_perm`, `clearCuts_of_nodup`).
-/

namespace Coworking.Foundation

variable {ρ : Type}

/-! ## §1 Order -/

/-- An `ORDER BY`.  Rows that tie come in an order of the database's own, which depends on the
selected rows alone. -/
structure RowOrder (ρ : Type) (before : ρ → ρ → Prop) where
  arrange : List ρ → List ρ
  perm : ∀ rows, (arrange rows).Perm rows
  sorted : ∀ rows, (arrange rows).Pairwise before
  congr : ∀ {rows rows'}, rows.Perm rows' → arrange rows = arrange rows'

theorem RowOrder.mem_arrange {before : ρ → ρ → Prop} (order : RowOrder ρ before) {rows : List ρ}
    {r : ρ} : r ∈ order.arrange rows ↔ r ∈ rows := (order.perm rows).mem_iff

@[simp] theorem RowOrder.arrange_nil {before : ρ → ρ → Prop} (order : RowOrder ρ before) :
    order.arrange [] = [] := List.perm_nil.mp (order.perm [])

@[simp] theorem RowOrder.arrange_singleton {before : ρ → ρ → Prop} (order : RowOrder ρ before)
    (r : ρ) : order.arrange [r] = [r] := List.perm_singleton.mp (order.perm [r])

/-- Some order by a key: the rows, in an arbitrary enumeration, merge sorted. -/
noncomputable def RowOrder.by (before : ρ → ρ → Prop) [DecidableRel before]
    (htrans : ∀ a b c, before a b → before b c → before a c)
    (htotal : ∀ a b, before a b ∨ before b a) : RowOrder ρ before where
  arrange rows := (rows : Multiset ρ).toList.mergeSort fun a b => before a b
  perm rows :=
    (List.mergeSort_perm _ _).trans
      (Multiset.coe_eq_coe.mp (Multiset.coe_toList (rows : Multiset ρ)))
  sorted rows := by
    refine (List.pairwise_mergeSort (fun a b c hab hbc => ?_) (fun a b => ?_) _).imp
      of_decide_eq_true
    · exact decide_eq_true (htrans a b c (of_decide_eq_true hab) (of_decide_eq_true hbc))
    · simpa using htotal a b
  congr h := by rw [Multiset.coe_eq_coe.mpr h]

open Classical in
/-- The order that puts the rows of a sorted list in the order of the list. -/
noncomputable def RowOrder.placing {before : ρ → ρ → Prop} (order : RowOrder ρ before)
    (list : List ρ) (hlist : list.Pairwise before) : RowOrder ρ before where
  arrange rows := if rows.Perm list then list else order.arrange rows
  perm rows := by
    split
    next h => exact h.symm
    next => exact order.perm rows
  sorted rows := by
    split
    next => exact hlist
    next => exact order.sorted rows
  congr h := by
    rw [order.congr h]
    exact if_congr ⟨h.symm.trans, h.trans⟩ rfl rfl

theorem RowOrder.arrange_placing {before : ρ → ρ → Prop} {order : RowOrder ρ before}
    {list rows : List ρ} {hlist : list.Pairwise before} (h : rows.Perm list) :
    (order.placing list hlist).arrange rows = list := if_pos h

/-! ## §2 Pages -/

/-- Page `number` of a list, counted from 1. -/
def page (rows : List ρ) (number limit : Nat) : List ρ :=
  (rows.drop ((number - 1) * limit)).take limit

theorem page_sublist (rows : List ρ) (number limit : Nat) :
    (page rows number limit).Sublist rows :=
  (List.take_sublist _ _).trans (List.drop_sublist _ _)

/-- The first `n` pages are the first `n * limit` rows, in their order. -/
theorem flatMap_page (rows : List ρ) (limit n : Nat) :
    ((List.range n).flatMap fun k => page rows (k + 1) limit) = rows.take (n * limit) := by
  induction n with
  | zero => simp
  | succ n ih =>
    rw [List.range_succ, List.flatMap_append, ih, List.flatMap_singleton, Nat.succ_mul,
      List.take_add]
    rfl

/-- **Paging misses nothing.** -/
theorem mem_pages {rows : List ρ} {limit : Nat} (hlimit : 1 ≤ limit) {r : ρ} :
    (∃ number, 1 ≤ number ∧ r ∈ page rows number limit) ↔ r ∈ rows := by
  constructor
  · rintro ⟨number, -, hr⟩
    exact (page_sublist rows number limit).subset hr
  · intro hr
    -- As many pages as there are rows hold them all.
    have hall : rows.take (rows.length * limit) = rows :=
      List.take_of_length_le (Nat.le_mul_of_pos_right _ hlimit)
    rw [← hall, ← flatMap_page, List.mem_flatMap] at hr
    rcases hr with ⟨k, -, hk⟩
    exact ⟨k + 1, Nat.succ_pos k, hk⟩

/-- A row is on the page that its position divides to. -/
theorem mem_page {rows : List ρ} {limit k : Nat} (hlimit : 1 ≤ limit) {r : ρ} :
    r ∈ page rows (k + 1) limit ↔ ∃ i : Nat, i / limit = k ∧ rows[i]? = some r := by
  simp only [page, Nat.add_sub_cancel, List.mem_iff_getElem?, List.getElem?_take,
    List.getElem?_drop]
  constructor
  · rintro ⟨j, hj⟩
    split at hj
    next hlt =>
      refine ⟨k * limit + j, ?_, hj⟩
      rw [Nat.add_comm, Nat.add_mul_div_right _ _ hlimit, Nat.div_eq_of_lt hlt, Nat.zero_add]
    next => cases hj
  · rintro ⟨i, rfl, hi⟩
    refine ⟨i % limit, ?_⟩
    rw [if_pos (Nat.mod_lt i hlimit), Nat.mul_comm, Nat.div_add_mod]
    exact hi

/-! ## §3 Ties -/

section Ties

variable {κ : Type} [LinearOrder κ] {key : ρ → κ} {rows : List ρ} {limit : Nat}

/-- The keys of the rows in descending order. -/
def descending (key : ρ → κ) (rows : List ρ) : List κ :=
  (rows.map key).mergeSort fun a b => decide (b ≤ a)

theorem length_descending : (descending key rows).length = rows.length := by
  simp [descending]

theorem descending_sorted : (descending key rows).Pairwise fun a b => b ≤ a := by
  refine (List.pairwise_mergeSort (fun a b c hab hbc => ?_) (fun a b => ?_) _).imp of_decide_eq_true
  · exact decide_eq_true ((of_decide_eq_true hbc).trans (of_decide_eq_true hab))
  · simpa using le_total b a

/-- Whatever the order of rows that tie, the keys come in one order. -/
theorem RowOrder.map_arrange (order : RowOrder ρ fun a b => key b ≤ key a) :
    (order.arrange rows).map key = descending key rows := by
  refine List.Perm.eq_of_pairwise (fun a b _ _ hab hba => le_antisymm hba hab)
    (List.pairwise_map.mpr (order.sorted rows)) descending_sorted ?_
  exact ((order.perm rows).map key).trans (List.mergeSort_perm _ _).symm

theorem RowOrder.key_of_getElem? {order : RowOrder ρ fun a b => key b ≤ key a} {i : Nat} {r : ρ}
    (h : (order.arrange rows)[i]? = some r) : (descending key rows)[i]? = some (key r) := by
  rw [← order.map_arrange, List.getElem?_map, h, Option.map_some]

theorem descending_le {i j : Nat} {x y : κ} (hi : (descending key rows)[i]? = some x)
    (hj : (descending key rows)[j]? = some y) (hij : i ≤ j) : y ≤ x := by
  obtain ⟨hi', rfl⟩ := List.getElem?_eq_some_iff.mp hi
  obtain ⟨hj', rfl⟩ := List.getElem?_eq_some_iff.mp hj
  rcases hij.eq_or_lt with rfl | hlt
  · exact le_rfl
  · exact List.pairwise_iff_getElem.mp descending_sorted i j hi' hj' hlt

/-- Between two positions with one key there is no other key. -/
theorem descending_between {i j m : Nat} {x : κ} (hi : (descending key rows)[i]? = some x)
    (hj : (descending key rows)[j]? = some x) (him : i ≤ m) (hmj : m ≤ j) :
    (descending key rows)[m]? = some x := by
  obtain ⟨hlen, -⟩ := List.getElem?_eq_some_iff.mp hj
  have hmlen : m < (descending key rows).length := by omega
  have hm : (descending key rows)[m]? = some (descending key rows)[m] :=
    List.getElem?_eq_getElem hmlen
  rw [hm, le_antisymm (descending_le hi hm him) (descending_le hm hj hmj)]

/-- No two rows with one key are on different pages: neighbours at a page end differ. -/
def ClearCuts (key : ρ → κ) (rows : List ρ) (limit : Nat) : Prop :=
  ∀ cut, 0 < cut → limit ∣ cut → cut < rows.length →
    (descending key rows)[cut - 1]? ≠ (descending key rows)[cut]?

/-- With clear cuts a key has one page. -/
theorem ClearCuts.page_le (h : ClearCuts key rows limit) {i j : Nat} {x : κ}
    (hi : (descending key rows)[i]? = some x) (hj : (descending key rows)[j]? = some x) :
    j / limit ≤ i / limit := by
  by_contra hlt
  have hlt := not_le.mp hlt
  -- The cut before the later page lies between the two positions.
  have hcut : j / limit * limit ≤ j := Nat.div_mul_le_self j limit
  have hbefore : i < j / limit * limit := (Nat.div_lt_iff_lt_mul (by
    rcases Nat.eq_zero_or_pos limit with rfl | hpos
    · simp at hlt
    · exact hpos)).mp hlt
  have hjlen := (List.getElem?_eq_some_iff.mp hj).1
  rw [length_descending] at hjlen
  refine h (j / limit * limit) (by omega) (Nat.dvd_mul_left _ _) (by omega) ?_
  rw [descending_between hi hj (by omega) (by omega), descending_between hi hj (by omega) hcut]

/-- The pages that hold all rows, one after the other, when each page is ordered anew. -/
def allPages {before : ρ → ρ → Prop} (orders : Nat → RowOrder ρ before) (rows : List ρ)
    (limit : Nat) : List ρ :=
  (List.range ((rows.length + limit - 1) / limit)).flatMap fun k =>
    page ((orders (k + 1)).arrange rows) (k + 1) limit

variable {orders : Nat → RowOrder ρ fun a b => key b ≤ key a}

/-- One after the other the pages are in order. -/
theorem allPages_sorted (hlimit : 1 ≤ limit) :
    (allPages orders rows limit).Pairwise fun a b => key b ≤ key a := by
  refine List.pairwise_flatMap.mpr ⟨fun k _ => ?_, ?_⟩
  · exact ((orders (k + 1)).sorted rows).sublist (page_sublist _ _ _)
  · refine List.pairwise_lt_range.imp fun hlt x hx y hy => ?_
    obtain ⟨i, rfl, hi⟩ := (mem_page hlimit).mp hx
    obtain ⟨j, rfl, hj⟩ := (mem_page hlimit).mp hy
    refine descending_le (RowOrder.key_of_getElem? hi) (RowOrder.key_of_getElem? hj) ?_
    exact (Nat.lt_of_div_lt_div hlt).le

/-- With clear cuts a page has the same rows in every order. -/
theorem ClearCuts.page_perm (h : ClearCuts key rows limit) (hrows : rows.Nodup)
    (hlimit : 1 ≤ limit) (order order' : RowOrder ρ fun a b => key b ≤ key a) (k : Nat) :
    (page (order.arrange rows) (k + 1) limit).Perm (page (order'.arrange rows) (k + 1) limit) := by
  have hnodup : ∀ o : RowOrder ρ fun a b => key b ≤ key a,
      (page (o.arrange rows) (k + 1) limit).Nodup := fun o =>
    ((o.perm rows).nodup_iff.mpr hrows).sublist (page_sublist _ _ _)
  have hsub : ∀ o o' : RowOrder ρ fun a b => key b ≤ key a, ∀ r,
      r ∈ page (o.arrange rows) (k + 1) limit → r ∈ page (o'.arrange rows) (k + 1) limit := by
    intro o o' r hr
    obtain ⟨i, hk, hi⟩ := (mem_page hlimit).mp hr
    have hmem : r ∈ o'.arrange rows :=
      o'.mem_arrange.mpr (o.mem_arrange.mp (List.mem_of_getElem? hi))
    obtain ⟨j, hj⟩ := List.mem_iff_getElem?.mp hmem
    have hkeyi := RowOrder.key_of_getElem? hi
    have hkeyj := RowOrder.key_of_getElem? hj
    refine (mem_page hlimit).mpr ⟨j, ?_, hj⟩
    rw [← hk]
    exact le_antisymm (h.page_le hkeyi hkeyj) (h.page_le hkeyj hkeyi)
  exact (List.perm_ext_iff_of_nodup (hnodup order) (hnodup order')).mpr fun r =>
    ⟨hsub order order' r, hsub order' order r⟩

/-- **Paging loses and repeats nothing** where the cuts are clear. -/
theorem ClearCuts.allPages_perm (h : ClearCuts key rows limit) (hrows : rows.Nodup)
    (hlimit : 1 ≤ limit) : (allPages orders rows limit).Perm rows := by
  have hone : (allPages orders rows limit).Perm (allPages (fun _ => orders 0) rows limit) :=
    List.Perm.flatMap_left _ fun k _ => h.page_perm hrows hlimit _ _ k
  refine hone.trans ?_
  rw [allPages, flatMap_page, List.take_of_length_le]
  · exact (orders 0).perm rows
  · -- As many pages as it takes.
    have hceil : rows.length + limit - 1 < (rows.length + limit - 1) / limit * limit + limit :=
      Nat.lt_div_mul_add hlimit
    rw [((orders 0).perm rows).length_eq]
    omega

/-- A list around two neighbours. -/
theorem exists_split {l : List ρ} {i : Nat} (h : i + 1 < l.length) :
    ∃ before x y after, l = before ++ x :: y :: after ∧ before.length = i := by
  refine ⟨l.take i, l[i], l[i + 1], l.drop (i + 2), ?_, List.length_take_of_le (by omega)⟩
  rw [← List.drop_eq_getElem_cons h, ← List.drop_eq_getElem_cons, List.take_append_drop]

/-- Rows that tie may change places. -/
theorem pairwise_swap {before after : List ρ} {x y : ρ} (htie : key x = key y)
    (h : (before ++ x :: y :: after).Pairwise fun a b => key b ≤ key a) :
    (before ++ y :: x :: after).Pairwise fun a b => key b ≤ key a := by
  simp only [List.pairwise_append, List.pairwise_cons, List.mem_cons, forall_eq_or_imp] at h ⊢
  obtain ⟨hbefore, ⟨⟨-, hx⟩, hy, hafter⟩, hcross⟩ := h
  exact ⟨hbefore, ⟨⟨htie.le, hy⟩, hx, hafter⟩, fun a ha =>
    ⟨(hcross a ha).2.1, (hcross a ha).1, (hcross a ha).2.2⟩⟩

/-- Where a cut is not clear, the row before it can appear after it as well: the order of rows that
tie may change between two pages. -/
theorem clearCuts_of_nodup (hlimit : 1 ≤ limit)
    (h : ∀ orders : Nat → RowOrder ρ fun a b => key b ≤ key a, (allPages orders rows limit).Nodup) :
    ClearCuts key rows limit := by
  rintro cut hpos ⟨m, rfl⟩ hlen htie
  obtain ⟨k, rfl⟩ := Nat.exists_eq_succ_of_ne_zero (Nat.pos_of_mul_pos_left hpos).ne'
  let order : RowOrder ρ fun a b => key b ≤ key a :=
    .by _ (fun _ _ _ hab hbc => hbc.trans hab) fun _ _ => le_total _ _
  have hperm := order.perm rows
  have hsorted := order.sorted rows
  -- `x` is the row before the cut and `y` the row after it.
  obtain ⟨before, x, y, after, hsplit, hbefore⟩ : ∃ before x y after,
      order.arrange rows = before ++ x :: y :: after ∧
        before.length = limit * k.succ - 1 :=
    exists_split (by rw [hperm.length_eq]; omega)
  rw [hsplit] at hperm hsorted
  have hcut : limit * k.succ = before.length + 1 := by omega
  have hkeys : key x = key y := by
    rw [← order.map_arrange, hsplit, hcut] at htie
    simpa using htie
  have hswap := pairwise_swap hkeys hsorted
  have hperm' : rows.Perm (before ++ y :: x :: after) :=
    hperm.symm.trans (.append_left _ (.swap _ _ _))
  -- The page that ends at the cut has `x` first, the page that starts there `y`.
  let orders : Nat → RowOrder ρ fun a b => key b ≤ key a := fun number =>
    if number ≤ k + 1 then order.placing _ hsorted else order.placing _ hswap
  have hlast : x ∈ page ((orders (k + 1)).arrange rows) (k + 1) limit := by
    have harrange : (orders (k + 1)).arrange rows = before ++ x :: y :: after := by
      simp only [orders, le_refl, if_true]
      exact RowOrder.arrange_placing hperm.symm
    refine (mem_page hlimit).mpr ⟨before.length, ?_, by simp [harrange]⟩
    rw [Nat.mul_succ, Nat.mul_comm] at hcut
    exact Nat.div_eq_of_lt_le (by omega) (by rw [Nat.succ_mul]; omega)
  have hfirst : x ∈ page ((orders (k + 1 + 1)).arrange rows) (k + 1 + 1) limit := by
    have harrange : (orders (k + 1 + 1)).arrange rows = before ++ y :: x :: after := by
      simp only [orders, Nat.succ_le_iff, lt_irrefl, if_false]
      exact RowOrder.arrange_placing hperm'
    refine (mem_page hlimit).mpr ⟨before.length + 1, ?_, by simp [harrange]⟩
    rw [← hcut, Nat.mul_div_cancel_left _ hlimit]
  have hpages : k + 1 < (List.range ((rows.length + limit - 1) / limit)).length := by
    rw [List.length_range, ← Nat.succ_le_iff, Nat.le_div_iff_mul_le hlimit, Nat.succ_mul,
      Nat.mul_comm]
    exact Nat.le_sub_one_of_lt (Nat.add_lt_add_right hlen limit)
  have hdisjoint := List.pairwise_iff_getElem.mp (List.nodup_flatMap.mp (h orders)).2 k (k + 1)
    (Nat.lt_of_succ_lt hpages) hpages (Nat.lt_succ_self k)
  simp only [Function.onFun, List.getElem_range] at hdisjoint
  exact hdisjoint hlast hfirst

end Ties

end Coworking.Foundation
