import Mathlib.Algebra.BigOperators.Group.List.Basic
import Mathlib.Algebra.GroupWithZero.Nat
import Mathlib.Data.List.Nodup

/-!
# Keyed Tables

A table is a list of rows together with the proof that no two rows share a primary
key, so a store with a duplicated key cannot be built.

- `get?` looks a row up by key; `get?_eq_some` says it is membership.
- `insert` takes the proof that the key is new, `modify` the proof that the key is kept.
- `get?_insert`, `get?_modify` compute lookups after a write; they and the `mem_` lemmas
  are all a client needs, no proof about a table unfolds its list.
- `AgreeOn`: the frame of a write, as the rows of a kind that it leaves alone.
-/

namespace Coworking.Foundation

/-- Rows with a primary key. -/
class Keyed (ρ : Type) (κ : outParam Type) where
  /-- The primary key of a row. -/
  key : ρ → κ

open Keyed (key)

variable {ρ κ : Type} [Keyed ρ κ]

/-- Rows in insertion order, with pairwise distinct primary keys. -/
structure Table (ρ : Type) {κ : Type} [Keyed ρ κ] where
  /-- The rows, oldest first. -/
  rows : List ρ
  /-- The primary key constraint. -/
  keysNodup : (rows.map (key (ρ := ρ))).Nodup

namespace Table

instance : Membership ρ (Table ρ) := ⟨fun t r => r ∈ t.rows⟩

theorem mem_def (t : Table ρ) (r : ρ) : r ∈ t ↔ r ∈ t.rows := Iff.rfl

theorem ext {t u : Table ρ} (h : t.rows = u.rows) : t = u := by
  cases t; cases u; cases h; rfl

/-- The table without rows. -/
def empty : Table ρ := ⟨[], List.nodup_nil⟩

/-- The primary keys in use. -/
def keys (t : Table ρ) : List κ := t.rows.map key

theorem mem_keys {t : Table ρ} {k : κ} : k ∈ t.keys ↔ ∃ r ∈ t, key r = k := List.mem_map

/-- Append a row whose key is not in use. -/
def insert (t : Table ρ) (r : ρ) (hnew : key r ∉ t.keys) : Table ρ where
  rows := t.rows ++ [r]
  keysNodup := by
    rw [List.map_append, List.map_singleton, List.nodup_append]
    refine ⟨t.keysNodup, List.nodup_singleton _, fun a ha b hb hab => ?_⟩
    rw [List.mem_singleton] at hb
    exact hnew (hb ▸ hab ▸ ha)

@[simp] theorem mem_empty (r : ρ) : r ∈ (empty : Table ρ) ↔ False := by
  simp [mem_def, empty]

@[simp] theorem mem_insert {t : Table ρ} {r x : ρ} {hnew : key r ∉ t.keys} :
    x ∈ t.insert r hnew ↔ x ∈ t ∨ x = r := by
  simp [mem_def, insert]

theorem mem_keys_insert {t : Table ρ} {r : ρ} {hnew : key r ∉ t.keys} {k : κ} :
    k ∈ (t.insert r hnew).keys ↔ k ∈ t.keys ∨ k = key r := by
  simp [keys, insert]

/-- Two rows with the same primary key are one row. -/
theorem key_injective {t : Table ρ} {r x : ρ} (hr : r ∈ t) (hx : x ∈ t) (h : key r = key x) :
    r = x :=
  List.inj_on_of_nodup_map t.keysNodup hr hx h

/-- The tables have the same rows of a kind, in the same order. -/
def AgreeOn (p : ρ → Bool) (t u : Table ρ) : Prop := u.rows.filter p = t.rows.filter p

@[refl] theorem AgreeOn.refl (p : ρ → Bool) (t : Table ρ) : AgreeOn p t t := rfl

theorem AgreeOn.trans {p : ρ → Bool} {t u v : Table ρ} (h₁ : AgreeOn p t u) (h₂ : AgreeOn p u v) :
    AgreeOn p t v := Eq.trans h₂ h₁

/-- Tables that agree on the rows of a kind agree on those of a narrower one. -/
theorem AgreeOn.mono {p q : ρ → Bool} {t u : Table ρ} (h : AgreeOn p t u)
    (hq : ∀ r, q r = true → p r = true) : AgreeOn q t u := by
  have hfilter : ∀ rows : List ρ, rows.filter q = (rows.filter p).filter q := by
    intro rows
    rw [List.filter_filter]
    apply List.filter_congr
    intro r _
    cases hr : q r with
    | false => simp
    | true => simp [hq r hr]
  show u.rows.filter q = t.rows.filter q
  rw [hfilter u.rows, hfilter t.rows, h]

theorem agreeOn_insert {p : ρ → Bool} {t : Table ρ} {r : ρ} (hnew : key r ∉ t.keys)
    (hr : p r = false) : AgreeOn p t (t.insert r hnew) := by
  simp [AgreeOn, insert, hr]

/-- The rows of a kind. -/
def filter (p : ρ → Bool) (t : Table ρ) : Table ρ where
  rows := t.rows.filter p
  keysNodup := t.keysNodup.sublist (List.filter_sublist.map _)

theorem mem_filter {p : ρ → Bool} {t : Table ρ} {r : ρ} : r ∈ t.filter p ↔ r ∈ t ∧ p r :=
  List.mem_filter

theorem notMem_keys_filter {p : ρ → Bool} {t : Table ρ} {k : κ} (h : k ∉ t.keys) :
    k ∉ (t.filter p).keys := by
  rw [mem_keys] at h ⊢
  rintro ⟨r, hr, hkey⟩
  exact h ⟨r, (mem_filter.mp hr).1, hkey⟩

theorem filter_insert_of_pos {p : ρ → Bool} {t : Table ρ} {r : ρ} {hnew : key r ∉ t.keys}
    (hr : p r) : (t.insert r hnew).filter p = (t.filter p).insert r (notMem_keys_filter hnew) :=
  ext (by simp [filter, insert, hr])

theorem filter_insert_of_neg {p : ρ → Bool} {t : Table ρ} {r : ρ} {hnew : key r ∉ t.keys}
    (hr : ¬ p r) : (t.insert r hnew).filter p = t.filter p :=
  ext (by simp [filter, insert, hr])

variable [DecidableEq κ]

/-- The row with the given primary key. -/
def get? (t : Table ρ) (k : κ) : Option ρ := t.rows.find? fun r => key r = k

/-- Rewriting a row without touching a column leaves the column as it is. -/
private theorem map_rewrite {α : Type} (rows : List ρ) (k : κ) {f : ρ → ρ} {column : ρ → α}
    (hcolumn : ∀ r, column (f r) = column r) :
    (rows.map fun r => if key r = k then f r else r).map column = rows.map column := by
  rw [List.map_map]
  refine List.map_congr_left fun r _ => ?_
  show column (if key r = k then f r else r) = column r
  split
  · exact hcolumn r
  · rfl

/-- Rewrite the row with the given key, keeping its key. -/
def modify (t : Table ρ) (k : κ) (f : ρ → ρ) (hkey : ∀ r, key (f r) = key r) : Table ρ where
  rows := t.rows.map fun r => if key r = k then f r else r
  keysNodup := by
    rw [map_rewrite t.rows k hkey]
    exact t.keysNodup

theorem keys_modify {t : Table ρ} {k : κ} {f : ρ → ρ} {hkey : ∀ r, key (f r) = key r} :
    (t.modify k f hkey).keys = t.keys := map_rewrite t.rows k hkey

/-- Rewrite every row, keeping its key. -/
def mapRows (t : Table ρ) (f : ρ → ρ) (hkey : ∀ r, key (f r) = key r) : Table ρ where
  rows := t.rows.map f
  keysNodup := by
    have hkeys : (t.rows.map f).map key = t.rows.map (key (ρ := ρ)) := by
      rw [List.map_map]
      exact List.map_congr_left fun r _ => hkey r
    rw [hkeys]
    exact t.keysNodup

/-- Delete the row with the given key. -/
def erase (t : Table ρ) (k : κ) : Table ρ where
  rows := t.rows.filter fun r => key r ≠ k
  keysNodup := t.keysNodup.sublist (List.filter_sublist.map _)

theorem mem_erase {t : Table ρ} {k : κ} {r : ρ} : r ∈ t.erase k ↔ r ∈ t ∧ key r ≠ k := by
  rw [mem_def, erase, List.mem_filter, decide_eq_true_eq]
  exact Iff.rfl

theorem mem_keys_erase {t : Table ρ} {k k' : κ} :
    k' ∈ (t.erase k).keys ↔ k' ∈ t.keys ∧ k' ≠ k := by
  simp only [mem_keys, mem_erase]
  constructor
  · rintro ⟨r, ⟨hr, hne⟩, rfl⟩
    exact ⟨⟨r, hr, rfl⟩, hne⟩
  · rintro ⟨⟨r, hr, rfl⟩, hne⟩
    exact ⟨r, ⟨hr, hne⟩, rfl⟩

/-! ## Lookups are membership -/

/-- What the search by key finds has the key. -/
private theorem key_of_find? {t : Table ρ} {k : κ} {r : ρ}
    (h : (t.rows.find? fun r => key r = k) = some r) : key r = k := by
  have hp := List.find?_some h
  simpa using hp

theorem get?_eq_some {t : Table ρ} {k : κ} {r : ρ} : t.get? k = some r ↔ r ∈ t ∧ key r = k := by
  unfold get?
  refine ⟨fun h => ⟨List.mem_of_find?_eq_some h, key_of_find? h⟩, fun h => ?_⟩
  rcases h with ⟨hr, hk⟩
  cases hfind : t.rows.find? fun r => key r = k with
  | none =>
    -- The search passes no row that has the key.
    rw [List.find?_eq_none] at hfind
    exact absurd (decide_eq_true hk) (hfind r hr)
  | some x =>
    -- It finds some row that has it, and rows with one key are one row.
    have hxk : key x = k := key_of_find? hfind
    rw [key_injective hr (List.mem_of_find?_eq_some hfind) (hk.trans hxk.symm)]

theorem get?_of_mem {t : Table ρ} {r : ρ} (h : r ∈ t) : t.get? (key r) = some r :=
  get?_eq_some.mpr ⟨h, rfl⟩

theorem mem_of_get? {t : Table ρ} {k : κ} {r : ρ} (h : t.get? k = some r) : r ∈ t :=
  (get?_eq_some.mp h).1

theorem key_of_get? {t : Table ρ} {k : κ} {r : ρ} (h : t.get? k = some r) : key r = k :=
  (get?_eq_some.mp h).2

theorem get?_eq_none {t : Table ρ} {k : κ} : t.get? k = none ↔ k ∉ t.keys := by
  simp [get?, keys, List.find?_eq_none]

/-- A key is in the table once or not at all. -/
theorem countP_key (t : Table ρ) (k : κ) :
    (t.rows.countP fun r => key r = k) = (t.get? k).isSome.toNat := by
  have hcount : (t.rows.countP fun r => key r = k) = t.keys.count k := by
    rw [List.count, keys, List.countP_map]
    exact List.countP_congr fun r _ => by simp
  have hnodup : t.keys.Nodup := t.keysNodup
  rw [hcount, hnodup.count]
  cases hget : t.get? k with
  | none => exact if_neg (get?_eq_none.mp hget)
  | some r =>
    exact if_pos (mem_keys.mpr ⟨r, mem_of_get? hget, key_of_get? hget⟩)

/-! ## Lookups after a write -/

theorem get?_insert {t : Table ρ} {r : ρ} {hnew : key r ∉ t.keys} (k : κ) :
    (t.insert r hnew).get? k = if key r = k then some r else t.get? k := by
  by_cases h : key r = k
  · rw [if_pos h, get?_eq_some]
    exact ⟨mem_insert.mpr (.inr rfl), h⟩
  · simp [get?, insert, h]

/-- A row that was there is still there after an insert. -/
theorem get?_insert_of_some {t : Table ρ} {r x : ρ} {k : κ} (hnew : key r ∉ t.keys)
    (h : t.get? k = some x) : (t.insert r hnew).get? k = some x := by
  obtain ⟨hx, hk⟩ := get?_eq_some.mp h
  exact get?_eq_some.mpr ⟨mem_insert.mpr (.inl hx), hk⟩

theorem mem_modify {t : Table ρ} {k : κ} {f : ρ → ρ} {hkey : ∀ r, key (f r) = key r} {x : ρ} :
    x ∈ t.modify k f hkey ↔ ∃ r ∈ t, x = if key r = k then f r else r := by
  simp [mem_def, modify, eq_comm]

/-- A rewrite that takes a row out of a kind takes out the row with the key. -/
theorem exists_modify_iff {t : Table ρ} {k : κ} {f : ρ → ρ} {hkey : ∀ r, key (f r) = key r}
    {q : ρ → Prop} {P : κ → Prop} (hf : ∀ r ∈ t, key r = k → ¬ q (f r)) :
    (∃ r ∈ t.modify k f hkey, q r ∧ P (key r)) ↔ ∃ r ∈ t, q r ∧ P (key r) ∧ key r ≠ k := by
  constructor
  · rintro ⟨x, hx, hq, hP⟩
    obtain ⟨r, hr, rfl⟩ := mem_modify.mp hx
    by_cases hk : key r = k
    · rw [if_pos hk] at hq
      exact absurd hq (hf r hr hk)
    · rw [if_neg hk] at hq hP
      exact ⟨r, hr, hq, hP, hk⟩
  · rintro ⟨r, hr, hq, hP, hk⟩
    exact ⟨r, mem_modify.mpr ⟨r, hr, (if_neg hk).symm⟩, hq, hP⟩

theorem get?_modify {t : Table ρ} {k : κ} {f : ρ → ρ} {hkey : ∀ r, key (f r) = key r} (l : κ) :
    (t.modify k f hkey).get? l = (t.get? l).map fun r => if l = k then f r else r := by
  cases hl : t.get? l with
  | none =>
    -- No row has the key, before or after.
    rw [Option.map_none, get?_eq_none, keys_modify]
    exact get?_eq_none.mp hl
  | some r =>
    obtain ⟨hr, rfl⟩ := get?_eq_some.mp hl
    rw [Option.map_some, get?_eq_some]
    refine ⟨mem_modify.mpr ⟨r, hr, rfl⟩, ?_⟩
    by_cases h : key r = k <;> simp [h, hkey]

/-- A column that a rewrite leaves alone is the same afterwards. -/
theorem map_modify {α : Type} {t : Table ρ} {k : κ} {f : ρ → ρ} {hkey : ∀ r, key (f r) = key r}
    {column : ρ → α} (hcolumn : ∀ r, column (f r) = column r) :
    (t.modify k f hkey).rows.map column = t.rows.map column :=
  map_rewrite t.rows k hcolumn

/-- So it is in the row under each key. -/
theorem get?_modify_map {α : Type} {t : Table ρ} {k : κ} {f : ρ → ρ}
    {hkey : ∀ r, key (f r) = key r} {column : ρ → α} (hcolumn : ∀ r, column (f r) = column r)
    (l : κ) : ((t.modify k f hkey).get? l).map column = (t.get? l).map column := by
  rw [get?_modify, Option.map_map]
  congr 1
  funext r
  show column (if l = k then f r else r) = column r
  split
  · exact hcolumn r
  · rfl

theorem get?_mapRows {t : Table ρ} {f : ρ → ρ} {hkey : ∀ r, key (f r) = key r} (k : κ) :
    (t.mapRows f hkey).get? k = (t.get? k).map f := by
  simp only [get?, mapRows, List.find?_map, Function.comp_def, hkey]

/-- Rewriting a row that is not there changes nothing. -/
theorem modify_of_get?_eq_none {t : Table ρ} {k : κ} {f : ρ → ρ} {hkey : ∀ r, key (f r) = key r}
    (h : t.get? k = none) : t.modify k f hkey = t := by
  refine ext ((List.map_congr_left fun r hr => if_neg fun hk => ?_).trans (List.map_id' t.rows))
  exact get?_eq_none.mp h (mem_keys.mpr ⟨r, hr, hk⟩)

/-- Two rewrites that agree on the row are one. -/
theorem modify_congr {t : Table ρ} {k : κ} {f g : ρ → ρ} {hf : ∀ r, key (f r) = key r}
    {hg : ∀ r, key (g r) = key r} (h : ∀ r, t.get? k = some r → f r = g r) :
    t.modify k f hf = t.modify k g hg := by
  refine ext (List.map_congr_left fun r hr => ?_)
  split
  next hk => exact h r (get?_eq_some.mpr ⟨hr, hk⟩)
  · rfl

/-- A rewrite that has nothing to change. -/
theorem modify_eq_self {t : Table ρ} {k : κ} {f : ρ → ρ} {hkey : ∀ r, key (f r) = key r}
    (h : ∀ r, t.get? k = some r → f r = r) : t.modify k f hkey = t := by
  refine ext ((List.map_congr_left fun r hr => ?_).trans (List.map_id' t.rows))
  split
  next hk => exact h r (get?_eq_some.mpr ⟨hr, hk⟩)
  · rfl

/-- And only these are. -/
theorem modify_eq_modify_iff {t : Table ρ} {k : κ} {f g : ρ → ρ} (hf : ∀ r, key (f r) = key r)
    (hg : ∀ r, key (g r) = key r) {r : ρ} (hget : t.get? k = some r) :
    t.modify k f hf = t.modify k g hg ↔ f r = g r := by
  constructor
  · intro h
    have hrow := congrArg (fun u => u.get? k) h
    simpa [get?_modify, hget] using hrow
  · intro h
    exact modify_congr fun r' hr' => Option.mem_unique hget hr' ▸ h

/-- A row that has been inserted is found under its key. -/
theorem get?_insert_self {t : Table ρ} {r : ρ} (hnew : key r ∉ t.keys) :
    (t.insert r hnew).get? (key r) = some r :=
  get?_of_mem (mem_insert.mpr (.inr rfl))

/-- Rewriting it leaves the rows that were there before. -/
theorem mem_modify_insert {t : Table ρ} {r x : ρ} {f : ρ → ρ} (hnew : key r ∉ t.keys)
    (hf : ∀ r, key (f r) = key r) :
    x ∈ (t.insert r hnew).modify (key r) f hf ↔ x ∈ t ∨ x = f r := by
  have hold : ∀ y ∈ t, key y ≠ key r := fun y hy hkey => hnew (mem_keys.mpr ⟨y, hy, hkey⟩)
  rw [mem_modify]
  constructor
  · rintro ⟨y, hy, rfl⟩
    rcases mem_insert.mp hy with hy | rfl
    · rw [if_neg (hold y hy)]
      exact .inl hy
    · rw [if_pos rfl]
      exact .inr rfl
  · rintro (hx | rfl)
    · exact ⟨x, mem_insert.mpr (.inl hx), (if_neg (hold x hx)).symm⟩
    · exact ⟨r, mem_insert.mpr (.inr rfl), (if_pos rfl).symm⟩

/-! ## Rows a write does not concern -/

theorem agreeOn_modify {p : ρ → Bool} {t : Table ρ} {k : κ} {f : ρ → ρ}
    (hkey : ∀ r, key (f r) = key r)
    (h : ∀ r, t.get? k = some r → p r = false ∧ p (f r) = false) :
    AgreeOn p t (t.modify k f hkey) := by
  have hrow : ∀ r ∈ t.rows, (p ∘ fun r => if key r = k then f r else r) r = p r := by
    intro r hr
    show p (if key r = k then f r else r) = p r
    split
    next hk =>
      obtain ⟨hbefore, hafter⟩ := h r (get?_eq_some.mpr ⟨hr, hk⟩)
      rw [hbefore, hafter]
    · rfl
  show (t.rows.map fun r => if key r = k then f r else r).filter p = t.rows.filter p
  rw [List.filter_map, List.filter_congr hrow]
  -- What is left after the filter has another key, and was not rewritten.
  refine (List.map_congr_left fun r hr => if_neg fun hk => ?_).trans (List.map_id' _)
  obtain ⟨hmem, hp⟩ := List.mem_filter.mp hr
  rw [(h r (get?_eq_some.mpr ⟨hmem, hk⟩)).1] at hp
  cases hp

theorem agreeOn_erase {p : ρ → Bool} {t : Table ρ} {k : κ}
    (h : ∀ r, t.get? k = some r → p r = false) : AgreeOn p t (t.erase k) := by
  show (t.rows.filter fun r => key r ≠ k).filter p = t.rows.filter p
  rw [List.filter_filter]
  refine List.filter_congr fun r hr => ?_
  by_cases hk : key r = k
  · rw [h r (get?_eq_some.mpr ⟨hr, hk⟩), Bool.false_and]
  · simp [hk]

/-! ## Counting what refers to a row -/

/-- A row of a kind counts one. -/
theorem sum_kind (t : Table ρ) (q : ρ → Bool) (k : κ) :
    ((t.rows.filter q).map fun r => if k = key r then 1 else 0).sum =
      ((t.get? k).any q).toNat := by
  have hcount : ∀ rows : List ρ, (rows.map fun r => if k = key r then 1 else 0).sum =
      rows.countP fun r => key r = k := by
    intro rows
    induction rows with
    | nil => rfl
    | cons r rows ih =>
      rw [List.map_cons, List.sum_cons, ih, List.countP_cons, Nat.add_comm]
      simp [eq_comm]
  rw [hcount, List.countP_filter]
  -- At most one row has the key; it counts if it is of the kind.
  cases hget : t.get? k with
  | none =>
    have hnone : k ∉ t.keys := get?_eq_none.mp hget
    refine List.countP_eq_zero.mpr fun r hr => ?_
    have hne : key r ≠ k := fun he => hnone (mem_keys.mpr ⟨r, hr, he⟩)
    simp [hne]
  | some r =>
    cases hq : q r with
    | true =>
      have hall := countP_key t k
      rw [hget] at hall
      rw [Option.any_some, hq, Bool.toNat_true]
      refine Eq.trans (List.countP_congr fun r' hr' => ?_) hall
      constructor
      · intro h
        exact (Bool.and_eq_true_iff.mp h).1
      · intro h
        have hsame : r' = r := Option.mem_unique (get?_eq_some.mpr ⟨hr', of_decide_eq_true h⟩) hget
        rw [hsame] at h ⊢
        rw [h, hq]
        rfl
    | false =>
      rw [Option.any_some, hq, Bool.toNat_false]
      refine List.countP_eq_zero.mpr fun r' hr' h => ?_
      obtain ⟨hkey, hq'⟩ := Bool.and_eq_true_iff.mp h
      obtain rfl := Option.mem_unique (get?_eq_some.mpr ⟨hr', of_decide_eq_true hkey⟩) hget
      exact absurd hq' (by simp [hq])

/-- **Counting in groups.**  Items that refer to a row of a kind are counted row by row. -/
theorem countP_group {α : Type} (t : Table ρ) (q : ρ → Bool) (k : α → κ) (p : α → Bool)
    (items : List α) :
    (items.countP fun a => p a && (t.get? (k a)).any q) =
      ((t.rows.filter q).map fun r => items.countP fun a => p a && k a = key r).sum := by
  induction items with
  | nil => simp
  | cons a items ih =>
    simp only [List.countP_cons, ih, List.sum_map_add]
    congr 1
    cases hp : p a with
    | false => simp
    | true =>
      have hsum := sum_kind t q (k a)
      cases hany : (t.get? (k a)).any q with
      | false => simpa [hany] using hsum.symm
      | true => simpa [hany] using hsum.symm

/-! ## Rows of a kind -/

/-- Among rows of which one at most is meant, that one is found if it is of the kind. -/
theorem find?_filter_of_unique {α : Type} {rows : List α} {p q : α → Bool}
    (hunique : ∀ a ∈ rows, ∀ b ∈ rows, p a → p b → a = b) :
    (rows.filter q).find? p = (rows.find? p).filter q := by
  rw [List.find?_filter]
  cases hfind : rows.find? p with
  | none =>
    rw [Option.filter_none, List.find?_eq_none]
    intro a ha hboth
    exact List.find?_eq_none.mp hfind a ha (of_decide_eq_true hboth).2
  | some a =>
    have hmem : a ∈ rows := List.mem_of_find?_eq_some hfind
    have hp : p a := List.find?_some hfind
    rw [Option.filter_some]
    by_cases hq : q a
    · rw [if_pos hq]
      cases hboth : rows.find? fun a => decide (q a = true ∧ p a = true) with
      | none =>
        have hnone := List.find?_eq_none.mp hboth a hmem
        simp [hq, hp] at hnone
      | some b =>
        have hb : q b = true ∧ p b = true := by simpa using List.find?_some hboth
        rw [hunique b (List.mem_of_find?_eq_some hboth) a hmem hb.2 hp]
    · rw [if_neg hq, List.find?_eq_none]
      intro b hb hboth
      obtain ⟨hqb, hpb⟩ := of_decide_eq_true hboth
      exact hq (hunique a hmem b hb hp hpb ▸ hqb)

theorem get?_filter {p : ρ → Bool} {t : Table ρ} (k : κ) :
    (t.filter p).get? k = (t.get? k).filter p :=
  find?_filter_of_unique fun _ ha _ hb hka hkb =>
    key_injective ha hb ((of_decide_eq_true hka).trans (of_decide_eq_true hkb).symm)

omit [DecidableEq κ] in
/-- A rewriting that keeps the kind of each row. -/
theorem filter_mapRows {p : ρ → Bool} {t : Table ρ} {f : ρ → ρ} {hkey : ∀ r, key (f r) = key r}
    (hf : ∀ r, p (f r) = p r) : (t.mapRows f hkey).filter p = (t.filter p).mapRows f hkey := by
  apply ext
  show List.filter p (t.rows.map f) = (t.rows.filter p).map f
  rw [List.filter_map]
  congr 1
  exact List.filter_congr fun r _ => hf r

theorem filter_modify {p : ρ → Bool} {t : Table ρ} {k : κ} {f : ρ → ρ}
    {hkey : ∀ r, key (f r) = key r} (hf : ∀ r, p (f r) = p r) :
    (t.modify k f hkey).filter p = (t.filter p).modify k f hkey := by
  apply ext
  show List.filter p (t.rows.map _) = (t.rows.filter p).map _
  rw [List.filter_map]
  congr 1
  apply List.filter_congr
  intro r _
  rw [Function.comp_apply]
  split
  · exact hf r
  · rfl

end Table

end Coworking.Foundation
