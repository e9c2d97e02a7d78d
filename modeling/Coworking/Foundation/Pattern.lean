import Mathlib.Algebra.Order.BigOperators.Group.List
import Mathlib.Algebra.Order.Group.Nat
import Mathlib.Algebra.Order.Ring.Nat
import Mathlib.Data.List.Infix

/-!
# Patterns with Wildcards

The pattern language of `LIKE` over any alphabet: one element stands for any text, one for any
single element, and one takes the next element as it is.

- `Wildcards.tokens`, `matchTokens`: how a pattern is read, and the texts that it matches;
- `matchTokens_append`: a pattern is matched piece by piece;
- `Wildcards.Folding.ilike_splice_of_plain`: a word without special elements, spliced between two
  wildcards, is searched for as it stands;
- `Wildcards.sample`: a text that the pattern around a word matches, and that does not contain the
  word if it has special elements.
-/

namespace Coworking.Foundation

variable {α : Type} [DecidableEq α]

/-! ## §1 Tokens -/

/-- One step of a pattern. -/
inductive Token (α : Type)
  /-- Any text. -/
  | any
  /-- Any single element. -/
  | one
  /-- The element itself. -/
  | char (a : α)
  deriving DecidableEq

def Token.map (g : α → α) : Token α → Token α
  | .any => .any
  | .one => .one
  | .char a => .char (g a)

/-- Whether a text as a whole is matched. -/
def matchTokens : List (Token α) → List α → Bool
  | [], text => text.isEmpty
  | .any :: ts, text => text.tails.any fun rest => matchTokens ts rest
  | .one :: ts, text => !text.isEmpty && matchTokens ts text.tail
  | .char a :: ts, text => text.head? = some a && matchTokens ts text.tail

section Matching

variable {ts us : List (Token α)} {text : List α} {a : α}

@[simp] theorem matchTokens_nil : matchTokens ([] : List (Token α)) text = true ↔ text = [] := by
  simp [matchTokens]

theorem matchTokens_any :
    matchTokens (.any :: ts) text = true ↔ ∃ rest, rest <:+ text ∧ matchTokens ts rest = true := by
  simp [matchTokens, List.mem_tails]

theorem matchTokens_one :
    matchTokens (.one :: ts) text = true ↔
      ∃ a rest, text = a :: rest ∧ matchTokens ts rest = true := by
  cases text <;> simp [matchTokens]

theorem matchTokens_char :
    matchTokens (.char a :: ts) text = true ↔
      ∃ rest, text = a :: rest ∧ matchTokens ts rest = true := by
  cases text with
  | nil => simp [matchTokens]
  | cons b text =>
    simp only [matchTokens, List.head?_cons, Option.some_inj, List.tail_cons, Bool.and_eq_true,
      decide_eq_true_eq, List.cons.injEq]
    constructor
    · rintro ⟨rfl, h⟩
      exact ⟨text, ⟨rfl, rfl⟩, h⟩
    · rintro ⟨rest, ⟨rfl, rfl⟩, h⟩
      exact ⟨rfl, h⟩

/-- A pattern is matched piece by piece. -/
theorem matchTokens_append :
    matchTokens (ts ++ us) text = true ↔
      ∃ x y, text = x ++ y ∧ matchTokens ts x = true ∧ matchTokens us y = true := by
  induction ts generalizing text with
  | nil => simp
  | cons t ts ih =>
    rw [List.cons_append]
    cases t with
    | any =>
      -- What the wildcard takes belongs to the first piece.
      simp only [matchTokens_any, ih]
      constructor
      · rintro ⟨_, ⟨pre, rfl⟩, x, y, rfl, hx, hy⟩
        exact ⟨pre ++ x, y, (List.append_assoc ..).symm, ⟨x, ⟨pre, rfl⟩, hx⟩, hy⟩
      · rintro ⟨_, y, rfl, ⟨x, ⟨pre, rfl⟩, hx⟩, hy⟩
        exact ⟨x ++ y, ⟨pre, (List.append_assoc ..).symm⟩, x, y, rfl, hx, hy⟩
    | one =>
      simp only [matchTokens_one, ih]
      constructor
      · rintro ⟨a, _, rfl, x, y, rfl, hx, hy⟩
        exact ⟨a :: x, y, rfl, ⟨a, x, rfl, hx⟩, hy⟩
      · rintro ⟨_, y, rfl, ⟨a, x, rfl, hx⟩, hy⟩
        exact ⟨a, x ++ y, rfl, x, y, rfl, hx, hy⟩
    | char a =>
      simp only [matchTokens_char, ih]
      constructor
      · rintro ⟨_, rfl, x, y, rfl, hx, hy⟩
        exact ⟨a :: x, y, rfl, ⟨x, rfl, hx⟩, hy⟩
      · rintro ⟨_, y, rfl, ⟨x, rfl, hx⟩, hy⟩
        exact ⟨x ++ y, rfl, x, y, rfl, hx, hy⟩

/-- A pattern of plain elements is matched by one text. -/
theorem matchTokens_map_char {word : List α} :
    matchTokens (word.map .char) text = true ↔ text = word := by
  induction word generalizing text with
  | nil => simp
  | cons a word ih =>
    rw [List.map_cons, matchTokens_char]
    constructor
    · rintro ⟨rest, rfl, h⟩
      rw [ih.mp h]
    · rintro rfl
      exact ⟨word, rfl, ih.mpr rfl⟩

/-- A text that is matched stays so when its elements are replaced in the pattern as well. -/
theorem matchTokens_map {g : α → α} (h : matchTokens ts text = true) :
    matchTokens (ts.map (.map g)) (text.map g) = true := by
  induction ts generalizing text with
  | nil =>
    rw [matchTokens_nil.mp h]
    rfl
  | cons t ts ih =>
    rw [List.map_cons]
    cases t with
    | any =>
      obtain ⟨_, hsuffix, hrest⟩ := matchTokens_any.mp h
      exact matchTokens_any.mpr ⟨_, hsuffix.map g, ih hrest⟩
    | one =>
      obtain ⟨_, _, rfl, hrest⟩ := matchTokens_one.mp h
      exact matchTokens_one.mpr ⟨_, _, rfl, ih hrest⟩
    | char a =>
      obtain ⟨_, rfl, hrest⟩ := matchTokens_char.mp h
      exact matchTokens_char.mpr ⟨_, rfl, ih hrest⟩

/-- Between two wildcards a pattern is looked for anywhere in a text. -/
theorem matchTokens_around :
    matchTokens (.any :: (ts ++ [.any])) text = true ↔
      ∃ word, word <:+: text ∧ matchTokens ts word = true := by
  have hlast : ∀ y : List α, matchTokens [Token.any] y = true := fun y =>
    matchTokens_any.mpr ⟨[], List.nil_suffix, matchTokens_nil.mpr rfl⟩
  simp only [matchTokens_any, matchTokens_append, hlast, and_true]
  constructor
  · rintro ⟨_, ⟨pre, rfl⟩, word, rest, rfl, hword⟩
    exact ⟨word, ⟨pre, rest, List.append_assoc ..⟩, hword⟩
  · rintro ⟨word, ⟨pre, rest, rfl⟩, hword⟩
    exact ⟨word ++ rest, ⟨pre, (List.append_assoc ..).symm⟩, word, rest, rfl, hword⟩

end Matching

/-! ## §2 Reading a pattern -/

/-- The special elements of a pattern language. -/
structure Wildcards (α : Type) where
  /-- Stands for any text. -/
  any : α
  /-- Stands for any single element. -/
  one : α
  /-- Takes the next element as it is. -/
  escape : α
  /-- Stands for itself. -/
  letter : α
  any_ne_escape : any ≠ escape
  letter_plain : ¬(letter = escape ∨ letter = any ∨ letter = one)

namespace Wildcards

variable (w : Wildcards α)

def Special (a : α) : Prop := a = w.escape ∨ a = w.any ∨ a = w.one

instance (a : α) : Decidable (w.Special a) := inferInstanceAs (Decidable (_ ∨ _ ∨ _))

/-- The text has no special element. -/
def Plain (text : List α) : Prop := ∀ a ∈ text, ¬w.Special a

instance (text : List α) : Decidable (w.Plain text) :=
  inferInstanceAs (Decidable (∀ a ∈ text, ¬w.Special a))

/-- The pattern that looks for a text, spliced in as it is. -/
def splice (text : List α) : List α := w.any :: (text ++ [w.any])

/-- What an element stands for when it is not escaped. -/
def token (a : α) : Token α := if a = w.any then .any else if a = w.one then .one else .char a

/-- The tokens of a pattern; `none` when it ends with an escape that escapes nothing. -/
def tokens : List α → Option (List (Token α))
  | [] => some []
  | a :: rest =>
    if a = w.escape then
      match rest with
      | [] => none
      | b :: rest => (tokens rest).map (.char b :: ·)
    else (tokens rest).map (w.token a :: ·)

variable {w} {text rest : List α} {a b : α}

omit [DecidableEq α] in
theorem plain_cons : w.Plain (a :: text) ↔ ¬w.Special a ∧ w.Plain text := List.forall_mem_cons

theorem tokens_escape_cons :
    w.tokens (w.escape :: b :: rest) = (w.tokens rest).map (.char b :: ·) := by
  rw [tokens.eq_def]
  exact if_pos rfl

theorem tokens_cons (h : a ≠ w.escape) :
    w.tokens (a :: rest) = (w.tokens rest).map (w.token a :: ·) := by
  rw [tokens.eq_def]
  exact if_neg h

theorem token_of_not_special (h : ¬w.Special a) : w.token a = .char a := by
  simp only [Special, not_or] at h
  rw [token, if_neg h.2.1, if_neg h.2.2]

/-- Plain elements are their own tokens. -/
theorem tokens_append_of_plain (h : w.Plain text) :
    w.tokens (text ++ rest) = (w.tokens rest).map (text.map .char ++ ·) := by
  induction text with
  | nil => simp
  | cons a text ih =>
    obtain ⟨ha, htext⟩ := plain_cons.mp h
    have hescape : a ≠ w.escape := fun h => ha (.inl h)
    rw [List.cons_append, tokens_cons hescape, ih htext, token_of_not_special ha, Option.map_map]
    rfl

/-! ## §3 Samples -/

variable (w) in
/-- A text for a token. -/
def tokenSample : Token α → List α
  | .any => []
  | .one => [w.letter]
  | .char a => [a]

omit [DecidableEq α] in
/-- Every pattern matches a text. -/
theorem matchTokens_flatMap_tokenSample [DecidableEq α] (ts : List (Token α)) :
    matchTokens ts (ts.flatMap w.tokenSample) = true := by
  induction ts with
  | nil => rfl
  | cons t ts ih =>
    rw [List.flatMap_cons]
    cases t with
    | any => exact matchTokens_any.mpr ⟨_, List.suffix_refl _, ih⟩
    | one => exact matchTokens_one.mpr ⟨_, _, rfl, ih⟩
    | char a => exact matchTokens_char.mpr ⟨_, rfl, ih⟩

variable (w) in
/-- A text that the pattern around the given one matches. -/
def sample (text : List α) : List α :=
  ((w.tokens (text ++ [w.any])).getD []).flatMap w.tokenSample

variable (w) in
/-- What an element weighs: an escape more than the wildcard that it can make a letter of. -/
def cost (a : α) : Nat := if a = w.escape then 2 else if a = w.any ∨ a = w.one then 1 else 0

variable (w) in
def weight (text : List α) : Nat := (text.map w.cost).sum

theorem cost_eq_zero : w.cost a = 0 ↔ ¬w.Special a := by
  by_cases hescape : a = w.escape <;> by_cases hwild : a = w.any ∨ a = w.one <;>
    simp [cost, Special, hescape, hwild]

theorem weight_append : w.weight (text ++ rest) = w.weight text + w.weight rest := by
  simp [weight]

theorem weight_cons : w.weight (a :: text) = w.cost a + w.weight text := by
  simp [weight]

theorem weight_le_of_infix (h : rest <:+: text) : w.weight rest ≤ w.weight text :=
  (h.sublist.map w.cost).sum_le_sum fun _ _ => Nat.zero_le _

/-- The sample of an element weighs nothing. -/
theorem weight_tokenSample (h : a ≠ w.escape) : w.weight (w.tokenSample (w.token a)) = 0 := by
  have hletter : w.weight [w.letter] = 0 := by
    rw [weight_cons, cost_eq_zero.mpr w.letter_plain]
    rfl
  unfold token
  split
  · rfl
  split
  · exact hletter
  next hany hone =>
    have ha : ¬w.Special a := fun hspecial => hspecial.elim h fun hwild => hwild.elim hany hone
    rw [tokenSample, weight_cons, cost_eq_zero.mpr ha]
    rfl

/-- A text before a wildcard has tokens, and their sample weighs less than the text unless the text
is plain. -/
theorem exists_tokens_before_any (text : List α) :
    ∃ ts, w.tokens (text ++ [w.any]) = some ts ∧
      w.weight (ts.flatMap w.tokenSample) ≤ w.weight text ∧
      (w.weight (ts.flatMap w.tokenSample) = w.weight text → w.Plain text) := by
  induction text using tokens.induct w with
  | case1 =>
    refine ⟨[.any], ?_, le_rfl, fun _ => nofun⟩
    rw [List.nil_append, tokens_cons w.any_ne_escape, token, if_pos rfl]
    rfl
  | case2 =>
    -- The escape makes a letter of the wildcard.
    have hescape : w.weight [w.escape] = 2 := by simp [weight, cost]
    have hany : w.weight [w.any] = 1 := by simp [weight, cost, w.any_ne_escape]
    refine ⟨[.char w.any], tokens_escape_cons, ?_, ?_⟩
    · exact hany.trans_le (by omega)
    · exact fun h => absurd (hany.symm.trans (h.trans hescape)) (by decide)
  | case3 b rest ih =>
    obtain ⟨ts, hts, hle, -⟩ := ih
    have hescape : w.cost w.escape = 2 := if_pos rfl
    have hsample : w.weight ((Token.char b :: ts).flatMap w.tokenSample) + 2 ≤
        w.weight (w.escape :: b :: rest) := by
      rw [List.flatMap_cons, tokenSample, List.singleton_append, weight_cons, weight_cons,
        weight_cons]
      omega
    refine ⟨.char b :: ts, ?_, by omega, fun h => by omega⟩
    rw [List.cons_append, List.cons_append, tokens_escape_cons, hts]
    rfl
  | case4 a rest h ih =>
    obtain ⟨ts, hts, hle, hplain⟩ := ih
    have hsample : w.weight ((w.token a :: ts).flatMap w.tokenSample) =
        w.weight (ts.flatMap w.tokenSample) := by
      rw [List.flatMap_cons, weight_append, weight_tokenSample h, Nat.zero_add]
    refine ⟨w.token a :: ts, ?_, ?_, fun heq => ?_⟩
    · rw [List.cons_append, tokens_cons h, hts]
      rfl
    · rw [hsample, weight_cons]
      omega
    · rw [hsample, weight_cons] at heq
      exact plain_cons.mpr ⟨cost_eq_zero.mp (by omega), hplain (by omega)⟩

theorem weight_sample_lt (h : ¬w.Plain text) : w.weight (w.sample text) < w.weight text := by
  obtain ⟨ts, hts, hle, hplain⟩ := exists_tokens_before_any (w := w) text
  rw [sample, hts, Option.getD_some]
  exact lt_of_le_of_ne hle fun heq => h (hplain heq)

/-- The pattern around a text has tokens, and matches the sample. -/
theorem exists_tokens_splice (text : List α) :
    ∃ ts, w.tokens (w.splice text) = some ts ∧ matchTokens ts (w.sample text) = true := by
  obtain ⟨ts, hts, -⟩ := exists_tokens_before_any (w := w) text
  refine ⟨.any :: ts, ?_, ?_⟩
  · rw [splice, tokens_cons w.any_ne_escape, hts, token, if_pos rfl]
    rfl
  · rw [sample, hts, Option.getD_some]
    exact matchTokens_any.mpr ⟨_, List.suffix_refl _, matchTokens_flatMap_tokenSample ts⟩

/-! ## §4 Searching without regard to case -/

/-- A folding of the alphabet that neither makes special elements nor loses them. -/
structure Folding (w : Wildcards α) where
  fold : α → α
  special : ∀ {m}, w.Special m → ∀ a, fold a = m ↔ a = m

namespace Folding

variable (f : w.Folding)

/-- Whether a text is matched by a pattern, both of them folded. -/
def ilike (text pattern : List α) : Bool :=
  (w.tokens (pattern.map f.fold)).any fun ts => matchTokens ts (text.map f.fold)

/-- The text contains the word, both of them folded. -/
def Contains (text word : List α) : Prop := word.map f.fold <:+: text.map f.fold

instance (text word : List α) : Decidable (f.Contains text word) :=
  inferInstanceAs (Decidable (_ <:+: _))

variable {f}

omit [DecidableEq α] in
theorem fold_eq_self {m : α} (hm : w.Special m) : f.fold m = m := (f.special hm m).mpr rfl

omit [DecidableEq α] in
theorem special_fold : w.Special (f.fold a) ↔ w.Special a :=
  or_congr (f.special (.inl rfl) a)
    (or_congr (f.special (.inr (.inl rfl)) a) (f.special (.inr (.inr rfl)) a))

omit [DecidableEq α] in
theorem plain_map_fold : w.Plain (text.map f.fold) ↔ w.Plain text := by
  simp only [Plain, List.forall_mem_map, special_fold]

theorem cost_fold : w.cost (f.fold a) = w.cost a := by
  simp only [cost, f.special (.inl rfl), f.special (.inr (.inl rfl)), f.special (.inr (.inr rfl))]

theorem weight_map_fold : w.weight (text.map f.fold) = w.weight text := by
  rw [weight, List.map_map]
  exact congrArg List.sum (List.map_congr_left fun _ _ => cost_fold)

omit [DecidableEq α] in
theorem map_fold_splice : (w.splice text).map f.fold = w.splice (text.map f.fold) := by
  simp [splice, fold_eq_self (.inr (.inl rfl))]

/-- A text that is matched by the pattern around a plain word contains the word. -/
theorem ilike_splice_of_plain {word : List α} (h : w.Plain word) :
    f.ilike text (w.splice word) = true ↔ f.Contains text word := by
  have htokens : w.tokens (w.splice (word.map f.fold)) =
      some (.any :: ((word.map f.fold).map .char ++ [.any])) := by
    have hany : w.tokens [w.any] = some [.any] := by
      rw [tokens_cons w.any_ne_escape, token, if_pos rfl]
      rfl
    rw [splice, tokens_cons w.any_ne_escape, tokens_append_of_plain (plain_map_fold.mpr h), hany,
      token, if_pos rfl]
    rfl
  rw [ilike, map_fold_splice, htokens, Option.any_some, matchTokens_around]
  constructor
  · rintro ⟨_, hinfix, hword⟩
    rwa [matchTokens_map_char.mp hword] at hinfix
  · intro hinfix
    exact ⟨_, hinfix, matchTokens_map_char.mpr rfl⟩

theorem token_fold : w.token (f.fold a) = (w.token a).map f.fold := by
  simp only [token, f.special (.inr (.inl rfl)), f.special (.inr (.inr rfl))]
  split_ifs <;> rfl

/-- The tokens of a folded pattern are the folded tokens. -/
theorem tokens_map_fold (pattern : List α) :
    w.tokens (pattern.map f.fold) = (w.tokens pattern).map (List.map (.map f.fold)) := by
  induction pattern using tokens.induct w with
  | case1 => rfl
  | case2 => simp [tokens, fold_eq_self (.inl rfl)]
  | case3 b rest ih =>
    rw [List.map_cons, List.map_cons, fold_eq_self (.inl rfl), tokens_escape_cons, ih,
      tokens_escape_cons, Option.map_map, Option.map_map]
    rfl
  | case4 a rest h ih =>
    have hfold : f.fold a ≠ w.escape := (f.special (.inl rfl) a).not.mpr h
    rw [List.map_cons, tokens_cons hfold, ih, tokens_cons h, token_fold, Option.map_map,
      Option.map_map]
    rfl

/-- The pattern around a text matches its sample. -/
theorem ilike_sample (word : List α) : f.ilike (w.sample word) (w.splice word) = true := by
  obtain ⟨ts, hts, hmatch⟩ := exists_tokens_splice (w := w) word
  rw [ilike, tokens_map_fold, hts, Option.map_some, Option.any_some]
  exact matchTokens_map hmatch

/-- The sample of a text with special elements does not contain it. -/
theorem not_contains_sample {word : List α} (h : ¬w.Plain word) :
    ¬f.Contains (w.sample word) word := by
  intro hcontains
  have hle := weight_le_of_infix (w := w) hcontains
  rw [weight_map_fold, weight_map_fold] at hle
  exact absurd (weight_sample_lt h) (not_lt.mpr hle)

omit [DecidableEq α] in
/-- A plain text contains plain words only. -/
theorem plain_of_contains {word : List α} (h : f.Contains text word) (htext : w.Plain text) :
    w.Plain word :=
  plain_map_fold.mp fun a ha => plain_map_fold.mpr htext a (h.subset ha)

end Folding

end Wildcards

end Coworking.Foundation
