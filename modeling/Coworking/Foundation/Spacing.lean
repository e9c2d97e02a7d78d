import Coworking.Foundation.Folding
import Mathlib.Computability.Language

/-!
# Spaced Words

Texts that consist of given words with runs of separators between them.

- `Spaced.words_eq`: the words of a spaced text are the words it was made of;
- `spaced_intercalate`: words joined by one separator are a spaced text;
- `joinedWords`, `mem_joinedWords_iff`: the grammar of such texts.
-/

namespace Coworking.Foundation

open Computability

variable {α : Type} {letter : α → Bool} {sep : α → Prop} {a : α} {w run text lead tail : List α}
  {ws : List (List α)}

/-! ## §1 Words and runs -/

/-- A nonempty text of letters. -/
def IsWord (letter : α → Bool) (w : List α) : Prop := w ≠ [] ∧ ∀ a ∈ w, letter a = true

instance [DecidableEq α] (letter : α → Bool) (w : List α) : Decidable (IsWord letter w) :=
  inferInstanceAs (Decidable (_ ∧ _))

theorem isWord_of_mem_words (h : w ∈ words letter text) : IsWord letter w :=
  ⟨ne_nil_of_mem_words h, fun _ => letter_of_mem_words h⟩

/-- A run without letters in front adds no words. -/
theorem words_run_append (h : ∀ a ∈ run, letter a = false) :
    words letter (run ++ text) = words letter text := by
  induction run with
  | nil => rfl
  | cons a run ih =>
    rw [List.cons_append, words_cons_of_not (h a List.mem_cons_self)]
    exact ih fun b hb => h b (List.mem_cons_of_mem _ hb)

/-- A word in front, when no letter follows. -/
theorem words_word_append (hw : IsWord letter w) (h : ∀ a ∈ text.head?, letter a = false) :
    words letter (w ++ text) = w :: words letter text := by
  obtain ⟨hne, hletters⟩ := hw
  induction w with
  | nil => exact absurd rfl hne
  | cons a w ih =>
    have ha : letter a = true := hletters a List.mem_cons_self
    cases w with
    | nil => exact words_cons_of_head ha h
    | cons b w =>
      have hb : letter b = true := hletters b (List.mem_cons_of_mem _ List.mem_cons_self)
      have hrest := ih (List.cons_ne_nil _ _) fun x hx => hletters x (List.mem_cons_of_mem _ hx)
      rw [List.cons_append, List.cons_append, words_cons_cons ha hb, ← List.cons_append, hrest]
      rfl

/-! ## §2 Spaced texts -/

/-- The text consists of the words, with a nonempty run of separators between any two. -/
inductive Spaced (letter : α → Bool) (sep : α → Prop) : List (List α) → List α → Prop
  | word {w : List α} : IsWord letter w → Spaced letter sep [w] w
  | cons {w run text : List α} {ws : List (List α)} :
      IsWord letter w → run ≠ [] → (∀ a ∈ run, sep a) → Spaced letter sep ws text →
      Spaced letter sep (w :: ws) (w ++ (run ++ text))

theorem Spaced.ne_nil (h : Spaced letter sep ws text) : ws ≠ [] := by
  cases h <;> exact List.cons_ne_nil _ _

/-- A spaced text starts with a letter. -/
theorem Spaced.head (h : Spaced letter sep ws text) :
    ∃ a rest, text = a :: rest ∧ letter a = true := by
  have hword : ∀ w, IsWord letter w → ∀ rest, ∃ a rest', w ++ rest = a :: rest' ∧
      letter a = true := by
    intro w hw rest
    obtain ⟨a, w, rfl⟩ := List.exists_cons_of_ne_nil hw.1
    exact ⟨a, w ++ rest, rfl, hw.2 a List.mem_cons_self⟩
  cases h with
  | word hw => simpa using hword _ hw []
  | cons hw => exact hword _ hw _

/-- A spaced text ends with a letter. -/
theorem Spaced.last (h : Spaced letter sep ws text) :
    ∃ front a, text = front ++ [a] ∧ letter a = true := by
  induction h with
  | @word w hw =>
    exact ⟨w.dropLast, w.getLast hw.1, (List.dropLast_append_getLast hw.1).symm,
      hw.2 _ (List.getLast_mem hw.1)⟩
  | @cons w run _ _ _ _ _ _ ih =>
    obtain ⟨front, a, rfl, ha⟩ := ih
    exact ⟨w ++ (run ++ front), a, by simp, ha⟩

/-- **The words of a spaced text**, whatever runs without letters stand before and behind it. -/
theorem Spaced.words_eq (h : Spaced letter sep ws text) (hsep : ∀ a, sep a → letter a = false)
    (hlead : ∀ a ∈ lead, letter a = false) (htail : ∀ a ∈ tail, letter a = false) :
    words letter (lead ++ (text ++ tail)) = ws := by
  rw [words_run_append hlead]
  induction h with
  | word hw =>
    have hnil : words letter tail = [] := by
      rw [← List.append_nil tail, words_run_append htail, words_nil]
    rw [words_word_append hw fun a ha => htail a (List.mem_of_mem_head? ha), hnil]
  | @cons w run text ws hw hne hrun _ ih =>
    have hletters : ∀ a ∈ run, letter a = false := fun a ha => hsep a (hrun a ha)
    obtain ⟨a, run, rfl⟩ := List.exists_cons_of_ne_nil hne
    have hhead : ∀ b ∈ ((a :: run ++ text) ++ tail).head?, letter b = false := by
      simpa using hletters a List.mem_cons_self
    rw [List.append_assoc, words_word_append hw hhead, List.append_assoc,
      words_run_append hletters, ih]

/-- Dropping from the front what is no letter stops at the first word. -/
theorem Spaced.dropWhile_append {p : α → Bool} (h : Spaced letter sep ws text)
    (hp : ∀ a, letter a = true → p a = false) :
    (lead ++ (text ++ tail)).dropWhile p = lead.dropWhile p ++ (text ++ tail) := by
  obtain ⟨a, rest, rfl, ha⟩ := h.head
  rw [List.dropWhile_append]
  split
  next hnil => simp [List.isEmpty_iff.mp hnil, hp a ha]
  next => rfl

/-- Dropping from the end what is no letter stops at the last word. -/
theorem Spaced.rdropWhile_append {p : α → Bool} (h : Spaced letter sep ws text)
    (hp : ∀ a, letter a = true → p a = false) :
    (lead ++ (text ++ tail)).rdropWhile p = lead ++ (text ++ tail.rdropWhile p) := by
  obtain ⟨front, a, rfl, ha⟩ := h.last
  simp only [List.rdropWhile, List.reverse_append, List.append_assoc, List.dropWhile_append,
    List.reverse_cons, List.reverse_nil, List.nil_append]
  split
  next hnil => simp [List.isEmpty_iff.mp hnil, hp a ha]
  next => simp

/-! ## §3 Joined words -/

/-- Words joined by one separator. -/
theorem spaced_intercalate {s : α} (hs : sep s) (hne : ws ≠ []) (h : ∀ w ∈ ws, IsWord letter w) :
    Spaced letter sep ws ([s].intercalate ws) := by
  induction ws with
  | nil => exact absurd rfl hne
  | cons w ws ih =>
    have hw : IsWord letter w := h w List.mem_cons_self
    cases ws with
    | nil => simpa using Spaced.word hw
    | cons w' ws =>
      have hrest := ih (List.cons_ne_nil _ _) fun x hx => h x (List.mem_cons_of_mem _ hx)
      rw [List.intercalate_cons_cons, List.append_assoc]
      exact .cons hw (List.cons_ne_nil _ _) (by simpa using hs) hrest

/-- `[letter]+`. -/
def wordLanguage (letter : α → Bool) : Language α := {w | IsWord letter w}

/-- `[letter]+(sep[letter]+)*`. -/
def joinedWords (letter : α → Bool) (s : α) : Language α :=
  wordLanguage letter * ({[s]} * wordLanguage letter)∗

/-- The words after the first, each with the separator before it. -/
private theorem intercalate_eq_append (s : α) (w : List α) (ws : List (List α)) :
    [s].intercalate (w :: ws) = w ++ (ws.map (s :: ·)).flatten := by
  induction ws generalizing w with
  | nil => simp
  | cons w' ws ih => rw [List.intercalate_cons_cons, ih]; simp

/-- **The grammar of joined words.** -/
theorem mem_joinedWords_iff {s : α} :
    text ∈ joinedWords letter s ↔
      ∃ ws, ws ≠ [] ∧ (∀ w ∈ ws, IsWord letter w) ∧ text = [s].intercalate ws := by
  constructor
  · intro h
    obtain ⟨w, hw, _, ⟨parts, rfl, hparts⟩, rfl⟩ := Language.mem_mul.mp h
    -- Each part is a word with the separator before it.
    have hword : ∀ part ∈ parts, ∃ v, IsWord letter v ∧ s :: v = part := by
      intro part hpart
      obtain ⟨_, rfl, v, hv, rfl⟩ := Language.mem_mul.mp (hparts part hpart)
      exact ⟨v, hv, rfl⟩
    have hws : ∃ vs : List (List α), (∀ v ∈ vs, IsWord letter v) ∧ vs.map (s :: ·) = parts := by
      clear h hparts
      induction parts with
      | nil => exact ⟨[], by simp, rfl⟩
      | cons part parts ih =>
        obtain ⟨v, hv, rfl⟩ := hword part List.mem_cons_self
        obtain ⟨vs, hvs, rfl⟩ := ih fun x hx => hword x (List.mem_cons_of_mem _ hx)
        exact ⟨v :: vs, by simpa using ⟨hv, hvs⟩, rfl⟩
    obtain ⟨vs, hvs, rfl⟩ := hws
    exact ⟨w :: vs, List.cons_ne_nil _ _, by simpa using ⟨hw, hvs⟩,
      (intercalate_eq_append s w vs).symm⟩
  · rintro ⟨ws, hne, hws, rfl⟩
    obtain ⟨w, ws, rfl⟩ := List.exists_cons_of_ne_nil hne
    rw [intercalate_eq_append]
    refine Language.append_mem_mul (hws w List.mem_cons_self) (Language.join_mem_kstar ?_)
    intro part hpart
    obtain ⟨v, hv, rfl⟩ := List.mem_map.mp hpart
    exact Language.append_mem_mul (a := [s]) rfl (hws v (List.mem_cons_of_mem _ hv))

end Coworking.Foundation
