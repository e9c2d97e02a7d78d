import Mathlib.Data.List.DropRight
import Mathlib.Data.List.Nodup

/-!
# Words and Representatives

Texts that are compared by their words, and lists in which each element stands for the others
that are folded to the same code.

- `words`: the words of a text over an alphabet; over a smaller alphabet they are the words of
  its words (`words_eq_flatMap`), so texts with the same words over the one have the same over
  the other;
- `intercalate_inj`: words joined by a separator can be read back;
- `countP_rep_iff`: when a list of representatives has each element once.
-/

namespace Coworking.Foundation

variable {α κ : Type}

/-! ## §1 Words -/

/-- The words of a text: what is left between the elements that are no letters. -/
def words (letter : α → Bool) (text : List α) : List (List α) :=
  (text.splitOnP fun a => !letter a).filter (!·.isEmpty)

variable {letter : α → Bool} {a b : α} {text : List α}

@[simp] theorem words_nil : words letter [] = [] := by simp [words, List.splitOnP_nil]

/-- What is no letter belongs to no word. -/
theorem words_cons_of_not (h : letter a = false) :
    words letter (a :: text) = words letter text := by
  simp [words, List.splitOnP_cons_eq_if_modifyHead, h]

/-- A letter before a letter belongs to the word of that letter. -/
theorem words_cons_cons (ha : letter a = true) (hb : letter b = true) :
    words letter (a :: b :: text) = (words letter (b :: text)).modifyHead (a :: ·) := by
  obtain ⟨w, ws, hws⟩ := List.exists_cons_of_ne_nil
    (List.splitOnP_ne_nil (fun a => !letter a) text)
  simp [words, List.splitOnP_cons_eq_if_modifyHead, ha, hb, hws]

/-- A letter before anything else is a word. -/
theorem words_cons_of_head (ha : letter a = true) (h : ∀ b ∈ text.head?, letter b = false) :
    words letter (a :: text) = [a] :: words letter text := by
  cases text with
  | nil => simp [words, List.splitOnP_cons_eq_if_modifyHead, List.splitOnP_nil, ha]
  | cons b text =>
    have hb : letter b = false := h b rfl
    simp [words, List.splitOnP_cons_eq_if_modifyHead, ha, hb]

/-- A text that starts with a letter has a word. -/
theorem words_ne_nil (ha : letter a = true) : words letter (a :: text) ≠ [] := by
  induction text generalizing a with
  | nil =>
    rw [words_cons_of_head ha (by simp)]
    exact List.cons_ne_nil _ _
  | cons b text ih =>
    cases hb : letter b with
    | false =>
      rw [words_cons_of_head ha (by simpa using hb)]
      exact List.cons_ne_nil _ _
    | true => simpa [words_cons_cons ha hb] using ih hb

/-- A text of letters is one word. -/
theorem words_of_letters (hne : text ≠ []) (h : ∀ a ∈ text, letter a = true) :
    words letter text = [text] := by
  rw [words, List.splitOnP_eq_singleton fun a ha => by simp [h a ha]]
  simp [hne]

theorem ne_nil_of_mem_words {w : List α} (h : w ∈ words letter text) : w ≠ [] := by
  have hw := (List.mem_filter.mp h).2
  simpa using hw

/-- Words are made of letters. -/
theorem letter_of_mem_words {w : List α} (h : w ∈ words letter text) (ha : a ∈ w) :
    letter a = true := by
  induction text generalizing w a with
  | nil => simp at h
  | cons b text ih =>
    cases hb : letter b with
    | false => exact ih (words_cons_of_not hb ▸ h) ha
    | true =>
      rcases text with - | ⟨c, text⟩
      · rw [words_cons_of_head hb (by simp), words_nil, List.mem_singleton] at h
        rw [h, List.mem_singleton] at ha
        exact ha ▸ hb
      cases hc : letter c with
      | false =>
        rw [words_cons_of_head hb (by simpa using hc), List.mem_cons] at h
        rcases h with rfl | h
        · exact (List.mem_singleton.mp ha) ▸ hb
        · exact ih h ha
      | true =>
        -- The letter is put before the first word of the rest.
        rw [words_cons_cons hb hc] at h
        rcases hws : words letter (c :: text) with - | ⟨w', ws⟩
        · simp [hws] at h
        rw [hws] at h ih
        rcases List.mem_cons.mp h with rfl | h
        · rcases List.mem_cons.mp ha with rfl | ha
          · exact hb
          · exact ih List.mem_cons_self ha
        · exact ih (List.mem_cons_of_mem _ h) ha

/-- Splitting at more elements splits the pieces. -/
private theorem splitOnP_eq_flatMap {p q : α → Bool} (h : ∀ a, p a = true → q a = true)
    (text : List α) : text.splitOnP q = (text.splitOnP p).flatMap (·.splitOnP q) := by
  induction text with
  | nil => simp [List.splitOnP_nil]
  | cons a text ih =>
    rw [List.splitOnP_cons_eq_if_modifyHead (p := q),
      List.splitOnP_cons_eq_if_modifyHead (p := p), ih]
    cases hp : p a with
    | true => simp [h a hp, List.splitOnP_nil]
    | false =>
      -- Neither the first piece nor what it splits into is missing.
      obtain ⟨piece, pieces, hpieces⟩ := List.exists_cons_of_ne_nil (List.splitOnP_ne_nil p text)
      obtain ⟨w, ws, hws⟩ := List.exists_cons_of_ne_nil (List.splitOnP_ne_nil q piece)
      cases hq : q a <;> simp [hpieces, hws, hq, List.splitOnP_cons_eq_if_modifyHead]

/-- **The words over a smaller alphabet** are found inside the words. -/
theorem words_eq_flatMap {fine coarse : α → Bool} (h : ∀ a, fine a = true → coarse a = true)
    (text : List α) : words fine text = (words coarse text).flatMap (words fine) := by
  have hsplit := splitOnP_eq_flatMap (p := fun a => !coarse a) (q := fun a => !fine a)
    (fun a ha => by
      cases hf : fine a with
      | false => rfl
      | true => simp [h a hf] at ha) text
  rw [words, hsplit, List.filter_flatMap]
  show ((text.splitOnP fun a => !coarse a).flatMap fun piece => words fine piece) = _
  rw [words]
  induction text.splitOnP fun a => !coarse a with
  | nil => rfl
  | cons piece pieces ih =>
    -- An empty piece has no words.
    rcases piece with - | ⟨a, piece⟩ <;> simp [ih]

/-- Where the words have letters of the smaller alphabet only, they are the same over both. -/
theorem words_eq_words {fine coarse : α → Bool} (h : ∀ a, fine a = true → coarse a = true)
    (hfine : ∀ w ∈ words coarse text, ∀ a ∈ w, fine a = true) :
    words fine text = words coarse text := by
  rw [words_eq_flatMap h]
  calc (words coarse text).flatMap (words fine)
      = (words coarse text).flatMap fun w => [w] :=
        List.flatMap_congr fun w hw => words_of_letters (ne_nil_of_mem_words hw) (hfine w hw)
    _ = words coarse text := List.flatMap_singleton' _

/-! ## §2 Joined words -/

/-- What is put before the first word is put before the joined words. -/
theorem intercalate_modifyHead {sep : List α} {ws : List (List α)} (h : ws ≠ []) (a : α) :
    sep.intercalate (ws.modifyHead (a :: ·)) = a :: sep.intercalate ws := by
  obtain ⟨w, ws, rfl⟩ := List.exists_cons_of_ne_nil h
  cases ws <;> simp [List.intercalate_cons_cons]

theorem intercalate_eq_nil {sep : List α} {ws : List (List α)} (h : ∀ w ∈ ws, w ≠ []) :
    sep.intercalate ws = [] ↔ ws = [] := by
  rcases ws with - | ⟨w, ws⟩
  · simp
  · have hw : w ≠ [] := h w List.mem_cons_self
    cases ws <;> simp [List.intercalate_cons_cons, hw]

/-- One more letter in front: it goes to the first word, or stands before the separator. -/
theorem intercalate_words_cons (ha : letter a = true) (sep : α) :
    [sep].intercalate (words letter (a :: text)) =
      a :: if text.head?.all letter ∨ words letter text = [] then
        [sep].intercalate (words letter text)
      else sep :: [sep].intercalate (words letter text) := by
  rcases text with - | ⟨b, text⟩
  · rw [words_cons_of_head ha (by simp)]
    simp
  cases hb : letter b with
  | true => simp [hb, words_cons_cons ha hb, intercalate_modifyHead (words_ne_nil hb)]
  | false =>
    rw [words_cons_of_head ha (by simpa using hb)]
    -- What follows is separated, unless no word follows.
    by_cases hwords : words letter (b :: text) = []
    · simp [hwords]
    · simp [hb, hwords, List.intercalate_cons_of_ne_nil]

/-- **Reading back.**  Joined words that do not contain the separator determine the words. -/
theorem intercalate_inj [DecidableEq α] {sep : α} {ws ws' : List (List α)}
    (h : ∀ w ∈ ws, sep ∉ w) (h' : ∀ w ∈ ws', sep ∉ w) (hne : ws ≠ []) (hne' : ws' ≠ []) :
    [sep].intercalate ws = [sep].intercalate ws' ↔ ws = ws' := by
  refine ⟨fun heq => ?_, fun heq => heq ▸ rfl⟩
  rw [← List.splitOn_intercalate sep h hne, heq, List.splitOn_intercalate sep h' hne']

/-- Dropping from the end reaches an element when everything after it is dropped. -/
theorem rdropWhile_cons (p : α → Bool) (a : α) (text : List α) :
    (a :: text).rdropWhile p =
      if text.rdropWhile p = [] then if p a then [] else [a] else a :: text.rdropWhile p := by
  simp only [List.rdropWhile, List.reverse_cons, List.dropWhile_append, List.reverse_eq_nil_iff,
    List.isEmpty_iff]
  split
  · cases hp : p a <;> simp [hp]
  · simp

/-! ## §3 Representatives -/

/-- **Each element once.**  Let `rep` choose for each element of a list one with its code.  Then
the chosen elements have exactly one that is the same as `a`, for each `a` of the list, when no
two elements of the list have one code and each chosen element is the same as what it stands for. -/
theorem countP_rep_iff [DecidableEq κ] {same : α → α → Prop} [DecidableRel same] {code : α → κ}
    {rep : α → α} {l : List α} (hsame : Equivalence same)
    (hcode : ∀ {a b}, same a b → code a = code b) (hrep : ∀ a ∈ l, code (rep a) = code a)
    (hchoice : ∀ a ∈ l, ∀ b ∈ l, code a = code b → rep a = rep b) :
    (∀ a ∈ l, (l.map rep).countP (same a) = 1) ↔
      (l.map code).Nodup ∧ ∀ a ∈ l, same (rep a) a := by
  -- Where `a` is the same as its representative, codes decide what else is.
  have hcount : ∀ a ∈ l, same (rep a) a →
      (l.map rep).countP (same a) = (l.map code).count (code a) := by
    intro a ha hsame_a
    rw [List.countP_map, List.count, List.countP_map]
    refine List.countP_congr fun b hb => ?_
    simp only [Function.comp_apply, decide_eq_true_eq, beq_iff_eq]
    constructor
    · intro h
      rw [← hrep b hb, hcode h]
    · intro h
      rw [hchoice b hb a ha h]
      exact hsame.symm hsame_a
  rw [List.nodup_iff_count_eq_one]
  simp only [List.forall_mem_map]
  constructor
  · intro h
    have hself : ∀ a ∈ l, same (rep a) a := by
      intro a ha
      -- Some representative is the same as `a`, and has its code.
      have hpos : 0 < (l.map rep).countP (same a) := (h a ha).symm ▸ Nat.one_pos
      obtain ⟨x, hx, hax⟩ := List.countP_pos_iff.mp hpos
      obtain ⟨b, hb, rfl⟩ := List.mem_map.mp hx
      have hax : same a (rep b) := of_decide_eq_true hax
      have hcode_b : code b = code a := by rw [← hrep b hb, hcode hax]
      exact hchoice b hb a ha hcode_b ▸ hsame.symm hax
    exact ⟨fun a ha => (hcount a ha (hself a ha)) ▸ h a ha, hself⟩
  · rintro ⟨hnodup, hself⟩ a ha
    rw [hcount a ha (hself a ha)]
    exact hnodup a ha

end Coworking.Foundation
