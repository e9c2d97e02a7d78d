import Coworking.Core.Runtime

/-!
# Unicode Text

`str.lower` and `str.isspace` over the tables of the Unicode character database.  A character may
lower-case to several, and a capital sigma lower-cases by its neighbours.

- `Unicode.lower`: the characters of a text, each lower-cased where it stands;
- `Unicode.lowerIn_append`: a text may be lower-cased piece by piece;
- `Runtime.withUnicode`: a process whose texts are handled so.
-/

namespace Coworking

/-! ## §1 The tables -/

/-- What the character database says of each character; the laws are about those in ASCII. -/
structure Unicode where
  /-- The full lower-case mapping. -/
  toLowerFull : Char → List Char
  isCased : Char → Bool
  isCaseIgnorable : Char → Bool
  isSpace : Char → Bool
  toLowerFull_ne_nil : ∀ ch, toLowerFull ch ≠ []
  toLowerFull_ascii : ∀ ch, ch.toNat < 128 → toLowerFull ch = [ch.toLower]
  /-- Tab to carriage return, and the separators and the space. -/
  isSpace_ascii : ∀ ch, ch.toNat < 128 →
    isSpace ch = decide (9 ≤ ch.toNat ∧ ch.toNat ≤ 13 ∨ 28 ≤ ch.toNat ∧ ch.toNat ≤ 32)

/-- The database restricted to ASCII: no other character is a space or has a case. -/
def Unicode.ascii : Unicode where
  toLowerFull := fun ch => [ch.toLower]
  isCased := Char.isAlpha
  isCaseIgnorable := fun ch => ch.toNat ∈ [0x27, 0x2e, 0x3a, 0x5e, 0x60]
  isSpace := fun ch =>
    decide (9 ≤ ch.toNat ∧ ch.toNat ≤ 13 ∨ 28 ≤ ch.toNat ∧ ch.toNat ≤ 32)
  toLowerFull_ne_nil := fun _ => List.cons_ne_nil _ _
  toLowerFull_ascii := fun _ _ => rfl
  isSpace_ascii := fun _ _ => rfl

variable {u : Unicode} {before after text : List Char} {ch : Char}

/-! ## §2 Lower case -/

/-- A sigma ends a word: among the characters that are not ignored, a cased one is the nearest
before it and none the nearest after it. -/
def Unicode.finalSigma (u : Unicode) (before after : List Char) : Bool :=
  (before.find? fun ch => !u.isCaseIgnorable ch).any u.isCased &&
    !(after.find? fun ch => !u.isCaseIgnorable ch).any u.isCased

/-- What a character becomes after `before`, nearest first, and before `after`. -/
def Unicode.lowerAt (u : Unicode) (before : List Char) (ch : Char) (after : List Char) :
    List Char :=
  if ch = 'Σ' then [if u.finalSigma before after then 'ς' else 'σ'] else u.toLowerFull ch

/-- The text between `before` and `after` in lower case. -/
def Unicode.lowerIn (u : Unicode) : List Char → List Char → List Char → List Char
  | _, [], _ => []
  | before, ch :: text, after =>
    u.lowerAt before ch (text ++ after) ++ u.lowerIn (ch :: before) text after

/-- `str.lower`. -/
def Unicode.lower (u : Unicode) (text : List Char) : List Char := u.lowerIn [] text []

example : Unicode.ascii.lower "AΣ. ΣA".toList = "aς. σa".toList := by decide

/-- Piece by piece, with the other pieces as context. -/
theorem Unicode.lowerIn_append (u : Unicode) (before a b after : List Char) :
    u.lowerIn before (a ++ b) after =
      u.lowerIn before a (b ++ after) ++ u.lowerIn (a.reverse ++ before) b after := by
  induction a generalizing before with
  | nil => rfl
  | cons ch a ih => simp [lowerIn, ih]

theorem Unicode.lowerAt_ne_nil : u.lowerAt before ch after ≠ [] := by
  unfold lowerAt
  split
  · exact List.cons_ne_nil _ _
  · exact u.toLowerFull_ne_nil ch

theorem Unicode.lowerIn_ne_nil (h : text ≠ []) : u.lowerIn before text after ≠ [] := by
  obtain ⟨ch, text, rfl⟩ := List.exists_cons_of_ne_nil h
  exact List.append_ne_nil_of_left_ne_nil lowerAt_ne_nil _

/-- A text of characters that lower-case to themselves stays as it is. -/
theorem Unicode.lowerIn_of_ascii (h : ∀ ch ∈ text, ch.toNat < 128 ∧ ch.toLower = ch) :
    u.lowerIn before text after = text := by
  induction text generalizing before with
  | nil => rfl
  | cons ch text ih =>
    obtain ⟨hascii, hlower⟩ := h ch List.mem_cons_self
    have hsigma : ch ≠ 'Σ' := by
      rintro rfl
      exact absurd hascii (by decide)
    rw [lowerIn, lowerAt, if_neg hsigma, u.toLowerFull_ascii ch hascii, hlower,
      ih fun x hx => h x (List.mem_cons_of_mem _ hx)]
    rfl

/-- The lower case of one character by itself. -/
theorem Unicode.lower_singleton : u.lower [ch] = u.lowerAt [] ch [] := by
  simp [lower, lowerIn]

/-- Neighbours only matter to the form of a sigma. -/
theorem Unicode.mem_lowerAt {x : Char} (h : x ∈ u.lowerAt before ch after) :
    x = 'ς' ∨ x = 'σ' ∨ x ∈ u.lower [ch] := by
  rw [lower_singleton]
  unfold lowerAt at h ⊢
  split at h
  next hsigma =>
    rw [List.mem_singleton] at h
    subst h
    split
    · exact .inl rfl
    · exact .inr (.inl rfl)
  next hsigma =>
    rw [if_neg hsigma]
    exact .inr (.inr h)

theorem Unicode.mem_lowerIn {x : Char} (h : x ∈ u.lowerIn before text after) :
    x = 'ς' ∨ x = 'σ' ∨ ∃ ch ∈ text, x ∈ u.lower [ch] := by
  induction text generalizing before with
  | nil => cases h
  | cons ch text ih =>
    rw [lowerIn, List.mem_append] at h
    rcases h with hhead | hrest
    · rcases mem_lowerAt hhead with hfinal | hsigma | hmem
      · exact .inl hfinal
      · exact .inr (.inl hsigma)
      · exact .inr (.inr ⟨ch, List.mem_cons_self, hmem⟩)
    · rcases ih hrest with hfinal | hsigma | ⟨ch', hch', hmem⟩
      · exact .inl hfinal
      · exact .inr (.inl hsigma)
      · exact .inr (.inr ⟨ch', List.mem_cons_of_mem _ hch', hmem⟩)

/-- A process with this character database. -/
def Runtime.withUnicode (rt : Runtime) (u : Unicode) : Runtime :=
  { rt with lower := u.lower, isSpace := u.isSpace }

end Coworking
