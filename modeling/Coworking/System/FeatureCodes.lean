import Coworking.Core.Unicode
import Coworking.Foundation.Spacing
import Coworking.Services.Space

/-!
# Feature Codes

What `_feature_code` makes of a text, once it is known how the text is lower-cased.

- `mem_codeForm_featureCode`: every code is of the form `[a-z0-9]+(_[a-z0-9]+)*`;
- `featureCode_spaced`: the code of a text is made of its parts;
- `featureCode_eq_self_iff`: the texts of that form are the ones that are their own code;
- `feature_codes_normal_form`: the three together.
-/

namespace Coworking

open Foundation

variable {u : Unicode} {rt : Runtime} {before after text lead tail : List Char}
  {parts : List (List Char)} {ch : Char}

/-! ## §1 The form of a code -/

/-- `[a-z0-9]+(_[a-z0-9]+)*`. -/
def codeForm : Language Char := joinedWords isCodeChar '_'

theorem isWord_of_mem_codeWords {rt : Runtime} {name : String} {w : List Char}
    (h : w ∈ codeWords rt name) : IsWord isCodeChar w := by
  unfold codeWords at h
  split at h
  · rw [List.mem_singleton] at h
    subst h
    exact ⟨by decide, List.all_eq_true.mp (by decide)⟩
  · exact isWord_of_mem_words h

/-- Every code is of the form, however the process lower-cases. -/
theorem mem_codeForm_featureCode (rt : Runtime) (raw : String) :
    (featureCode rt raw).toList ∈ codeForm := by
  rw [featureCode_eq, String.toList_ofList]
  exact mem_joinedWords_iff.mpr
    ⟨_, codeWords_ne_nil rt raw, fun _ => isWord_of_mem_codeWords, rfl⟩

/-! ## §2 Texts made of parts -/

/-- Not an ASCII letter or digit, and none in what it lower-cases to. -/
def Unicode.Separator (u : Unicode) (ch : Char) : Prop :=
  ch.isAlphanum = false ∧ ∀ x ∈ u.lower [ch], x.isAlphanum = false

instance (u : Unicode) (ch : Char) : Decidable (u.Separator ch) :=
  decidable_of_iff (ch.isAlphanum = false ∧ (u.lower [ch]).all fun x => !x.isAlphanum)
    (by simp [Unicode.Separator])

theorem toNat_of_isCodeChar (h : isCodeChar ch = true) :
    97 ≤ ch.toNat ∧ ch.toNat ≤ 122 ∨ 48 ≤ ch.toNat ∧ ch.toNat ≤ 57 := by
  simpa [isCodeChar, Char.le_def, UInt32.le_iff_toNat_le] using h

/-- What a code keeps is a letter or digit in ASCII, and in lower case. -/
theorem isCodeChar_ascii (h : isCodeChar ch = true) :
    ch.isAlphanum = true ∧ ch.toNat < 128 ∧ ch.toLower = ch := by
  have hrange := toNat_of_isCodeChar h
  refine ⟨?_, by omega, ?_⟩
  · show (decide (ch.val ≥ 65 ∧ ch.val ≤ 90) || (decide (ch.val ≥ 97) && decide (ch.val ≤ 122)) ||
      (decide (ch.val ≥ 48) && decide (ch.val ≤ 57))) = true
    simp [UInt32.le_iff_toNat_le]
    omega
  · unfold Char.toLower
    rw [dif_neg]
    simp [UInt32.le_iff_toNat_le]
    omega

theorem Unicode.isSpace_of_isCodeChar (h : isCodeChar ch = true) : u.isSpace ch = false := by
  have hrange := toNat_of_isCodeChar h
  rw [u.isSpace_ascii ch (by omega), decide_eq_false_iff_not]
  omega

theorem Unicode.separator_underscore : u.Separator '_' := by
  have hlower : u.lower ['_'] = ['_'] :=
    lowerIn_of_ascii (List.forall_mem_singleton.mpr (by decide))
  refine ⟨by decide, ?_⟩
  rw [hlower]
  exact List.forall_mem_singleton.mpr (by decide)

/-- Words of a code are already in lower case. -/
theorem Unicode.lowerIn_word (h : IsWord isCodeChar text) : u.lowerIn before text after = text :=
  lowerIn_of_ascii fun _ hch => (isCodeChar_ascii (h.2 _ hch)).2

/-- A run of separators keeps out of codes. -/
theorem Unicode.lowerIn_run (h : ∀ ch ∈ text, u.Separator ch) :
    ∀ x ∈ u.lowerIn before text after, isCodeChar x = false := by
  intro x hx
  rcases mem_lowerIn hx with rfl | rfl | ⟨ch, hch, hmem⟩
  · decide
  · decide
  · refine Bool.eq_false_iff.mpr fun hcode => ?_
    have hnot := (h ch hch).2 x hmem
    rw [(isCodeChar_ascii hcode).1] at hnot
    cases hnot

/-- Lower-casing keeps the parts; the runs between them may become other runs. -/
theorem Unicode.spaced_lowerIn (h : Spaced isCodeChar u.Separator parts text) :
    Spaced isCodeChar (isCodeChar · = false) parts (u.lowerIn before text after) := by
  induction h generalizing before with
  | word hw =>
    rw [lowerIn_word hw]
    exact .word hw
  | @cons w run text _ hw hne hrun _ ih =>
    rw [lowerIn_append, lowerIn_append, lowerIn_word hw]
    exact .cons hw (lowerIn_ne_nil hne) (lowerIn_run hrun) ih

/-- **The code of a text made of parts.** -/
theorem featureCode_spaced (h : Spaced isCodeChar u.Separator parts text)
    (hlead : ∀ ch ∈ lead, u.Separator ch) (htail : ∀ ch ∈ tail, u.Separator ch) :
    featureCode (rt.withUnicode u) (String.ofList (lead ++ (text ++ tail))) =
      String.ofList (['_'].intercalate parts) := by
  have hstrip : stripChars u.isSpace (lead ++ (text ++ tail)) =
      lead.dropWhile u.isSpace ++ (text ++ tail.rdropWhile u.isSpace) := by
    show ((lead ++ (text ++ tail)).dropWhile u.isSpace).rdropWhile u.isSpace = _
    have hspace : ∀ ch, isCodeChar ch = true → u.isSpace ch = false :=
      fun _ => Unicode.isSpace_of_isCodeChar
    rw [h.dropWhile_append hspace, h.rdropWhile_append hspace]
  have hlead' : ∀ ch ∈ lead.dropWhile u.isSpace, u.Separator ch :=
    fun ch hch => hlead ch ((List.dropWhile_sublist _).mem hch)
  have htail' : ∀ ch ∈ tail.rdropWhile u.isSpace, u.Separator ch :=
    fun ch hch => htail ch ((List.rdropWhile_prefix _ _).mem hch)
  have hwords : nameWords isCodeChar (rt.withUnicode u) (String.ofList (lead ++ (text ++ tail))) =
      parts := by
    show words isCodeChar (u.lowerIn [] (stripChars u.isSpace _) []) = parts
    rw [String.toList_ofList, hstrip, Unicode.lowerIn_append, Unicode.lowerIn_append]
    exact (Unicode.spaced_lowerIn h).words_eq (fun _ hx => hx) (Unicode.lowerIn_run hlead')
      (Unicode.lowerIn_run htail')
  rw [featureCode_eq, codeWords, hwords, if_neg h.ne_nil]

/-! ## §3 The normal form -/

/-- A text of the form is its own code. -/
theorem featureCode_of_mem_codeForm {code : String} (h : code.toList ∈ codeForm) :
    featureCode (rt.withUnicode u) code = code := by
  obtain ⟨ws, hne, hws, hcode⟩ := mem_joinedWords_iff.mp h
  have hspaced : Spaced isCodeChar u.Separator ws (['_'].intercalate ws) :=
    spaced_intercalate Unicode.separator_underscore hne hws
  have hofList : code = String.ofList (['_'].intercalate ws) := by
    rw [← hcode, String.ofList_toList]
  have hself : featureCode (rt.withUnicode u)
      (String.ofList ([] ++ (['_'].intercalate ws ++ []))) = _ :=
    featureCode_spaced hspaced (by simp) (by simp)
  rw [List.nil_append, List.append_nil] at hself
  rw [hofList]
  exact hself

/-- The texts of the form are the ones that are their own code. -/
theorem featureCode_eq_self_iff {code : String} :
    featureCode (rt.withUnicode u) code = code ↔ code.toList ∈ codeForm := by
  refine ⟨fun h => ?_, featureCode_of_mem_codeForm⟩
  rw [← h]
  exact mem_codeForm_featureCode _ _

/-- `_feature_code` of a process, for every text. -/
structure CodesNormal (rt : Runtime) (u : Unicode) : Prop where
  form : ∀ raw, (featureCode rt raw).toList ∈ codeForm
  idempotent : ∀ raw, featureCode rt (featureCode rt raw) = featureCode rt raw
  /-- Parts over `[a-z0-9]` with runs of separators between them, and optionally around them. -/
  parts : ∀ parts text lead tail, Spaced isCodeChar u.Separator parts text →
    (∀ ch ∈ lead, u.Separator ch) → (∀ ch ∈ tail, u.Separator ch) →
    featureCode rt (String.ofList (lead ++ (text ++ tail))) =
      String.ofList (['_'].intercalate parts)

/-- **Feature codes are a normal form.**  Every code is nonempty and of the form
`[a-z0-9]+(_[a-z0-9]+)*`, is its own code, and is made of the parts of the text. -/
theorem feature_codes_normal_form (rt : Runtime) (u : Unicode) :
    CodesNormal (rt.withUnicode u) u where
  form := mem_codeForm_featureCode _
  idempotent := fun raw => featureCode_of_mem_codeForm (mem_codeForm_featureCode _ raw)
  parts := fun _ _ _ _ h hlead htail => featureCode_spaced h hlead htail

theorem feature_codes_normal_form_wifi :
    featureCode (Runtime.plain.withUnicode .ascii) " wi-fi☕" = "wi_fi" := by
  have hfi : Spaced isCodeChar Unicode.ascii.Separator [['f', 'i']] ['f', 'i'] :=
    .word (by decide)
  have hwifi : Spaced isCodeChar Unicode.ascii.Separator [['w', 'i'], ['f', 'i']]
      (['w', 'i'] ++ (['-'] ++ ['f', 'i'])) :=
    .cons (by decide) (by decide) (List.forall_mem_singleton.mpr (by decide)) hfi
  have h := (feature_codes_normal_form .plain .ascii).parts _ _ [' '] ['☕'] hwifi
    (List.forall_mem_singleton.mpr (by decide)) (List.forall_mem_singleton.mpr (by decide))
  exact h

end Coworking
