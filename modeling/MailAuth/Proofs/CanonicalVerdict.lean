import MailAuth.Proofs.Text.Lowercase
import MailAuth.Verdict

/-!
# Verdicts are canonical

The verdict of a word is a canonical form of the word in lower case (`Verdict.canonical_ofText`):
its text is that lower case, two words have one verdict exactly if they have the same lower case,
and the text of a verdict has this verdict again. A reserved word, in whatever case, stands for one
of the nine verdicts and never for itself.

This rests on two tables that are inverse to each other, the verdict of each reserved word
(`Verdict.named?`) and the word of each verdict (`Verdict.text`), and on the fact that lower case is
final.
-/

namespace MailAuth.Verdict

open Text

/-! ### Reserved words -/

/-- The reserved words. -/
def reservedWords : List String :=
  ["none", "pass", "fail", "policy", "neutral", "temperror", "permerror", "hardfail", "softfail"]

/-- The verdict that has a reserved word. -/
def named? : String → Option Verdict
  | "none" => some .none
  | "pass" => some .pass
  | "fail" => some .fail
  | "policy" => some .policy
  | "neutral" => some .neutral
  | "temperror" => some .tempError
  | "permerror" => some .permError
  | "hardfail" => some .hardFail
  | "softfail" => some .softFail
  | _ => Option.none

variable {word : String} {v : Verdict}

theorem mem_reserved_iff : v ∈ reserved ↔ ∀ word, v ≠ .other word := by
  cases v <;> simp [reserved]

/-- The two tables are inverse to each other. -/
theorem named?_eq_some_iff : named? word = some v ↔ v ∈ reserved ∧ v.text = word := by
  constructor
  · intro h
    unfold named? at h
    split at h
    all_goals cases h <;> exact ⟨by decide, rfl⟩
  · rintro ⟨mem, rfl⟩
    revert v
    decide

theorem named?_isSome_iff : (named? word).isSome ↔ word ∈ reservedWords := by
  constructor
  · intro h
    obtain ⟨v, named⟩ := Option.isSome_iff_exists.1 h
    obtain ⟨mem, rfl⟩ := named?_eq_some_iff.1 named
    revert v
    decide
  · intro mem
    revert word
    decide

/-- A reserved word stands for its verdict, any other word for itself. -/
theorem ofLowercase_eq (word : String) : ofLowercase word = (named? word).getD (.other word) := by
  cases named : named? word with
  | none =>
    -- A verdict with this text would be in the other table.
    have unknown : reserved.find? (·.text == word) = Option.none := by
      rw [List.find?_eq_none]
      intro v mem same
      rw [named?_eq_some_iff.2 ⟨mem, beq_iff_eq.1 same⟩] at named
      cases named
    rw [ofLowercase, unknown]
  | some v =>
    obtain ⟨mem, rfl⟩ := named?_eq_some_iff.1 named
    exact ofLowercase_text mem

/-- Exactly the words that are not reserved stand for themselves. -/
theorem ofLowercase_eq_other_iff : ofLowercase word = .other word ↔ word ∉ reservedWords := by
  rw [ofLowercase_eq, ← named?_isSome_iff]
  cases named : named? word with
  | none => simp
  | some v =>
    obtain ⟨mem, -⟩ := named?_eq_some_iff.1 named
    simpa using mem_reserved_iff.1 mem word

/-- Reserved words are in lower case. -/
theorem lowercase_text (h : v ∈ reserved) : lowercase v.text = v.text := by
  revert v
  decide +kernel

/-! ### Words in any case -/

variable {s t : String}

theorem ofText_eq_iff : ofText s = ofText t ↔ lowercase s = lowercase t := by
  constructor
  · intro h
    rw [← text_ofText, h, text_ofText]
  · intro h
    rw [ofText, h, ofText]

theorem ofText_text_ofText (s : String) : ofText (ofText s).text = ofText s := by
  rw [text_ofText, ofText_eq_iff, lowercase_lowercase]

/-- A word that stands for itself is not reserved. -/
theorem not_mem_of_ofText_eq_other (h : ofText s = .other word) : word ∉ reservedWords := by
  have same : lowercase s = word := by rw [← text_ofText, h]; rfl
  rw [ofText, same] at h
  exact ofLowercase_eq_other_iff.1 h

theorem isPass_ofText_iff : (ofText s).isPass ↔ lowercase s = "pass" := by
  rw [isPass, beq_iff_eq]
  constructor
  · intro h
    rw [← text_ofText, h]
    rfl
  · intro h
    rw [ofText, h]
    rfl

/-- The text of a verdict stands for it if the verdict is one of the nine, or if the text is in
lower case and not reserved. -/
theorem ofText_text_eq_self_iff : ofText v.text = v ↔
    v ∈ reserved ∨ ∃ word, v = .other word ∧ lowercase word = word ∧ word ∉ reservedWords := by
  constructor
  · intro same
    cases v with
    | other word =>
      have lower : (ofText word).text = word := congrArg text same
      rw [text_ofText] at lower
      exact .inr ⟨word, rfl, lower, not_mem_of_ofText_eq_other same⟩
    | _ => exact .inl (by decide)
  · rintro (mem | ⟨word, rfl, lower, free⟩)
    · rw [ofText, lowercase_text mem, ofLowercase_text mem]
    · rw [text, ofText, lower, ofLowercase_eq_other_iff.2 free]

/-- The verdict of a word is a canonical form of the word in lower case, and the verdicts that are
told by their text are the nine and the words in lower case that are not reserved. -/
theorem canonical_ofText (s t : String) :
    (ofText s).text = lowercase s ∧
      (ofText s = ofText t ↔ lowercase s = lowercase t) ∧
      ofText (ofText s).text = ofText s ∧
      (∀ word ∈ reservedWords, ofText s ≠ .other word) ∧
      ((ofText s).isPass ↔ lowercase s = "pass") ∧
      ∀ v : Verdict, ofText v.text = v ↔
        v ∈ reserved ∨ ∃ word, v = .other word ∧ lowercase word = word ∧ word ∉ reservedWords :=
  ⟨text_ofText s, ofText_eq_iff, ofText_text_ofText s,
    fun _ mem other => not_mem_of_ofText_eq_other other mem, isPass_ofText_iff,
    fun _ => ofText_text_eq_self_iff⟩

/-- The two sigmas make two verdicts, and a dot above makes a word another one. -/
theorem canonical_ofText_spelled :
    ofText "SoftFail" = ofText "softfail" ∧ ofText "ΠΑΣ" ≠ ofText "πασ" ∧
      (ofText "FAİL").text = "fai\u0307l" ∧ ¬ (ofText "PASSÉ").isPass ∧
      ofText (other "Pass").text ≠ other "Pass" := by
  obtain ⟨-, same, -⟩ := canonical_ofText "SoftFail" "softfail"
  obtain ⟨-, differ, -⟩ := canonical_ofText "ΠΑΣ" "πασ"
  obtain ⟨dotted, -⟩ := canonical_ofText "FAİL" ""
  obtain ⟨-, -, -, -, accent, -⟩ := canonical_ofText "PASSÉ" ""
  obtain ⟨-, -, -, -, -, kept⟩ := canonical_ofText "" ""
  refine ⟨same.2 (by decide +kernel), mt differ.1 (by decide +kernel), ?_,
    mt accent.1 (by decide +kernel), mt (kept _).1 ?_⟩
  · rw [dotted]
    decide +kernel
  · rintro (mem | ⟨word, h, lower, -⟩)
    · exact absurd mem (by decide)
    · cases h
      exact absurd lower (by decide +kernel)

end MailAuth.Verdict
