import MailAuth.Proofs.Text.Words

/-!
# Blanks at the ends of a text

Trimming finds the one text that stands between blanks (`Padded`) and has none at its own ends
(`Trimmed`): this is `trim_eq_iff`. Lower-casing brings no blank to the ends of a text
(`Trimmed.lowercase`), although the form of a character may be longer than the character and that of
a sigma depends on what stands beside it.
-/

namespace MailAuth.Text

/-- `t` stands in `s`, and there are only blanks before and after it. -/
def Padded (s t : String) : Prop :=
  ∃ front back : String, s = front ++ t ++ back ∧
    (∀ c ∈ front.toList, isBlank c) ∧ ∀ c ∈ back.toList, isBlank c

variable {s t : String}

/-! ### Trimming -/

theorem padded_trim (s : String) : Padded s (trim s) := by
  obtain ⟨front, back, cut, blankFront, blankBack⟩ := exists_append_trimBlanks s.toList
  refine ⟨String.ofList front, String.ofList back, ?_, by simpa using blankFront,
    by simpa using blankBack⟩
  rw [← String.toList_inj]
  simpa using cut

theorem padded_self (s : String) : Padded s s := ⟨"", "", by simp, by simp, by simp⟩

/-- What stands between blanks adds no character. -/
theorem Padded.mem (h : Padded s t) {c : Char} (hc : c ∈ t.toList) : c ∈ s.toList := by
  obtain ⟨front, back, rfl, -, -⟩ := h
  simp [hc]

/-- Blanks around the characters are cut off with those at their ends. -/
theorem trimBlanks_append {front back : List Char} (blankFront : ∀ c ∈ front, isBlank c)
    (blankBack : ∀ c ∈ back, isBlank c) (cs : List Char) :
    trimBlanks (front ++ cs ++ back) = trimBlanks cs := by
  rw [trimBlanks, List.append_assoc, List.dropWhile_append_of_pos blankFront,
    List.dropWhile_append]
  split
  · rename_i blank
    have cut : (back ++ []).dropWhile isBlank = [] := List.dropWhile_append_of_pos blankBack
    rw [List.append_nil] at cut
    rw [cut, trimBlanks, List.isEmpty_iff.1 blank]
  · rw [List.reverse_append, List.dropWhile_append_of_pos (by simpa using blankBack), trimBlanks]

theorem Padded.trim_eq (h : Padded s t) : trim s = trim t := by
  obtain ⟨front, back, rfl, blankFront, blankBack⟩ := h
  rw [← String.toList_inj, toList_trim, toList_trim, String.toList_append, String.toList_append,
    trimBlanks_append blankFront blankBack]

/-- Trimming leaves what stands between blanks and has none at its ends, and there is only one such
text. -/
theorem trim_eq_iff : trim s = t ↔ Padded s t ∧ Trimmed t := by
  constructor
  · rintro rfl
    exact ⟨padded_trim s, trimmed_trim s⟩
  · rintro ⟨padded, trimmed⟩
    rw [padded.trim_eq, trim_of_trimmed trimmed]

/-! ### Lower case -/

theorem lowerForm_ne_nil (c : Char) : lowerForm c ≠ [] := by
  unfold lowerForm
  split <;> exact List.cons_ne_nil _ _

/-- Wherever a character stands, there is something in lower case for it, and that holds no blank
unless the character is one. -/
theorem exists_lowercaseAfter_cons (before : List Char) (c : Char) (cs : List Char) :
    ∃ form, lowercaseAfter before (c :: cs) = form ++ lowercaseAfter (c :: before) cs ∧
      form ≠ [] ∧ (isBlank c = false → ∀ d ∈ form, isBlank d = false) := by
  refine ⟨_, rfl, ?_⟩
  by_cases sigma : c = 'Σ'
  · rw [if_pos sigma]
    refine ⟨List.cons_ne_nil _ _, fun _ d hd => ?_⟩
    rw [List.mem_singleton.1 hd]
    split <;> decide
  · rw [if_neg sigma]
    refine ⟨lowerForm_ne_nil c, fun filled d hd => ?_⟩
    rw [Bool.eq_false_iff]
    intro blank
    rw [eq_of_mem_lowerForm hd (by simp [isDelimiter, blank]), filled] at blank
    cases blank

/-- The first character in lower case comes from the first character. -/
theorem not_isBlank_of_head?_lowercaseAfter {before cs : List Char}
    (h : ∀ c ∈ cs.head?, isBlank c = false) :
    ∀ d ∈ (lowercaseAfter before cs).head?, isBlank d = false := by
  cases cs with
  | nil => exact nofun
  | cons c cs =>
    obtain ⟨form, cut, ne, filled⟩ := exists_lowercaseAfter_cons before c cs
    obtain ⟨e, es, rfl⟩ := List.exists_cons_of_ne_nil ne
    intro d hd
    rw [cut] at hd
    obtain rfl := Option.some.inj hd
    exact filled (h c rfl) e List.mem_cons_self

/-- The last character in lower case comes from the last character. -/
theorem not_isBlank_of_getLast?_lowercaseAfter {before cs : List Char}
    (h : ∀ c ∈ cs.getLast?, isBlank c = false) :
    ∀ d ∈ (lowercaseAfter before cs).getLast?, isBlank d = false := by
  induction cs generalizing before with
  | nil => exact nofun
  | cons c cs ih =>
    obtain ⟨form, cut, ne, filled⟩ := exists_lowercaseAfter_cons before c cs
    intro d hd
    rw [cut, List.getLast?_append] at hd
    cases cs with
    | nil => exact filled (h c rfl) d (List.mem_of_getLast? hd)
    | cons e es =>
      -- Something comes from the characters after `c`, so the last is not in the form of `c`.
      obtain ⟨form', cut', ne', -⟩ := exists_lowercaseAfter_cons (c :: before) e es
      cases last : (lowercaseAfter (c :: before) (e :: es)).getLast? with
      | none =>
        rw [List.getLast?_eq_none_iff, cut', List.append_eq_nil_iff] at last
        exact absurd last.1 ne'
      | some f =>
        rw [last] at hd
        obtain rfl := Option.some.inj hd
        exact ih (by simpa using h) f last

/-- Lower-casing brings no blank to the ends of a text. -/
theorem Trimmed.lowercase (h : Trimmed s) : Trimmed (lowercase s) := by
  rw [Trimmed, toList_lowercase]
  exact ⟨not_isBlank_of_head?_lowercaseAfter h.1, not_isBlank_of_getLast?_lowercaseAfter h.2⟩

end MailAuth.Text
