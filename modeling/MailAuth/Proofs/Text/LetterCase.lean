import MailAuth.Proofs.Text.Clean

/-!
# The case of ASCII letters

What cannot tell texts apart that differ in the case of ASCII letters at most. Lower-casing cannot
(`lowercase_eq_of_sameName`): both letters have the same lower-case form, and both are cased, so
they do the same to a sigma beside them. Cutting at a character that is no letter cuts such texts at
the same places (`sameName_trim`, `exists_splitFirst_of_sameName`).
-/

namespace MailAuth.Text

/-! ### Characters -/

/-- A character other than a capital is its own small letter. -/
theorem toLower_cases (c : Char) :
    c.toLower = c ∨ ∃ n < 26, c = Char.ofNat (n + 65) ∧ c.toLower = Char.ofNat (n + 97) := by
  by_cases ascii : c.toNat < 128
  · have all : ∀ m < 128, (Char.ofNat m).toLower = Char.ofNat m ∨ ∃ n < 26,
        Char.ofNat m = Char.ofNat (n + 65) ∧ (Char.ofNat m).toLower = Char.ofNat (n + 97) := by
      decide +kernel
    simpa using all c.toNat ascii
  · exact .inl (toLower_of_not_ascii ascii)

/-- What agrees on each capital and its small letter does not see the case of a letter. -/
theorem apply_toLower {α : Type} {f : Char → α}
    (h : ∀ n < 26, f (Char.ofNat (n + 97)) = f (Char.ofNat (n + 65))) (c : Char) :
    f c.toLower = f c := by
  rcases toLower_cases c with same | ⟨n, bound, capital, small⟩
  · rw [same]
  · rw [small, h n bound, capital]

theorem isBlank_toLower (c : Char) : isBlank c.toLower = isBlank c :=
  apply_toLower (by decide +kernel) c

theorem isCased_toLower (c : Char) : isCased c.toLower = isCased c :=
  apply_toLower (by decide +kernel) c

theorem isCaseIgnorable_toLower (c : Char) : isCaseIgnorable c.toLower = isCaseIgnorable c :=
  apply_toLower (by decide +kernel) c

theorem lowerForm_toLower (c : Char) : lowerForm c.toLower = lowerForm c :=
  apply_toLower (by decide +kernel) c

/-- A character that is no letter is the small letter of itself only. -/
theorem toLower_eq_iff {d : Char}
    (h : ∀ n < 26, d ≠ Char.ofNat (n + 97) ∧ d ≠ Char.ofNat (n + 65)) {c : Char} :
    c.toLower = d ↔ c = d := by
  rcases toLower_cases c with same | ⟨n, bound, capital, small⟩
  · rw [same]
  · rw [small, capital]
    exact iff_of_false (h n bound).1.symm (h n bound).2.symm

/-- Texts that differ in the case of ASCII letters hold the same characters else. -/
theorem mem_iff_of_sameName {s t : String} {d : Char}
    (other : ∀ n < 26, d ≠ Char.ofNat (n + 97) ∧ d ≠ Char.ofNat (n + 65)) (h : sameName s t) :
    d ∈ s.toList ↔ d ∈ t.toList := by
  have folded (cs : List Char) : d ∈ cs.map Char.toLower ↔ d ∈ cs := by
    simp only [List.mem_map, toLower_eq_iff other, exists_eq_right]
  rw [← folded s.toList, ← folded t.toList, sameName_iff.1 h]

/-! ### Lower case -/

theorem startsCased_map_toLower (cs : List Char) :
    startsCased (cs.map Char.toLower) = startsCased cs := by
  have ignorable : isCaseIgnorable ∘ Char.toLower = isCaseIgnorable :=
    funext isCaseIgnorable_toLower
  have cased : isCased ∘ Char.toLower = isCased := funext isCased_toLower
  rw [startsCased, startsCased, List.dropWhile_map, ignorable, List.head?_map, Option.any_map]
  exact congrArg (Option.any · _) cased

theorem isFinalSigma_map_toLower (before after : List Char) :
    isFinalSigma (before.map Char.toLower) (after.map Char.toLower) =
      isFinalSigma before after := by
  rw [isFinalSigma, isFinalSigma, startsCased_map_toLower, startsCased_map_toLower]

/-- The case of ASCII letters makes no difference to the lower case of a text, nor to that of what
stands beside them. -/
theorem lowercaseAfter_map_toLower (before cs : List Char) :
    lowercaseAfter (before.map Char.toLower) (cs.map Char.toLower) = lowercaseAfter before cs := by
  induction cs generalizing before with
  | nil => rfl
  | cons c cs ih =>
    have sigma : c.toLower = 'Σ' ↔ c = 'Σ' := toLower_eq_iff (by decide)
    rw [List.map_cons, lowercaseAfter, lowercaseAfter, ← List.map_cons, ih,
      isFinalSigma_map_toLower, lowerForm_toLower]
    by_cases h : c = 'Σ'
    · rw [if_pos h, if_pos (sigma.2 h)]
    · rw [if_neg h, if_neg (mt sigma.1 h)]

theorem lowercase_foldAscii (s : String) : lowercase (foldAscii s) = lowercase s := by
  rw [← String.toList_inj, toList_lowercase, toList_lowercase, toList_foldAscii]
  exact lowercaseAfter_map_toLower [] s.toList

variable {s t : String}

/-- Texts that differ in the case of ASCII letters have the same lower case. -/
theorem lowercase_eq_of_sameName (h : sameName s t) : lowercase s = lowercase t := by
  rw [← lowercase_foldAscii s, eq_of_beq h, lowercase_foldAscii t]

/-! ### Cutting -/

theorem trimBlanks_map_toLower (cs : List Char) :
    trimBlanks (cs.map Char.toLower) = (trimBlanks cs).map Char.toLower := by
  have blank : isBlank ∘ Char.toLower = isBlank := funext isBlank_toLower
  simp only [trimBlanks, List.dropWhile_map, blank, ← List.map_reverse]

theorem sameName_trim (h : sameName s t) : sameName (trim s) (trim t) := by
  rw [sameName_iff] at h ⊢
  rw [toList_trim, toList_trim, ← trimBlanks_map_toLower, h, trimBlanks_map_toLower]

/-- The sign that the texts are cut at stands at the same place in both. -/
theorem cutFirst_map_toLower (cs : List Char) :
    cutFirst '=' (cs.map Char.toLower) =
      (cutFirst '=' cs).map fun (a, b) => (a.map Char.toLower, b.map Char.toLower) := by
  induction cs with
  | nil => rfl
  | cons c cs ih =>
    have sign : c.toLower = '=' ↔ c = '=' := toLower_eq_iff (by decide)
    by_cases h : c = '='
    · simp [cutFirst, h]
    · simp only [List.map_cons, cutFirst, sign, h, if_false, ih, Option.map_map]
      rfl

/-- A text with an equals sign and one that differs from it in the case of ASCII letters are cut at
the same place. -/
theorem exists_splitFirst_of_sameName (h : sameName s t) (assigned : '=' ∈ s.toList) :
    ∃ key value key' value', splitFirst '=' s = some (key, value) ∧
      splitFirst '=' t = some (key', value') ∧ sameName key key' ∧ sameName value value' := by
  cases cut : cutFirst '=' s.toList with
  | none => exact absurd assigned (cutFirst_eq_none_iff.1 cut)
  | some found =>
    obtain ⟨a, b⟩ := found
    have folded := cutFirst_map_toLower s.toList
    rw [sameName_iff.1 h, cutFirst_map_toLower, cut] at folded
    obtain ⟨⟨a', b'⟩, cut', same⟩ := Option.map_eq_some_iff.1 folded
    obtain ⟨keys, values⟩ := Prod.mk.inj same
    refine ⟨String.ofList a, String.ofList b, String.ofList a', String.ofList b',
      by rw [splitFirst, cut]; rfl, by rw [splitFirst, cut']; rfl, ?_, ?_⟩
    · simpa [sameName_iff] using keys.symm
    · simpa [sameName_iff] using values.symm

end MailAuth.Text
