import MailAuth.Text.AsciiCase
import MailAuth.Text.Blank
import MailAuth.Text.Lowercase

/-!
# Lower case is final

What lower-casing leaves alone. The lower-case form of a character consists of characters that are
their own lower-case form, so a text in lower case stays as it is (`lowercase_eq_self_iff`,
`lowercase_lowercase`). No lower-case form brings in a character that the syntax of a header gives a
meaning to (`mem_of_mem_lowercase`), and a text in lower case has no ASCII capitals left
(`foldAscii_of_lowercase`).

Both facts about single characters are read off the table of runs, run by run and not character by
character.
-/

namespace MailAuth.Text

/-- The characters that separate: blanks, the separator of segments and the equals sign. -/
def isDelimiter (c : Char) : Bool := isBlank c || c == ';' || c == '='

/-! ### The table -/

/-- The largest code point that the run leads to; the least is `image`. -/
def CaseRun.lastImage (r : CaseRun) : Nat := r.image + (r.last - r.first)

/-- Code points that no run leads to: the delimiters, and capital I with a dot. -/
def unreached : List CodeRange :=
  ⟨0x3B, 0x3B⟩ :: ⟨0x3D, 0x3D⟩ :: ⟨0x0130, 0x0130⟩ :: blankRanges

/-- What `r` leads to is not held by `s`: it lies elsewhere, or between the code points that `s`
holds. -/
def CaseRun.clearOf (r s : CaseRun) : Bool :=
  Nat.blt r.lastImage s.first || Nat.blt s.last r.image ||
    (Nat.beq s.step 2 && (Nat.beq r.step 2 || Nat.beq r.first r.last) &&
      Nat.beq ((r.image + s.first) % 2) 1)

/-- What `r` leads to are characters, and none that is `unreached`. -/
def CaseRun.reachesOthers (r : CaseRun) : Bool :=
  (Nat.blt r.lastImage 0xD800 || (Nat.blt 0xDFFF r.image && Nat.blt r.lastImage 0x110000)) &&
    unreached.all fun q => Nat.blt r.lastImage q.first || Nat.blt q.last r.image

-- `Nat.blt` and `Nat.beq` and not `<` and `=`: the kernel computes them on literals at once.
theorem lowerRuns_clear : (lowerRuns.all fun r => lowerRuns.all r.clearOf) = true := by
  decide +kernel

theorem lowerRuns_reachOthers : lowerRuns.all CaseRun.reachesOthers = true := by decide +kernel

variable {r : CaseRun} {n : Nat}

theorem CaseRun.holds_iff :
    r.holds n ↔ r.first ≤ n ∧ n ≤ r.last ∧ (n - r.first) % r.step = 0 := by
  simp [CaseRun.holds, and_assoc]

theorem reachesOthers_iff :
    r.reachesOthers ↔
      (r.lastImage < 0xD800 ∨ 0xDFFF < r.image ∧ r.lastImage < 0x110000) ∧
        ∀ q ∈ unreached, r.lastImage < q.first ∨ q.last < r.image := by
  simp only [CaseRun.reachesOthers, Bool.and_eq_true, Bool.or_eq_true, Nat.blt_eq,
    List.all_eq_true]

/-- The image of a code point is held by no run. -/
theorem not_holds_image (hr : r ∈ lowerRuns) (hn : r.holds n) {s : CaseRun} (hs : s ∈ lowerRuns) :
    s.holds (r.image + (n - r.first)) = false := by
  rw [Bool.eq_false_iff]
  intro h
  obtain ⟨h₁, h₂, h₃⟩ := CaseRun.holds_iff.1 hn
  obtain ⟨k₁, k₂, k₃⟩ := CaseRun.holds_iff.1 h
  have clear := List.all_eq_true.1 (List.all_eq_true.1 lowerRuns_clear r hr) s hs
  simp only [CaseRun.clearOf, CaseRun.lastImage, Bool.or_eq_true, Bool.and_eq_true, Nat.blt_eq,
    Nat.beq_eq] at clear
  rcases clear with (clear | clear) | ⟨⟨step, single | single⟩, odd⟩
  · omega
  · omega
  · rw [single] at h₃; rw [step] at k₃; omega
  · rw [step] at k₃; omega

theorem lowerCode_image (hr : r ∈ lowerRuns) (hn : r.holds n) :
    lowerCode (r.image + (n - r.first)) = r.image + (n - r.first) := by
  unfold lowerCode
  split
  · rename_i s hs
    rw [not_holds_image hr hn (List.mem_of_find?_eq_some hs)]
    rfl
  · rfl

/-- The code point of an image is that of a character. -/
theorem toNat_ofNat_image (hr : r ∈ lowerRuns) (hn : r.holds n) :
    (Char.ofNat (r.image + (n - r.first))).toNat = r.image + (n - r.first) := by
  obtain ⟨h₁, h₂, -⟩ := CaseRun.holds_iff.1 hn
  have valid := (reachesOthers_iff.1 (List.all_eq_true.1 lowerRuns_reachOthers r hr)).1
  unfold CaseRun.lastImage at valid
  have : (r.image + (n - r.first)).isValidChar := by
    unfold Nat.isValidChar
    omega
  rw [Char.ofNat, dif_pos this]
  rfl

/-- The image of a code point is in no range of `unreached`. -/
theorem image_not_unreached (hr : r ∈ lowerRuns) (hn : r.holds n) :
    CodeRange.covers unreached (Char.ofNat (r.image + (n - r.first))) = false := by
  rw [Bool.eq_false_iff]
  intro h
  obtain ⟨q, hq, k₁, k₂⟩ := CodeRange.covers_iff.1 h
  rw [toNat_ofNat_image hr hn] at k₁ k₂
  obtain ⟨h₁, h₂, -⟩ := CaseRun.holds_iff.1 hn
  have := (reachesOthers_iff.1 (List.all_eq_true.1 lowerRuns_reachOthers r hr)).2 q hq
  unfold CaseRun.lastImage at this
  omega

/-! ### The lower-case form of a character -/

/-- A character stays, or is capital I with a dot, or goes where a run leads. -/
theorem lowerForm_cases (c : Char) :
    lowerForm c = [c] ∨ c = 'İ' ∨
      ∃ r ∈ lowerRuns, r.holds c.toNat ∧
        lowerForm c = [Char.ofNat (r.image + (c.toNat - r.first))] := by
  by_cases dotted : c = 'İ'
  · exact .inr (.inl dotted)
  simp only [lowerForm, dotted, if_false, lowerCode]
  cases h : lowerRuns.find? fun r => c.toNat ≤ r.last with
  | none => exact .inl (by simp)
  | some r =>
    by_cases holds : r.holds c.toNat
    · exact .inr (.inr ⟨r, List.mem_of_find?_eq_some h, holds, by simp [holds]⟩)
    · exact .inl (by simp [holds])

/-- The capital I with a dot is no image. -/
theorem image_ne_dotted (hr : r ∈ lowerRuns) (hn : r.holds n) :
    Char.ofNat (r.image + (n - r.first)) ≠ 'İ' := by
  intro h
  have := image_not_unreached hr hn
  rw [h] at this
  exact absurd this (by decide)

/-- A character of a lower-case form is its own lower-case form. -/
theorem lowerForm_of_mem {c d : Char} (h : d ∈ lowerForm c) : lowerForm d = [d] := by
  rcases lowerForm_cases c with stays | rfl | ⟨r, hr, hn, image⟩
  · rw [stays, List.mem_singleton] at h
    rw [h, stays]
  · have : d = 'i' ∨ d = '\u0307' := by simpa [lowerForm] using h
    rcases this with rfl | rfl <;> decide
  · rw [image, List.mem_singleton] at h
    subst h
    rw [lowerForm, if_neg (image_ne_dotted hr hn), toNat_ofNat_image hr hn, lowerCode_image hr hn]

theorem covers_unreached_of_isDelimiter {c : Char} (h : isDelimiter c) :
    CodeRange.covers unreached c := by
  simp only [isDelimiter, Bool.or_eq_true, beq_iff_eq] at h
  rcases h with (h | rfl) | rfl
  · obtain ⟨q, hq, bounds⟩ := CodeRange.covers_iff.1 h
    exact CodeRange.covers_iff.2 ⟨q, by simp [unreached, hq], bounds⟩
  · decide
  · decide

/-- A delimiter is the lower-case form of no other character. -/
theorem eq_of_mem_lowerForm {c d : Char} (h : d ∈ lowerForm c) (hd : isDelimiter d) : d = c := by
  rcases lowerForm_cases c with stays | rfl | ⟨r, hr, hn, image⟩
  · simpa [stays] using h
  · have : d = 'i' ∨ d = '\u0307' := by simpa [lowerForm] using h
    rcases this with rfl | rfl <;> exact absurd hd (by decide)
  · rw [image, List.mem_singleton] at h
    have := covers_unreached_of_isDelimiter hd
    rw [h, image_not_unreached hr hn] at this
    exact absurd this (by decide)

/-- Outside ASCII there are no ASCII capitals. -/
theorem toLower_of_not_ascii {c : Char} (h : ¬ c.toNat < 128) : c.toLower = c := by
  unfold Char.toLower
  rw [dif_neg]
  rintro ⟨-, upper⟩
  have : c.toNat ≤ 90 := upper
  omega

/-- A character that is its own lower-case form is no ASCII capital. -/
theorem toLower_of_lowerForm {c : Char} (h : lowerForm c = [c]) : c.toLower = c := by
  by_cases ascii : c.toNat < 128
  · rw [lowerForm_of_ascii ascii] at h
    exact List.singleton_inj.1 h
  · exact toLower_of_not_ascii ascii

/-! ### Texts -/

/-- A character of a text in lower case comes from one character of the text. -/
theorem exists_of_mem_lowercaseAfter {before cs : List Char} {d : Char}
    (h : d ∈ lowercaseAfter before cs) :
    ∃ c ∈ cs, d ∈ lowerForm c ∨ c = 'Σ' ∧ (d = 'ς' ∨ d = 'σ') := by
  induction cs generalizing before with
  | nil => simp [lowercaseAfter] at h
  | cons c cs ih =>
    rw [lowercaseAfter, List.mem_append] at h
    rcases h with h | h
    · refine ⟨c, List.mem_cons_self, ?_⟩
      by_cases sigma : c = 'Σ'
      · rw [if_pos sigma] at h
        exact .inr ⟨sigma, by split at h <;> simp_all⟩
      · rw [if_neg sigma] at h
        exact .inl h
    · obtain ⟨e, he, form⟩ := ih h
      exact ⟨e, List.mem_cons_of_mem _ he, form⟩

/-- The characters of a text in lower case are their own lower-case forms. -/
theorem lowerForm_of_mem_lowercase {s : String} {d : Char} (h : d ∈ (lowercase s).toList) :
    lowerForm d = [d] := by
  rw [toList_lowercase] at h
  obtain ⟨c, -, form | ⟨-, rfl | rfl⟩⟩ := exists_of_mem_lowercaseAfter h
  · exact lowerForm_of_mem form
  · decide
  · decide

/-- Lower-casing leaves a text alone if it leaves every character of it alone. -/
theorem lowercase_eq_self_iff {s : String} :
    lowercase s = s ↔ ∀ c ∈ s.toList, lowerForm c = [c] := by
  constructor
  · intro h c hc
    rw [← h] at hc
    exact lowerForm_of_mem_lowercase hc
  · intro h
    have sigma : 'Σ' ∉ s.toList := fun hs => absurd (h _ hs) (by decide)
    have each : s.toList.flatMap lowerForm = s.toList := by
      rw [List.flatMap_def, List.map_congr_left h, ← List.flatMap_def, List.flatMap_singleton']
    rw [← String.toList_inj, toList_lowercase, lowercaseAfter_eq_flatMap sigma, each]

/-- Two texts in lower case are a text in lower case, and the other way round. -/
theorem lowercase_append_eq_self_iff {s t : String} :
    lowercase (s ++ t) = s ++ t ↔ lowercase s = s ∧ lowercase t = t := by
  simp only [lowercase_eq_self_iff, String.toList_append, List.mem_append]
  exact ⟨fun h => ⟨fun c hc => h c (.inl hc), fun c hc => h c (.inr hc)⟩,
    fun h c hc => hc.elim (h.1 c) (h.2 c)⟩

/-- Lower-casing twice is lower-casing once. -/
@[simp] theorem lowercase_lowercase (s : String) : lowercase (lowercase s) = lowercase s :=
  lowercase_eq_self_iff.2 fun _ => lowerForm_of_mem_lowercase

/-- Lower-casing brings in no delimiter. -/
theorem mem_of_mem_lowercase {s : String} {d : Char} (h : d ∈ (lowercase s).toList)
    (hd : isDelimiter d) : d ∈ s.toList := by
  rw [toList_lowercase] at h
  obtain ⟨c, hc, form | ⟨-, rfl | rfl⟩⟩ := exists_of_mem_lowercaseAfter h
  · rw [eq_of_mem_lowerForm form hd]
    exact hc
  · exact absurd hd (by decide)
  · exact absurd hd (by decide)

/-- A text in lower case has no ASCII capitals. -/
theorem foldAscii_of_lowercase {s : String} (h : lowercase s = s) : foldAscii s = s := by
  rw [← String.toList_inj, toList_foldAscii]
  have each : ∀ c ∈ s.toList, c.toLower = id c := fun c hc =>
    toLower_of_lowerForm (lowercase_eq_self_iff.1 h c hc)
  rw [List.map_congr_left each, List.map_id]

end MailAuth.Text
