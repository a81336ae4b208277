import Mathlib.Data.List.TakeWhile
import MailAuth.Proofs.ReadError

/-!
# Headers of an ARC set

A header belongs to an ARC set if its first part is an instance tag and another part follows
(`Tagged`). These are the headers that are read with an instance number, which is the number that
the digits of the tag write, and the only ones that can be read where there has to be an instance
tag (`Header.arcInstance_iff_tagged`). A number that is too large stays too large, however many
digits it has.
-/

namespace MailAuth

open Text

variable {s : String} {n : Nat}

/-! ### Tags -/

/-- Digits that write the number, perhaps after a plus sign. -/
def Text.WritesNumber (s : String) (n : Nat) : Prop :=
  ∃ sign digits : String, s = sign ++ digits ∧ (sign = "" ∨ sign = "+") ∧ digits ≠ "" ∧
    (∀ c ∈ digits.toList, c.isDigit) ∧ n = Nat.ofDigitChars 10 digits.toList 0

/-- A text is read as the number it writes, if there is room for the number. -/
theorem Text.number?_eq_some_iff_writesNumber :
    number? s = some n ↔ WritesNumber s n ∧ n < numberBound := by
  rw [number?_eq_some_iff]
  constructor
  · rintro ⟨ne, digit, value, room⟩
    have digits : (String.ofList (numberDigits s.toList)).toList = numberDigits s.toList :=
      String.toList_ofList
    have named : String.ofList (numberDigits s.toList) ≠ "" := by simpa using ne
    rw [← digits] at digit value
    rcases numberDigits_cases s.toList with plus | same
    · have whole : s = "+" ++ String.ofList (numberDigits s.toList) := by
        rw [← String.toList_inj, String.toList_append, digits]
        exact plus
      exact ⟨⟨"+", _, whole, .inr rfl, named, digit, value⟩, room⟩
    · have whole : s = "" ++ String.ofList (numberDigits s.toList) := by
        rw [← String.toList_inj, String.empty_append, digits]
        exact same
      exact ⟨⟨"", _, whole, .inl rfl, named, digit, value⟩, room⟩
  · rintro ⟨⟨sign, digits, rfl, plus, ne, digit, value⟩, room⟩
    have chars : numberDigits (sign ++ digits).toList = digits.toList := by
      rcases plus with rfl | rfl
      · rw [String.empty_append, numberDigits_of_forall digit]
      · rw [String.toList_append]
        rfl
    rw [chars]
    exact ⟨by simpa using ne, digit, value, room⟩

/-- The text is `i=` and a number from 1 to `maxInstance`. -/
def WritesTag (s : String) (n : Nat) : Prop :=
  ∃ number, s = "i=" ++ number ∧ WritesNumber number n ∧ 1 ≤ n ∧ n ≤ maxInstance

/-- The number of a tag is the one that is written. -/
theorem instanceTag?_eq_some_iff : instanceTag? s = some n ↔ WritesTag s n := by
  simp only [instanceTag?, Option.filter_eq_some_iff, Option.bind_eq_some_iff, after?_eq_some_iff,
    number?_eq_some_iff_writesNumber, Bool.and_eq_true, decide_eq_true_eq]
  constructor
  · rintro ⟨⟨number, rfl, writes, -⟩, range⟩
    exact ⟨number, rfl, writes, range⟩
  · rintro ⟨number, rfl, writes, range⟩
    -- A number in range has room, so the width of numbers does not show in tags.
    have room : n < numberBound := Nat.lt_of_le_of_lt range.2 (by decide)
    exact ⟨⟨number, rfl, writes, room⟩, range⟩

/-! ### The first part -/

/-- The text before the first separator of segments, or all of it if there is none. -/
def beforeSeparator (s : String) : String := String.ofList (s.toList.takeWhile (· != ';'))

theorem bne_separator_of_mem (single : ';' ∉ s.toList) : ∀ c ∈ s.toList, (c != ';') = true :=
  fun _ mem => bne_iff_ne.2 fun same => single (same ▸ mem)

theorem beforeSeparator_of_not_mem (single : ';' ∉ s.toList) : beforeSeparator s = s := by
  have all := List.takeWhile_eq_self_iff.2 (bne_separator_of_mem single)
  rw [beforeSeparator, all, String.ofList_toList]

theorem beforeSeparator_append (single : ';' ∉ s.toList) (rest : String) :
    beforeSeparator (s ++ ";" ++ rest) = s := by
  have all := bne_separator_of_mem single
  have chars : (s ++ ";" ++ rest).toList = s.toList ++ ';' :: rest.toList := by simp
  rw [beforeSeparator, chars, List.takeWhile_append_of_pos all,
    List.takeWhile_cons_of_neg (by decide), List.append_nil, String.ofList_toList]

/-- The first part is what comes before the first separator. -/
theorem firstPart_eq (s : String) : firstPart s = trim (beforeSeparator s) := by
  cases cut : splitFirst ';' s with
  | none =>
    have single := splitFirst_eq_none_iff.1 cut
    rw [firstPart, parts_of_not_mem single, beforeSeparator_of_not_mem single]
    rfl
  | some found =>
    obtain ⟨first, rest⟩ := found
    obtain ⟨chars, single⟩ := splitFirst_eq_some_iff.1 cut
    have joined : s = first ++ ";" ++ rest := by
      rw [← String.toList_inj, chars]
      simp
    rw [joined, firstPart, parts_append_semicolon, parts_of_not_mem single,
      beforeSeparator_append single]
    rfl

/-- An instance tag counts if another part follows. -/
theorem Opening.arcInstance_ofText_eq_some_iff :
    (ofText s).arcInstance = some n ↔ ';' ∈ s.toList ∧ instanceTag? (firstPart s) = some n := by
  by_cases h : ';' ∈ s.toList
  · obtain ⟨first, second, rest, hs⟩ := exists_parts_eq_cons_cons h
    rw [ofText, firstPart, hs]
    cases tag : instanceTag? (trim first) <;> simp [ofParts, h, tag]
  · rw [ofText, parts_of_not_mem h]
    simp [ofParts, h]

/-! ### Headers -/

/-- The text before the first separator is an instance tag with the number `n`. -/
def Tagged (s : String) (n : Nat) : Prop :=
  ';' ∈ s.toList ∧ WritesTag (trim (beforeSeparator s)) n

namespace Header

/-- The instance number is that of the tag. -/
theorem arcInstance_read_eq_some_iff : (read s).arcInstance = some n ↔ Tagged s n := by
  rw [arcInstance_read, Opening.arcInstance_ofText_eq_some_iff, firstPart_eq,
    instanceTag?_eq_some_iff, Tagged]

/-- Exactly the tagged headers are read with an instance number, which is that of the tag. Where
there has to be a tag, these are read as they are else, and of any other nothing is left but the
text that should have been a tag. -/
theorem arcInstance_iff_tagged (s : String) :
    (∀ n, (read s).arcInstance = some n ↔ Tagged s n) ∧
      (readArc s = read s ↔ ∃ n, Tagged s n) ∧
      ((¬ ∃ n, Tagged s n) →
        readArc s = { error := some (.missingInstance (trim (beforeSeparator s))) }) := by
  have untagged (h : ¬ ∃ n, Tagged s n) :
      readArc s = { error := some (.missingInstance (trim (beforeSeparator s))) } := by
    have none : (read s).arcInstance = none :=
      Option.eq_none_iff_forall_ne_some.2 fun n hn => h ⟨n, arcInstance_read_eq_some_iff.1 hn⟩
    rw [readArc_of_isNone none, firstPart_eq]
  refine ⟨fun n => arcInstance_read_eq_some_iff, ⟨fun same => ?_, ?_⟩, untagged⟩
  · by_contra h
    rw [untagged h] at same
    exact error_read_ne_missingInstance s _ (congrArg Header.error same).symm
  · rintro ⟨n, tagged⟩
    exact readArc_eq_read (by rw [arcInstance_read_eq_some_iff.2 tagged]; rfl)

/-- A plus sign and zeros in front belong to a tag. A number that has no room in 32 bits is not
taken for the one it would be if it wrapped round. -/
theorem arcInstance_iff_tagged_wrapped :
    Tagged "\t i=+007 ;mx" 7 ∧ (¬ ∃ n, Tagged "i=4294967297; mx; spf=pass" n) ∧
      readArc "i=4294967297; mx; spf=pass" =
        { error := some (.missingInstance "i=4294967297") } := by
  have none : (read "i=4294967297; mx; spf=pass").arcInstance = none := by decide
  have untagged : ¬ ∃ n, Tagged "i=4294967297; mx; spf=pass" n := by
    rintro ⟨n, tagged⟩
    have some := ((arcInstance_iff_tagged "i=4294967297; mx; spf=pass").1 n).2 tagged
    rw [none] at some
    cases some
  have first : trim (beforeSeparator "i=4294967297; mx; spf=pass") = "i=4294967297" := by decide
  refine ⟨((arcInstance_iff_tagged "\t i=+007 ;mx").1 7).1 (by decide), untagged, ?_⟩
  rw [(arcInstance_iff_tagged "i=4294967297; mx; spf=pass").2.2 untagged, first]

end Header

end MailAuth
