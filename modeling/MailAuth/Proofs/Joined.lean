import MailAuth.Header.Reading
import MailAuth.Proofs.Opening

/-!
# Joined header values

What reading makes of two texts with the separator between them.

Where the opening of the first text is complete, the second text is more body. The results in it
come after those of the first, its error is the error of the whole, and after an error in the first
nothing of it is looked at (`Header.read_append_semicolon`).

Where the first text is an instance tag, it adds the instance number to what the second text says,
and changes nothing else (`Header.read_tag_append`).
-/

namespace MailAuth

open Text

variable {s t : String}

/-! ### Openings -/

namespace Opening

/-- An opening is complete after two parts, and after one that is no instance tag: what follows is
body. -/
theorem ofText_append (complete : ';' ∈ s.toList ∨ instanceTag? (trim s) = none) (t : String) :
    ofText (s ++ ";" ++ t) = { ofText s with body := (ofText s).body ++ parts ';' t } := by
  rw [ofText, ofText, parts_append_semicolon]
  by_cases h : ';' ∈ s.toList
  · obtain ⟨first, second, rest, hs⟩ := exists_parts_eq_cons_cons h
    rw [hs]
    cases tag : instanceTag? (trim first) <;> simp [ofParts, tag]
  · have untagged := complete.resolve_left h
    obtain ⟨first, rest, ht⟩ := List.exists_cons_of_ne_nil (parts_ne_nil ';' t)
    rw [parts_of_not_mem h, ht]
    simp [ofParts, untagged]

/-- Behind an instance tag the opening is what it would be alone, but for the number. -/
theorem ofText_tag_append {p : String} {n : Nat} (single : ';' ∉ p.toList)
    (tag : instanceTag? (trim p) = some n)
    (untagged : ';' ∉ t.toList ∨ instanceTag? (firstPart t) = none) :
    ofText (p ++ ";" ++ t) = { ofText t with arcInstance := some n } := by
  rw [ofText, ofText, parts_append_semicolon, parts_of_not_mem single]
  by_cases h : ';' ∈ t.toList
  · obtain ⟨first, second, rest, ht⟩ := exists_parts_eq_cons_cons h
    have none : instanceTag? (trim first) = none := by
      simpa [firstPart, ht] using untagged.resolve_left (not_not_intro h)
    rw [ht]
    simp [ofParts, tag, none]
  · rw [parts_of_not_mem h]
    simp [ofParts, tag]

end Opening

/-! ### Headers -/

namespace Reading

/-- The instance number is taken over from the opening, whatever else is read. -/
theorem header_ofOpening_withInstance (o : Opening) (n : Option Nat) :
    (ofOpening { o with arcInstance := n }).header =
      { (ofOpening o).header with arcInstance := n } := by
  have same : Opening.unsupportedVersion? { o with arcInstance := n } = o.unsupportedVersion? :=
    Opening.unsupportedVersion?_congr rfl
  cases version : o.unsupportedVersion? with
  | some v =>
    rw [header_ofOpening_of_eq_some version, header_ofOpening_of_eq_some (same.trans version)]
  | none =>
    rw [header_ofOpening_of_eq_none version, header_ofOpening_of_eq_none (same.trans version)]
    rfl

/-- More parts add what they say of themselves, unless reading ended before them. -/
theorem header_ofOpening_append (o : Opening) (qs : List String) :
    ((ofOpening o).header.error ≠ none →
        (ofOpening { o with body := o.body ++ qs }).header = (ofOpening o).header) ∧
      ((ofOpening o).header.error = none →
        (ofOpening { o with body := o.body ++ qs }).header =
          { (ofOpening o).header with
            results := (ofOpening o).header.results ++ (Body.ofParts qs).results
            error := (Body.ofParts qs).error? }) := by
  have same : Opening.unsupportedVersion? { o with body := o.body ++ qs } = o.unsupportedVersion? :=
    Opening.unsupportedVersion?_congr rfl
  cases version : o.unsupportedVersion? with
  | some v =>
    rw [header_ofOpening_of_eq_some version, header_ofOpening_of_eq_some (same.trans version)]
    exact ⟨fun _ => rfl, nofun⟩
  | none =>
    rw [header_ofOpening_of_eq_none version, header_ofOpening_of_eq_none (same.trans version)]
    simp only [Body.ofParts_append, Body.error?_append]
    constructor
    · intro failed
      rw [Body.results_append_of_error failed,
        Option.or_of_isSome (Option.isSome_iff_ne_none.2 failed)]
      rfl
    · intro ok
      rw [Body.results_append ok, ok]
      rfl

end Reading

namespace Header

/-- A text behind a separator is all body. -/
theorem read_semicolon_append (t : String) :
    read (";" ++ t) =
      { results := (Body.ofParts (parts ';' t)).results
        error := (Body.ofParts (parts ';' t)).error? } := by
  have empty : Opening.ofText "" = ⟨none, "", []⟩ := by decide
  have opening : Opening.ofText (";" ++ t) = ⟨none, "", parts ';' t⟩ := by
    rw [← String.empty_append (s := ";"), Opening.ofText_append (.inr (by decide)), empty,
      List.nil_append]
  have alone : Opening.unsupportedVersion? ⟨none, "", []⟩ = none := by decide
  have version : Opening.unsupportedVersion? ⟨none, "", parts ';' t⟩ = none :=
    (Opening.unsupportedVersion?_congr rfl).trans alone
  have identifier : Opening.identifier ⟨none, "", parts ';' t⟩ = "" := by
    simp [Opening.identifier]
  rw [read_eq, opening, Reading.header_ofOpening_of_eq_none version, identifier]

/-- Reading goes from left to right: the results of what is appended come last, and an error absorbs
what is appended. -/
theorem read_append_semicolon (complete : ';' ∈ s.toList ∨ instanceTag? (trim s) = none)
    (t : String) :
    ((read s).error ≠ none → read (s ++ ";" ++ t) = read s) ∧
      ((read s).error = none → read (s ++ ";" ++ t) =
        { read s with
          results := (read s).results ++ (read (";" ++ t)).results
          error := (read (";" ++ t)).error }) := by
  rw [read_semicolon_append, read_eq, read_eq, Opening.ofText_append complete]
  exact Reading.header_ofOpening_append _ _

/-- What follows a malformed segment is not read, and what follows a good one is read to its end. -/
theorem read_append_semicolon_spf :
    read ("mx 1; dkim" ++ ";" ++ "spf=pass") = read "mx 1; dkim" ∧
      read ("i=2;mx" ++ ";" ++ "spf=pass; dkim") =
        { read "i=2;mx" with
          results := (read "i=2;mx").results ++ (read (";" ++ "spf=pass; dkim")).results
          error := (read (";" ++ "spf=pass; dkim")).error } :=
  ⟨(read_append_semicolon (.inl (by decide)) "spf=pass").1 (by decide),
    (read_append_semicolon (.inl (by decide)) "spf=pass; dkim").2 (by decide)⟩

/-- An instance tag in front adds the instance number to what is read, and changes nothing else. -/
theorem read_tag_append {p : String} {n : Nat} (single : ';' ∉ p.toList)
    (tag : instanceTag? (trim p) = some n)
    (untagged : ';' ∉ t.toList ∨ instanceTag? (firstPart t) = none) :
    read (p ++ ";" ++ t) = { read t with arcInstance := some n } ∧
      readArc (p ++ ";" ++ t) = { read t with arcInstance := some n } := by
  have whole : read (p ++ ";" ++ t) = { read t with arcInstance := some n } := by
    rw [read_eq, read_eq, Opening.ofText_tag_append single tag untagged,
      Reading.header_ofOpening_withInstance]
  refine ⟨whole, ?_⟩
  rw [readArc_eq_read (by rw [whole]; rfl), whole]

/-- Blanks around a tag, a plus sign and zeros in front of its number make no difference, and the
error of what follows is kept. -/
theorem read_tag_append_version :
    read ("\t i=+007 " ++ ";" ++ "mx 2; spf=pass") =
        { read "mx 2; spf=pass" with arcInstance := some 7 } ∧
      readArc ("\t i=+007 " ++ ";" ++ "mx 2; spf=pass") =
        { read "mx 2; spf=pass" with arcInstance := some 7 } :=
  read_tag_append (by decide) (by decide) (.inr (by decide))

end Header

end MailAuth
