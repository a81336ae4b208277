import MailAuth.Proofs.ArcHeader
import MailAuth.Proofs.Text.Words

/-!
# The service of a header

The identifier of a header stands in one part of it, the second in an ARC set and else the first
(`servicePart`), and only the words of that part count. The header is accepted if they are the
identifier alone, or the identifier and the supported version, or none at all. Otherwise nothing is
left of it but the instance number and the text that is no supported version; the body is not looked
at (`Header.read_of_service`).

Reading cuts the part at its first blank and trims what follows. That this comes to the same is
`Opening.identifierOfWords?_service`.
-/

namespace MailAuth

open Text

/-! ### Words of a service -/

/-- The identifier among the words of a service: the first word, if nothing follows but the
supported version. Where there is no word, the identifier is empty. -/
def identifierOfWords? : List String → Option String
  | [] => some ""
  | name :: rest => if rest = [] ∨ rest = [supportedVersion] then some name else none

namespace Opening

variable {o : Opening}

theorem identifier_eq (o : Opening) : o.identifier = untilBlank o.service := rfl

theorem version_eq (o : Opening) : o.version = trim (fromBlank o.service) := rfl

/-- A service is the word of the identifier and the words of the version. -/
theorem words_service (trimmed : trim o.service = o.service) (ne : o.service ≠ "") :
    words o.service = o.identifier :: words o.version := by
  have first := words_untilBlank_trim o.service
  rw [trimmed, if_neg ne] at first
  rw [identifier_eq, version_eq, words_trim, words_untilBlank_append, first]
  rfl

/-- Whether the version is supported is seen in its words. -/
theorem unsupportedVersion?_eq_none_iff :
    o.unsupportedVersion? = none ↔ words o.version = [] ∨ words o.version = [supportedVersion] := by
  have trimmed : trim o.version = o.version := trim_trim _
  have empty : words o.version = [] ↔ o.version = "" := by rw [words_eq_nil_iff, trimmed]
  have supported : words o.version = [supportedVersion] ↔ o.version = supportedVersion := by
    constructor
    · intro one
      rw [← trimmed, trim_of_words_eq_singleton one]
    · intro same
      rw [same]
      decide
  rw [empty, supported, unsupportedVersion?]
  split
  · exact iff_of_true rfl ‹_›
  · exact iff_of_false (Option.some_ne_none _) ‹_›

/-- The words of a service tell whether it is accepted, and with which identifier. -/
theorem identifierOfWords?_service (trimmed : trim o.service = o.service) :
    identifierOfWords? (words o.service) =
      if o.unsupportedVersion? = none then some o.identifier else none := by
  by_cases empty : o.service = ""
  · have identifier : o.identifier = "" := by rw [identifier, empty]; decide
    have version : words o.version = [] := by rw [version, empty]; decide
    rw [if_pos (unsupportedVersion?_eq_none_iff.2 (.inl version)), identifier, empty, words_empty,
      identifierOfWords?]
  · rw [words_service trimmed empty, identifierOfWords?]
    simp only [unsupportedVersion?_eq_none_iff]

end Opening

/-! ### The part with the service -/

instance (s : String) : Decidable (∃ n, Tagged s n) :=
  decidable_of_iff ((Header.read s).arcInstance.isSome) (by
    rw [Option.isSome_iff_exists]
    simp only [Header.arcInstance_read_eq_some_iff])

/-- The place of the part with the identifier: the second in an ARC set, else the first. -/
def serviceIndex (s : String) : Nat := if ∃ n, Tagged s n then 1 else 0

/-- The part with the identifier. -/
def servicePart (s : String) : String := (parts ';' s).getD (serviceIndex s) ""

namespace Opening

variable {s s' part : String}

/-- What an opening is, by the place of the service among the parts. -/
theorem ofText_cases (s : String) :
    (∃ first rest, parts ';' s = first :: rest ∧ serviceIndex s = 0 ∧
        ofText s = ⟨none, trim first, rest⟩) ∨
      ∃ n first second rest, parts ';' s = first :: second :: rest ∧ serviceIndex s = 1 ∧
        instanceTag? (trim first) = some n ∧ ofText s = ⟨some n, trim second, rest⟩ := by
  have tagged (n : Nat) : (ofText s).arcInstance = some n ↔ Tagged s n := by
    rw [← Header.arcInstance_read, Header.arcInstance_read_eq_some_iff]
  rcases ofParts_cases (parts ';' s) with ⟨nil, -⟩ | ⟨first, rest, hs, o⟩ |
    ⟨n, first, second, rest, hs, tag, o⟩
  · exact absurd nil (parts_ne_nil ';' s)
  · refine .inl ⟨first, rest, hs, if_neg ?_, o⟩
    rintro ⟨n, given⟩
    have some := (tagged n).2 given
    rw [ofText, o] at some
    cases some
  · exact .inr ⟨n, first, second, rest, hs, if_pos ⟨n, (tagged n).1 (by rw [ofText, o])⟩, tag, o⟩

theorem service_ofText (s : String) : (ofText s).service = trim (servicePart s) := by
  rcases ofText_cases s with ⟨first, rest, hs, index, o⟩ | ⟨n, first, second, rest, hs, index, -, o⟩
  · rw [o, servicePart, hs, index]
    rfl
  · rw [o, servicePart, hs, index]
    rfl

/-- Another service with the same words is no instance tag if the first is none, so the header keeps
its instance number and its body. -/
theorem ofText_of_service (hs' : parts ';' s' = (parts ';' s).set (serviceIndex s) part)
    (same : words part = words (servicePart s)) :
    ofText s' = { ofText s with service := trim part } := by
  rcases ofText_cases s with ⟨first, rest, hs, index, o⟩ |
    ⟨n, first, second, rest, hs, index, tag, o⟩
  · have service : servicePart s = first := by rw [servicePart, hs, index]; rfl
    rw [hs, index, List.set_cons_zero] at hs'
    rw [service] at same
    cases rest with
    | nil => rw [o, ofText, hs', ofParts]
    | cons second rest =>
      have untagged : instanceTag? (trim part) = none := by
        rw [Option.eq_none_iff_forall_ne_some]
        intro n tag
        obtain ⟨unbroken, ne⟩ := unbroken_of_instanceTag? tag
        rw [← words_trim part, words_of_unbroken unbroken ne] at same
        rw [← trim_of_words_eq_singleton same.symm] at tag
        simp only [ofText, hs, ofParts, tag] at o
        cases o
      rw [o]
      simp only [ofText, hs', ofParts, untagged]
  · rw [hs, index, List.set_cons_succ, List.set_cons_zero] at hs'
    rw [o]
    simp only [ofText, hs', ofParts, tag]

theorem trim_service (s : String) : trim (ofText s).service = (ofText s).service := by
  rw [service_ofText, trim_trim]

theorem identifierOfWords?_servicePart (s : String) :
    identifierOfWords? (words (servicePart s)) =
      if (ofText s).unsupportedVersion? = none then some (ofText s).identifier else none := by
  rw [← words_trim, ← service_ofText, identifierOfWords?_service (trim_service s)]

end Opening

/-! ### Headers -/

namespace Header

variable {s : String}

/-- A header whose service is accepted is read with its body. -/
theorem read_of_identifierOfWords? {name : String}
    (accepted : identifierOfWords? (words (servicePart s)) = some name) :
    read s =
      { identifier := name
        arcInstance := (Opening.ofText s).arcInstance
        results := (Body.ofParts (Opening.ofText s).body).results
        error := (Body.ofParts (Opening.ofText s).body).error? } := by
  rw [Opening.identifierOfWords?_servicePart, Option.ite_none_right_eq_some] at accepted
  obtain ⟨supported, identifier⟩ := accepted
  rw [read_eq, Reading.header_ofOpening_of_eq_none supported, Option.some.inj identifier]

/-- A header whose service is not accepted keeps its instance number and the text behind the first
word of the service. -/
theorem read_of_identifierOfWords?_eq_none
    (refused : identifierOfWords? (words (servicePart s)) = none) :
    ∃ name rest, (words (servicePart s)).head? = some name ∧
      trim (servicePart s) = name ++ rest ∧
        read s =
          { arcInstance := (read s).arcInstance
            error := some (.unsupportedVersion (trim rest)) } := by
  have service := Opening.service_ofText s
  have ne : (Opening.ofText s).service ≠ "" := by
    intro empty
    rw [← words_trim, ← service, empty, words_empty] at refused
    cases refused
  have first := Opening.words_service (Opening.trim_service s) ne
  rw [Opening.identifierOfWords?_servicePart] at refused
  cases version : (Opening.ofText s).unsupportedVersion? with
  | none =>
    rw [if_pos version] at refused
    cases refused
  | some v =>
    obtain ⟨rfl, -, -⟩ := Opening.unsupportedVersion?_eq_some_iff.1 version
    refine ⟨(Opening.ofText s).identifier, fromBlank (Opening.ofText s).service, ?_, ?_, ?_⟩
    · rw [← words_trim, ← service, first]
      rfl
    · rw [← service, Opening.identifier_eq, untilBlank_append_fromBlank]
    · rw [arcInstance_read, read_eq, Reading.header_ofOpening_of_eq_some version,
        Opening.version_eq]

/-- The words of the service decide. If they are an identifier with at most the supported version
behind it, or none at all, the version is not at fault, and any blanks between and around the same
words make the same header. Otherwise the version is at fault: what is left of the header is its
instance number, and the error keeps what stands behind the first word. -/
theorem read_of_service (s : String) :
    (∀ n, (read s).arcInstance = some n ↔ Tagged s n) ∧
      (∀ name, identifierOfWords? (words (servicePart s)) = some name →
        (read s).identifier = name ∧
          (∀ version, (read s).error ≠ some (.unsupportedVersion version)) ∧
          ∀ s' part, parts ';' s' = (parts ';' s).set (serviceIndex s) part →
            words part = words (servicePart s) → read s' = read s) ∧
      (identifierOfWords? (words (servicePart s)) = none →
        ∃ name rest, (words (servicePart s)).head? = some name ∧
          trim (servicePart s) = name ++ rest ∧
            read s =
              { arcInstance := (read s).arcInstance
                error := some (.unsupportedVersion (trim rest)) }) := by
  refine ⟨fun n => arcInstance_read_eq_some_iff, fun name accepted => ?_,
    read_of_identifierOfWords?_eq_none⟩
  have accept := read_of_identifierOfWords? accepted
  refine ⟨by rw [accept], fun version error => ?_, fun s' part hs' same => ?_⟩
  · rw [accept] at error
    obtain ⟨word, -, wrong⟩ := Body.exists_of_error?_eq_some error
    cases wrong
  · have opening := Opening.ofText_of_service hs' same
    have service := Opening.service_ofText s'
    rw [opening] at service
    have accepted' : identifierOfWords? (words (servicePart s')) = some name := by
      rw [← words_trim, ← service, words_trim, same, accepted]
    rw [accept, read_of_identifierOfWords? accepted', opening]

/-- Blanks of any kind may stand around the supported version. Another word behind it is part of the
version, with the blanks between them, and the malformed body does not show. -/
theorem read_of_service_arc :
    read "i=2;mx 1; spf=pass" = read "i=2;\u2003mx\t1\u00A0; spf=pass" ∧
      read "i=+2; mx\t1 \u2003 2 ; dkim" =
        { arcInstance := some 2, error := some (.unsupportedVersion "1 \u2003 2") } := by
  have accepted : identifierOfWords? (words (servicePart "i=2;\u2003mx\t1\u00A0; spf=pass")) =
      some "mx" := by decide
  have respaced : parts ';' "i=2;mx 1; spf=pass" =
      (parts ';' "i=2;\u2003mx\t1\u00A0; spf=pass").set
        (serviceIndex "i=2;\u2003mx\t1\u00A0; spf=pass") "mx 1" := by decide
  have same : words "mx 1" = words (servicePart "i=2;\u2003mx\t1\u00A0; spf=pass") := by decide
  have refused : identifierOfWords? (words (servicePart "i=+2; mx\t1 \u2003 2 ; dkim")) = none := by
    decide
  obtain ⟨-, accept, -⟩ := read_of_service "i=2;\u2003mx\t1\u00A0; spf=pass"
  obtain ⟨-, -, refuse⟩ := read_of_service "i=+2; mx\t1 \u2003 2 ; dkim"
  refine ⟨(accept "mx" accepted).2.2 _ _ respaced same, ?_⟩
  obtain ⟨name, rest, first, cut, left⟩ := refuse refused
  have part : servicePart "i=+2; mx\t1 \u2003 2 ; dkim" = " mx\t1 \u2003 2 " := by decide
  have number : (read "i=+2; mx\t1 \u2003 2 ; dkim").arcInstance = some 2 := by decide
  have head : (words " mx\t1 \u2003 2 ").head? = some "mx" := by decide
  rw [part] at first cut
  obtain rfl := Option.some.inj (head.symm.trans first)
  have behind : after? "mx" (trim " mx\t1 \u2003 2 ") = some "\t1 \u2003 2" := by decide
  obtain rfl := Option.some.inj (behind.symm.trans (after?_eq_some_iff.2 cut))
  have version : trim "\t1 \u2003 2" = "1 \u2003 2" := by decide
  rw [left, number, version]

end Header

end MailAuth
