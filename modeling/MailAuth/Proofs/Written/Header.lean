import MailAuth.Header.Preamble
import MailAuth.Header.Reading
import MailAuth.Proofs.Opening
import MailAuth.Proofs.Written.Result

/-!
# Reading a written header

A written header is cut at the separators between what was written (`Preamble.parts_write`): first
the parts of the preamble, which are read as its opening if it is legible (`Opening.ofParts_write`),
then one part for each result, if the results are contained (`Body.results_write`). So reading gives
the identifier and the instance number again and, result by result, what is stated
(`Header.read_write`). No other preamble is read as it is written (`Preamble.legible_iff`).
-/

namespace MailAuth

open Text

namespace Preamble

/-- What is needed to read a preamble as it is. -/
structure Legible (p : Preamble) : Prop where
  identifier : Clean p.identifier
  arcInstance : ∀ n ∈ p.arcInstance, 1 ≤ n ∧ n ≤ maxInstance
  /-- A version alone would be read as the identifier. -/
  version : p.version → p.identifier ≠ ""
  /-- An identifier alone could be read as an instance tag. -/
  untagged : p.arcInstance = none → p.version = false → instanceTag? p.identifier = none

instance (p : Preamble) : Decidable p.Legible :=
  decidable_of_iff
    (Clean p.identifier ∧ (∀ n ∈ p.arcInstance, 1 ≤ n ∧ n ≤ maxInstance) ∧
      (p.version → p.identifier ≠ "") ∧
      (p.arcInstance = none → p.version = false → instanceTag? p.identifier = none))
    ⟨fun ⟨identifier, arcInstance, version, untagged⟩ =>
      ⟨identifier, arcInstance, version, untagged⟩,
      fun h => ⟨h.identifier, h.arcInstance, h.version, h.untagged⟩⟩

/-- The identifier and the version as they stand in a header. -/
def service (p : Preamble) : String :=
  p.identifier ++ (if p.version then " " ++ supportedVersion else "")

/-- The parts that a preamble takes in a header. -/
def parts (p : Preamble) : List String :=
  match p.arcInstance with
  | some n => ["i=" ++ n.repr, " " ++ p.service]
  | none => [p.service]

variable {p : Preamble}

/-- The identifier and the version take one part. -/
theorem not_mem_service (h : ';' ∉ p.identifier.toList) : ';' ∉ p.service.toList := by
  rw [service, String.toList_append, List.mem_append, not_or]
  refine ⟨h, ?_⟩
  split <;> decide

/-- A preamble is cut into the instance tag, if there is one, and the service. -/
theorem parts_text (h : ';' ∉ p.identifier.toList) : Text.parts ';' p.text = p.parts := by
  have text : p.text = p.tag ++ p.service := String.append_assoc ..
  have single := not_mem_service h
  cases hi : p.arcInstance with
  | none =>
    have : p.text = p.service := by simp [text, tag, hi]
    rw [this, parts_of_not_mem single, parts, hi]
  | some n =>
    have : p.text = "i=" ++ n.repr ++ String.singleton ';' ++ (" " ++ p.service) := by
      rw [← String.toList_inj]
      simp [text, tag, hi]
    have spaced : ';' ∉ (" " ++ p.service).toList := by simpa using single
    rw [this, parts_append, parts_of_not_mem (clean_tag n).2, parts_of_not_mem spaced, parts, hi]
    rfl

/-- There are no blanks at the ends of an identifier with its version. -/
theorem Legible.trim_service (h : p.Legible) : trim p.service = p.service := by
  obtain ⟨identifier, arcInstance, version⟩ := p
  cases version with
  | false =>
    have : service ⟨identifier, arcInstance, false⟩ = identifier := by simp [service]
    rw [this]
    exact trim_of_unbroken h.identifier.1
  | true =>
    have ne := h.version rfl
    have chars : (service ⟨identifier, arcInstance, true⟩).toList =
        identifier.toList ++ [' ', '1'] := by
      simp [service, supportedVersion]
    rw [← String.toList_inj, toList_trim, chars]
    refine trimBlanks_eq_self (fun c hc => ?_) fun c hc => ?_
    · cases hs : identifier.toList with
      | nil => exact absurd (String.toList_inj.1 hs) ne
      | cons first rest =>
        rw [hs] at hc
        cases hc
        exact h.identifier.1 c (by simp [hs])
    · rw [List.getLast?_append] at hc
      cases hc
      decide

/-- Without an instance tag the first part is read as no tag. -/
theorem Legible.instanceTag?_service (h : p.Legible) (none : p.arcInstance = none) :
    instanceTag? p.service = .none := by
  cases hv : p.version with
  | false =>
    have : p.service = p.identifier := by simp [service, hv]
    rw [this]
    exact h.untagged none hv
  | true => exact instanceTag?_of_blank (by simp [service, hv])

end Preamble

/-! ### The parts of a header -/

namespace Result

variable {results : List Result}

/-- The parts that results take in a header. -/
def parts (results : List Result) : List String :=
  if results.isEmpty then [" none"] else results.map (" " ++ ·.write)

/-- Results are written part by part, each behind a separator. -/
theorem writeAll_eq (results : List Result) :
    writeAll results = String.join ((parts results).map (String.singleton ';' ++ ·)) := by
  cases results with
  | nil => rfl
  | cons r rest =>
    simp only [writeAll, parts, List.isEmpty_cons, Bool.false_eq_true, if_false, List.map_map]
    refine congrArg String.join (List.map_congr_left fun r _ => ?_)
    have separator : "; " = String.singleton ';' ++ " " := rfl
    rw [Function.comp_apply, separator, String.append_assoc]

theorem parts_eq_cons (results : List Result) : ∃ first rest, parts results = first :: rest := by
  cases results with
  | nil => exact ⟨_, _, rfl⟩
  | cons r rest => exact ⟨_, _, rfl⟩

/-- A contained result takes one part. -/
theorem not_mem_of_mem_parts (contained : ∀ r ∈ results, r.Contained) :
    ∀ part ∈ parts results, ';' ∉ part.toList := by
  intro part hpart
  unfold parts at hpart
  split at hpart
  · rw [List.mem_singleton.1 hpart]
    decide
  · obtain ⟨r, hr, rfl⟩ := List.mem_map.1 hpart
    simpa using (contained r hr).not_mem_write

end Result

namespace Preamble

variable {p : Preamble} {results : List Result}

/-- A written header is cut into the parts of its preamble and those of its results. -/
theorem parts_write (h : ';' ∉ p.identifier.toList) (contained : ∀ r ∈ results, r.Contained) :
    Text.parts ';' (p.write results) = p.parts ++ Result.parts results := by
  have single : ∀ part ∈ Result.parts results, Text.parts ';' part = [part] := fun part hpart =>
    parts_of_not_mem (Result.not_mem_of_mem_parts contained part hpart)
  rw [write, Result.writeAll_eq, parts_append_join, parts_text h, List.flatMap_congr single,
    List.flatMap_singleton']

end Preamble

/-! ### The opening -/

namespace Opening

variable {p : Preamble}

/-- Behind an instance tag the service is what follows it. -/
theorem ofParts_of_tagged {n : Nat} (hn : p.arcInstance = some n)
    (range : 1 ≤ n ∧ n ≤ maxInstance) (body : List String) :
    ofParts (p.parts ++ body) = ⟨some n, trim p.service, body⟩ := by
  have tagged : instanceTag? (trim ("i=" ++ n.repr)) = some n := by
    rw [trim_of_unbroken (clean_tag n).1]
    exact instanceTag?_repr range
  simp only [Preamble.parts, hn, List.cons_append, List.nil_append, ofParts, tagged,
    trim_space_append]

/-- Without an instance tag the service comes first. -/
theorem ofParts_of_untagged (hn : p.arcInstance = none)
    (untagged : instanceTag? (trim p.service) = none) (first : String) (rest : List String) :
    ofParts (p.parts ++ first :: rest) = ⟨none, trim p.service, first :: rest⟩ := by
  simp only [Preamble.parts, hn, List.singleton_append, ofParts, untagged]

/-- The opening of a legible preamble. -/
theorem ofParts_write (h : p.Legible) (results : List Result) :
    ofParts (p.parts ++ Result.parts results) =
      ⟨p.arcInstance, p.service, Result.parts results⟩ := by
  cases hn : p.arcInstance with
  | none =>
    have untagged : instanceTag? (trim p.service) = none := by
      rw [h.trim_service]
      exact h.instanceTag?_service hn
    obtain ⟨first, rest, hparts⟩ := Result.parts_eq_cons results
    rw [hparts, ofParts_of_untagged hn untagged, h.trim_service]
  | some n => rw [ofParts_of_tagged hn (h.arcInstance n hn), h.trim_service]

/-- The identifier ends where the version begins. -/
theorem identifier_write (h : p.Legible) (body : List String) :
    identifier ⟨p.arcInstance, p.service, body⟩ = p.identifier := by
  have whole : ∀ c ∈ p.identifier.toList, (!isBlank c) = true := fun c hc => by
    simp [h.identifier.1 c hc]
  have ends : ∀ v : Bool,
      (if v then " " ++ supportedVersion else "").toList.takeWhile (!isBlank ·) = [] := by decide
  rw [identifier, Preamble.service, String.toList_append, List.takeWhile_append_of_pos whole, ends,
    List.append_nil, String.ofList_toList]

/-- The version is the supported one, or none is there. -/
theorem unsupportedVersion?_write (h : p.Legible) (body : List String) :
    unsupportedVersion? ⟨p.arcInstance, p.service, body⟩ = none := by
  have whole : ∀ c ∈ p.identifier.toList, (!isBlank c) = true := fun c hc => by
    simp [h.identifier.1 c hc]
  have rest : ∀ v : Bool, trim (String.ofList
      ((if v then " " ++ supportedVersion else "").toList.dropWhile (!isBlank ·))) =
        if v then supportedVersion else "" := by decide
  have version : version ⟨p.arcInstance, p.service, body⟩ =
      if p.version then supportedVersion else "" := by
    rw [version, Preamble.service, String.toList_append, List.dropWhile_append_of_pos whole, rest]
  rw [unsupportedVersion?, version]
  cases p.version <;> rfl

end Opening

/-! ### The body -/

namespace Body

variable {results : List Result}

/-- The segments of written results are their statements, or the placeholder. -/
theorem ofParts_write (contained : ∀ r ∈ results, r.Contained) :
    ofParts (Result.parts results) =
      ⟨if results.isEmpty then [.placeholder "none"]
        else results.map (.statement ·.statement)⟩ := by
  cases results with
  | nil => decide
  | cons r rest =>
    have read : ∀ r' ∈ r :: rest, (Segment.ofPart? ∘ (" " ++ ·.write)) r' =
        some (.statement r'.statement) := fun r' hr' => (contained r' hr').ofPart?_write
    simp only [ofParts, Result.parts, List.isEmpty_cons, Bool.false_eq_true, if_false,
      List.filterMap_map]
    rw [List.filterMap_eq_map_iff_forall_eq_some.2 read]

/-- None of the segments is malformed. -/
theorem error?_write (contained : ∀ r ∈ results, r.Contained) :
    (ofParts (Result.parts results)).error? = none := by
  rw [ofParts_write contained, error?, Option.map_eq_none_iff, List.findSome?_eq_none_iff]
  cases results with
  | nil => simp [Segment.malformed?]
  | cons r rest =>
    intro s hs
    obtain ⟨r', -, rfl⟩ := List.mem_map.1 hs
    rfl

/-- The results that are read are those that the segments state. -/
theorem results_write (contained : ∀ r ∈ results, r.Contained) :
    (ofParts (Result.parts results)).results = results.map (·.statement.result) := by
  rw [Body.results, readable_of_error?_eq_none (error?_write contained), ofParts_write contained]
  cases results with
  | nil => rfl
  | cons r rest =>
    simp only [List.isEmpty_cons, Bool.false_eq_true, if_false, List.filterMap_map]
    exact List.filterMap_eq_map_iff_forall_eq_some.2 fun r' _ => rfl

end Body

/-! ### The header -/

namespace Header

variable {p : Preamble} {results : List Result}

/-- Reading a written header gives the preamble again, and what is stated of each result. -/
theorem read_write (h : p.Legible) (contained : ∀ r ∈ results, r.Contained) :
    read (p.write results) =
      ⟨p.identifier, p.arcInstance, results.map (·.statement.result), none⟩ := by
  rw [read_eq, Opening.ofText, Preamble.parts_write h.identifier.2 contained,
    Opening.ofParts_write h, Reading.ofOpening, Opening.unsupportedVersion?_write h]
  simp only [Opening.identifier_write h, Body.error?_write contained, Body.results_write contained]

/-- Legible results come back with their texts as they are written, and settled. -/
theorem read_write_of_legible (h : p.Legible) (legible : ∀ r ∈ results, r.Legible) :
    read (p.write results) = ⟨p.identifier, p.arcInstance, results.map Result.reread, none⟩ := by
  rw [read_write h fun r hr => (legible r hr).contained]
  have stated : ∀ r ∈ results, r.statement.result = r.reread := fun r hr =>
    (legible r hr).result_statement
  rw [List.map_congr_left stated]

/-- The version without an identifier is read as the identifier. -/
theorem identifier_of_version_alone (empty : p.identifier = "") (version : p.version)
    (range : ∀ n ∈ p.arcInstance, 1 ≤ n ∧ n ≤ maxInstance)
    (contained : ∀ r ∈ results, r.Contained) : (read (p.write results)).identifier = "1" := by
  have service : trim p.service = "1" := by
    rw [Preamble.service, empty, version]
    decide
  have opening : Opening.ofText (p.write results) =
      ⟨p.arcInstance, "1", Result.parts results⟩ := by
    rw [Opening.ofText, Preamble.parts_write (by simp [empty]) contained]
    cases hn : p.arcInstance with
    | none =>
      obtain ⟨first, rest, hparts⟩ := Result.parts_eq_cons results
      have untagged : instanceTag? (trim p.service) = none := by
        rw [service]
        decide
      rw [hparts, Opening.ofParts_of_untagged hn untagged, service]
    | some n => rw [Opening.ofParts_of_tagged hn (range n hn), service]
  have whole : String.ofList ("1".toList.takeWhile (!isBlank ·)) = "1" ∧
      trim (String.ofList ("1".toList.dropWhile (!isBlank ·))) = "" := by decide
  rw [read_eq, opening]
  simp only [Reading.ofOpening, Opening.unsupportedVersion?, Opening.version, Opening.identifier,
    whole, true_or, if_true]

/-- A tag in place of the identifier is read as the instance tag. -/
theorem arcInstance_of_tag_alone {n : Nat} (h : Clean p.identifier) (hn : p.arcInstance = none)
    (version : p.version = false) (tag : instanceTag? p.identifier = some n)
    (contained : ∀ r ∈ results, r.Contained) : (read (p.write results)).arcInstance = some n := by
  obtain ⟨first, rest, hparts⟩ := Result.parts_eq_cons results
  have service : p.service = p.identifier := by simp [Preamble.service, version]
  rw [arcInstance_read, Opening.ofText, Preamble.parts_write h.2 contained, hparts]
  simp only [Preamble.parts, hn, List.singleton_append, Opening.ofParts, service,
    trim_of_unbroken h.1, tag]

end Header

/-- The preambles that are read as they are written are the legible ones. -/
theorem Preamble.legible_iff {p : Preamble} {results : List Result} (clean : Clean p.identifier)
    (range : ∀ n ∈ p.arcInstance, 1 ≤ n ∧ n ≤ maxInstance)
    (contained : ∀ r ∈ results, r.Contained) :
    p.Legible ↔ (Header.read (p.write results)).identifier = p.identifier ∧
      (Header.read (p.write results)).arcInstance = p.arcInstance := by
  constructor
  · intro h
    rw [Header.read_write h contained]
    exact ⟨rfl, rfl⟩
  · rintro ⟨identifier, arcInstance⟩
    refine ⟨clean, range, fun version empty => ?_, fun none version => ?_⟩
    · rw [Header.identifier_of_version_alone empty version range contained, empty] at identifier
      exact absurd identifier (by decide)
    · rw [Option.eq_none_iff_forall_ne_some]
      intro n tag
      rw [Header.arcInstance_of_tag_alone clean none version tag contained, none] at arcInstance
      cases arcInstance

end MailAuth
