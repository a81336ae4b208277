import MailAuth.Header.Opening
import MailAuth.Proofs.Text.Clean

/-!
# What an opening holds

The instance number of an opening is in range, its identifier is clean, and no part of its body
holds a separator, whatever the header value is. An instance tag is told by its characters: there is
no blank among them (`instanceTag?_of_blank`), and a number in range, written out, is one
(`instanceTag?_repr`).
-/

namespace MailAuth

open Text

/-! ### Instance tags -/

/-- Apart from a plus sign a number has only digits. -/
theorem Text.mem_of_number? {s : String} {n : Nat} (h : number? s = some n) :
    ∀ c ∈ s.toList, c = '+' ∨ c.isDigit := by
  intro c hc
  obtain ⟨-, digit, -, -⟩ := number?_eq_some_iff.1 h
  rcases numberDigits_cases s.toList with plus | same
  · rw [plus] at hc
    exact (List.mem_cons.1 hc).imp_right (digit c)
  · rw [same] at hc
    exact .inr (digit c hc)

theorem Text.isBlank_of_isDigit {c : Char} (h : c.isDigit) : isBlank c = false := by
  simp only [Char.isDigit, Bool.and_eq_true, decide_eq_true_eq, UInt32.le_iff_toNat_le] at h
  rw [Bool.eq_false_iff]
  intro blank
  obtain ⟨range, mem, above, below⟩ := CodeRange.covers_iff.1 blank
  simp only [blankRanges, List.mem_cons, List.not_mem_nil, or_false] at mem
  simp only [Char.toNat] at above below
  grind

/-- A tag that is written out is clean. -/
theorem clean_tag (n : Nat) : Clean ("i=" ++ n.repr) := by
  have digit : ∀ c ∈ n.repr.toList, c.isDigit := by
    intro c hc
    rw [Nat.repr, String.toList_ofList] at hc
    exact Nat.isDigit_of_mem_toDigits (by decide) (by decide) hc
  have digits : Clean n.repr :=
    ⟨fun c hc => isBlank_of_isDigit (digit c hc), fun hc => absurd (digit _ hc) (by decide)⟩
  exact clean_append.2 ⟨by decide, digits⟩

/-- A tag is unbroken and not empty. -/
theorem unbroken_of_instanceTag? {s : String} {n : Nat} (h : instanceTag? s = some n) :
    Unbroken s ∧ s ≠ "" := by
  obtain ⟨digits, after, number⟩ := Option.bind_eq_some_iff.1 (Option.filter_eq_some_iff.1 h).1
  obtain rfl := after?_eq_some_iff.1 after
  have unbroken : Unbroken digits := by
    intro c hc
    rcases mem_of_number? number c hc with rfl | digit
    · decide
    · exact isBlank_of_isDigit digit
  refine ⟨unbroken_append.2 ⟨by decide, unbroken⟩, fun empty => ?_⟩
  have chars := congrArg String.toList empty
  rw [String.toList_append] at chars
  cases chars

/-- There is no blank in a tag. -/
theorem instanceTag?_of_blank {s : String} (h : ' ' ∈ s.toList) : instanceTag? s = none := by
  rw [Option.eq_none_iff_forall_ne_some]
  intro n tag
  exact absurd ((unbroken_of_instanceTag? tag).1 ' ' h) (by decide)

/-- The number of a tag is in range. -/
theorem range_of_instanceTag? {s : String} {n : Nat} (h : instanceTag? s = some n) :
    1 ≤ n ∧ n ≤ maxInstance := by
  simpa using (Option.filter_eq_some_iff.1 h).2

/-- A number in range makes a tag. -/
theorem instanceTag?_repr {n : Nat} (h : 1 ≤ n ∧ n ≤ maxInstance) :
    instanceTag? ("i=" ++ n.repr) = some n := by
  have after : after? "i=" ("i=" ++ n.repr) = some n.repr := after?_eq_some_iff.2 rfl
  have room : n < numberBound := Nat.lt_of_le_of_lt h.2 (by decide)
  rw [instanceTag?, after, Option.bind_some, number?_repr room, Option.filter_some,
    if_pos (by simpa using h)]

/-! ### The parts of an opening -/

namespace Opening

variable {parts : List String} {value : String}

/-- What an opening can be: of no parts, or begun by a service, or begun by an instance tag. -/
theorem ofParts_cases (parts : List String) :
    (parts = [] ∧ ofParts parts = ⟨none, "", []⟩) ∨
      (∃ first rest, parts = first :: rest ∧ ofParts parts = ⟨none, trim first, rest⟩) ∨
      ∃ n first second rest, parts = first :: second :: rest ∧
        instanceTag? (trim first) = some n ∧ ofParts parts = ⟨some n, trim second, rest⟩ := by
  match parts with
  | [] => exact .inl ⟨rfl, rfl⟩
  | [first] => exact .inr (.inl ⟨first, [], rfl, rfl⟩)
  | first :: second :: rest =>
    cases tag : instanceTag? (trim first) with
    | none => exact .inr (.inl ⟨first, second :: rest, rfl, by simp only [ofParts, tag]⟩)
    | some n => exact .inr (.inr ⟨n, first, second, rest, rfl, tag, by simp only [ofParts, tag]⟩)

/-- The instance number is in range. -/
theorem range_of_arcInstance {n : Nat} (h : (ofParts parts).arcInstance = some n) :
    1 ≤ n ∧ n ≤ maxInstance := by
  rcases ofParts_cases parts with ⟨-, o⟩ | ⟨_, _, -, o⟩ | ⟨m, _, _, _, -, tag, o⟩ <;> rw [o] at h
  · cases h
  · cases h
  · obtain rfl := Option.some.inj h
    exact range_of_instanceTag? tag

/-- Whether the version is supported is seen in the service alone. -/
theorem unsupportedVersion?_congr {o o' : Opening} (h : o.service = o'.service) :
    o.unsupportedVersion? = o'.unsupportedVersion? := by
  have same : o.version = o'.version := by rw [version, version, h]
  rw [unsupportedVersion?, unsupportedVersion?, same]

/-- A version that is not supported is not empty either. -/
theorem unsupportedVersion?_eq_some_iff {o : Opening} {version : String} :
    o.unsupportedVersion? = some version ↔
      o.version = version ∧ version ≠ "" ∧ version ≠ supportedVersion := by
  rw [unsupportedVersion?]
  split
  · rename_i h
    constructor
    · nofun
    · rintro ⟨rfl, named, unsupported⟩
      exact (h.elim named unsupported).elim
  · rename_i h
    rw [not_or] at h
    rw [Option.some.injEq]
    constructor
    · rintro rfl
      exact ⟨rfl, h⟩
    · exact fun given => given.1

/-- The body is made of the last parts. -/
theorem mem_of_mem_body {part : String} (h : part ∈ (ofParts parts).body) : part ∈ parts := by
  rcases ofParts_cases parts with ⟨-, o⟩ | ⟨_, _, rfl, o⟩ | ⟨_, _, _, _, rfl, -, o⟩ <;> rw [o] at h
  · cases h
  · exact List.mem_cons_of_mem _ h
  · exact List.mem_cons_of_mem _ (List.mem_cons_of_mem _ h)

/-- The service comes from one of the parts. -/
theorem mem_of_mem_service {c : Char} (h : c ∈ (ofParts parts).service.toList) :
    ∃ part ∈ parts, c ∈ part.toList := by
  rcases ofParts_cases parts with ⟨-, o⟩ | ⟨first, _, rfl, o⟩ | ⟨_, _, second, _, rfl, -, o⟩ <;>
    rw [o] at h
  · cases h
  · exact ⟨first, List.mem_cons_self, mem_of_mem_trim h⟩
  · exact ⟨second, List.mem_cons_of_mem _ List.mem_cons_self, mem_of_mem_trim h⟩

/-- The identifier of a header is clean. -/
theorem clean_identifier (value : String) : Clean (ofText value).identifier := by
  rw [Clean, Unbroken, identifier, String.toList_ofList]
  constructor
  · intro c hc
    simpa using List.all_eq_true.1 List.all_takeWhile c hc
  · intro hc
    obtain ⟨part, hpart, mem⟩ := mem_of_mem_service (List.takeWhile_subset _ hc)
    exact mem_parts hpart mem

/-- No part of the body of a header holds a separator. -/
theorem not_mem_of_mem_body {part : String} (h : part ∈ (ofText value).body) :
    ';' ∉ part.toList :=
  mem_parts (mem_of_mem_body h)

end Opening

end MailAuth
