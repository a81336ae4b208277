import MailAuth.Proofs.ReadHeader

/-!
# What an error says

Reading records at most one error, and the error says how far reading got (`Header.Admits`). A
refused version leaves no identifier and no result. A malformed segment keeps the word at fault,
which is then neither the placeholder nor a method with a verdict. A missing instance tag leaves
nothing at all, and is found only where the tag has to be there. A property that is malformed is
dropped and never an error of the header.

With what is known of the results this gives the invariant of every header that is read
(`Header.invariant_of_read`).
-/

namespace MailAuth

open Text

/-! ### Malformed segments -/

/-- A segment fails at one of its words, which is not the placeholder and has no equals sign. -/
theorem Segment.of_ofPart?_eq_malformed {part word : String}
    (h : ofPart? part = some (.malformed word)) :
    word ∈ words part ∧ word ≠ "none" ∧ '=' ∉ word.toList := by
  rcases ofPart?_cases part with ⟨-, holds⟩ | ⟨_, -, holds⟩ |
    ⟨first, tokens, hwords, named, assigned, holds⟩ | ⟨_, _, _, -, -, -, holds⟩ <;> rw [holds] at h
  · cases h
  · cases h
  · obtain rfl := Segment.malformed.inj (Option.some.inj h)
    rw [hwords]
    exact ⟨List.mem_cons_self, named, assigned⟩
  · cases h

/-- The error of a body comes from a malformed segment. -/
theorem Body.exists_of_error?_eq_some {b : Body} {e : ReadError} (h : b.error? = some e) :
    ∃ word, .malformed word ∈ b.segments ∧ e = .malformedMethod word := by
  obtain ⟨word, found, rfl⟩ := Option.map_eq_some_iff.1 h
  obtain ⟨segment, mem, fails⟩ := List.exists_of_findSome?_eq_some found
  cases segment with
  | malformed w =>
    obtain rfl := Option.some.inj fails
    exact ⟨w, mem, rfl⟩
  | _ => cases fails

/-! ### Headers -/

namespace Header

/-- The header can have the error: nothing is left that the error forbids, and the error keeps a
text that is at fault. -/
def Admits (h : Header) : ReadError → Prop
  | .unsupportedVersion version =>
    h.identifier = "" ∧ h.results = [] ∧
      version ≠ "" ∧ trim version = version ∧ version ≠ supportedVersion
  | .malformedMethod word => word ≠ "" ∧ Bare word ∧ word ≠ "none"
  | .malformedParameter _ => False
  | .missingInstance _ => h.identifier = "" ∧ h.arcInstance = none ∧ h.results = []

/-- The error of a header is a refused version or a malformed segment. -/
theorem error_read_cases {value : String} {e : ReadError} (h : (read value).error = some e) :
    (∃ version, e = .unsupportedVersion version ∧
        (Opening.ofText value).unsupportedVersion? = some version) ∨
      ∃ word, e = .malformedMethod word ∧
        .malformed word ∈ (Body.ofParts (Opening.ofText value).body).segments := by
  rw [read_eq] at h
  cases version : (Opening.ofText value).unsupportedVersion? with
  | some v =>
    rw [Reading.header_ofOpening_of_eq_some version] at h
    exact .inl ⟨v, (Option.some.inj h).symm, rfl⟩
  | none =>
    rw [Reading.header_ofOpening_of_eq_none version] at h
    obtain ⟨word, mem, rfl⟩ := Body.exists_of_error?_eq_some h
    exact .inr ⟨word, rfl, mem⟩

/-- A header that is read can have the error it has. -/
theorem admits_read {value : String} {e : ReadError} (h : (read value).error = some e) :
    (read value).Admits e := by
  rcases error_read_cases h with ⟨version, rfl, refused⟩ | ⟨word, rfl, mem⟩
  · obtain ⟨rfl, named, unsupported⟩ := Opening.unsupportedVersion?_eq_some_iff.1 refused
    rw [read_eq, Reading.header_ofOpening_of_eq_some refused]
    exact ⟨rfl, rfl, named, trim_trim _, unsupported⟩
  · obtain ⟨part, hpart, holds⟩ := List.mem_filterMap.1 mem
    obtain ⟨hword, named, assigned⟩ := Segment.of_ofPart?_eq_malformed holds
    have clean := clean_of_mem_words (Opening.not_mem_of_mem_body hpart) hword
    exact ⟨(mem_words hword).1, ⟨clean, assigned⟩, named⟩

/-- Where no instance tag has to be there, none is missing. -/
theorem error_read_ne_missingInstance (value first : String) :
    (read value).error ≠ some (.missingInstance first) := by
  intro h
  rcases error_read_cases h with ⟨_, same, -⟩ | ⟨_, same, -⟩ <;> cases same

theorem admits_readArc {value : String} {e : ReadError} (h : (readArc value).error = some e) :
    (readArc value).Admits e := by
  cases tag : (read value).arcInstance with
  | none =>
    rw [readArc_of_isNone tag] at h ⊢
    obtain rfl := Option.some.inj h
    exact ⟨rfl, rfl, rfl⟩
  | some n =>
    rw [readArc_eq_read (by rw [tag]; rfl)] at h ⊢
    exact admits_read h

end Header

/-- The names that a method leaves open are read as they are written. -/
theorem Result.Normal.lowerBare_of_mem_names {r : Result} (h : r.Normal) :
    ∀ n ∈ r.evidence.names, LowerBare n := by
  intro n hn
  refine ⟨?_, h.lower n hn⟩
  have named := h.names
  obtain ⟨verdict, evidence⟩ := r
  cases evidence with
  | senderId reason headerKey headerValue =>
    rw [List.mem_singleton.1 hn]
    exact named
  | generic method m =>
    obtain ⟨p, hp, rfl⟩ := List.mem_map.1 hn
    exact (named.2 p hp).bare
  | _ => cases hn

/-- Evidence of no known method has a name that no spelling of a known name is. -/
theorem Evidence.WellNamed.not_sameName {name : String} {m : Properties}
    (h : (generic name m).WellNamed) : ∀ known ∈ Method.all, ¬ sameName known.name name :=
  Method.ofName?_eq_none_iff.1 h.ofName?

namespace Header

/-- Whatever is read, every text in the header is free of what separates texts, the names are in
lower case, verdicts and methods are told by their names, and the header can have the error it
has. -/
theorem invariant_of_read {value : String} {h : Header}
    (given : h = read value ∨ h = readArc value) :
    (∀ n ∈ h.arcInstance, 1 ≤ n ∧ n ≤ maxInstance) ∧
      Clean h.identifier ∧
      (∀ r ∈ h.results, LowerBare r.method ∧ r.verdict.Legible ∧
        (∀ t ∈ r.evidence.texts, Clean t) ∧ (∀ n ∈ r.evidence.names, LowerBare n) ∧
        ∀ name m, r.evidence = .generic name m →
          ∀ known ∈ Method.all, ¬ sameName known.name name) ∧
      (∀ e, h.error = some e → h.Admits e) ∧
      ∀ first, (read value).error ≠ some (.missingInstance first) := by
  have normal : h.Normal ∧ ∀ e, h.error = some e → h.Admits e := by
    cases given with
    | inl given =>
      rw [given]
      exact ⟨normal_read value, fun e he => admits_read he⟩
    | inr given =>
      rw [given]
      exact ⟨normal_readArc value, fun e he => admits_readArc he⟩
  obtain ⟨normal, admits⟩ := normal
  refine ⟨normal.arcInstance, normal.identifier, fun r hr => ?_, admits,
    error_read_ne_missingInstance value⟩
  have result := normal.results r hr
  refine ⟨result.names.method, result.verdict, result.texts, result.lowerBare_of_mem_names, ?_⟩
  intro name m generic
  exact Evidence.WellNamed.not_sameName (generic ▸ result.names)

/-- A malformed segment after a result of an unknown method, behind an instance tag. -/
theorem invariant_of_read_malformed :
    (readArc "i=9; mx; X-A=Ok K=v; dkim").Admits (.malformedMethod "dkim") ∧
      ∀ first, (read "i=9; mx; X-A=Ok K=v; dkim").error ≠ some (.missingInstance first) :=
  have invariant := @invariant_of_read "i=9; mx; X-A=Ok K=v; dkim" _ (.inr rfl)
  ⟨invariant.2.2.2.1 _ (by decide), invariant.2.2.2.2⟩

end Header

end MailAuth
