import MailAuth.Header.Reading
import MailAuth.Proofs.Opening
import MailAuth.Proofs.Written.Result

/-!
# What is read

Whatever the header value is, the header that is read from it is normal (`Header.normal_read`,
`Header.normal_readArc`). Its results are legible, so each of them can be written and read again,
and the names in them are in lower case. The values themselves may hold the marks of quoting.

A part of a body holds no separator and its words hold no blank. Each step from a word to a result
keeps that: cutting at the equals sign, keeping properties in a map, and filling the fields of a
method from the map.
-/

namespace MailAuth

open Text

/-! ### Properties -/

/-- A property as it is read from a word of a header. -/
structure Property.Legible (p : Property) : Prop where
  key : LowerBare p.key
  value : Clean p.value

/-- A clean word spells a legible property, if any. -/
theorem Property.legible_of_read {token : String} {p : Property} (clean : Clean token)
    (h : read token = .ok p) : p.Legible := by
  obtain ⟨left, name, right, rfl, bare, ⟨inLeft, -, key⟩, inRight, -⟩ := read_eq_ok_iff.1 h
  obtain ⟨cleanLeft, cleanValue⟩ := clean_append.1 clean
  have cleanKey : Clean left := (clean_append.1 cleanLeft).1
  have bareName : Bare name := Bare.of_subset ⟨cleanKey, bare⟩ fun _ => inLeft.mem
  refine ⟨?_, cleanValue.of_subset fun _ => inRight.mem⟩
  rw [key]
  exact bareName.lowerBare_lowercase

/-! ### Evidence -/

namespace Evidence

variable {m : Properties} {name : String}

/-- The value under a key is clean, also where there is none. -/
theorem clean_value (h : ∀ p ∈ m.entries, p.Legible) (key : String) : Clean (m.value key) := by
  rcases m.value_eq_empty_or_mem key with empty | mem
  · rw [empty]
    exact clean_empty
  · exact (h _ mem).value

/-- The first header field stands before all others, or there is none. -/
theorem exists_append_firstHeader (m : Properties) :
    ((∀ q ∈ m.entries, Property.headerName? q.key = none) ∧ firstHeader m = ("", "")) ∨
      ∃ before after,
        m.entries = before ++ ⟨"header." ++ (firstHeader m).1, (firstHeader m).2⟩ :: after ∧
          ∀ q ∈ before, Property.headerName? q.key = none := by
  cases h : m.entries.findSome? fun q => (Property.headerName? q.key).map (·, q.value) with
  | none =>
    refine .inl ⟨fun q hq => ?_, by rw [firstHeader, h]; rfl⟩
    exact Option.map_eq_none_iff.1 (List.findSome?_eq_none_iff.1 h q hq)
  | some found =>
    obtain ⟨before, q, after, cut, names, unnamed⟩ := List.findSome?_eq_some_iff.1 h
    obtain ⟨name, hname, rfl⟩ := Option.map_eq_some_iff.1 names
    have first : firstHeader m = (name, q.value) := by rw [firstHeader, h]; rfl
    have key : q.key = "header." ++ name := after?_eq_some_iff.1 hname
    refine .inr ⟨before, after, ?_, fun p hp => Option.map_eq_none_iff.1 (unnamed p hp)⟩
    rw [first, ← key, cut]

/-- The first header field is one of the properties, or there is none. -/
theorem firstHeader_cases (m : Properties) :
    firstHeader m = ("", "") ∨
      ∃ p ∈ m.entries, p.key = "header." ++ (firstHeader m).1 ∧ p.value = (firstHeader m).2 := by
  rcases exists_append_firstHeader m with ⟨-, none⟩ | ⟨before, after, cut, -⟩
  · exact .inl none
  · have mem : ⟨"header." ++ (firstHeader m).1, (firstHeader m).2⟩ ∈ m.entries := by
      rw [cut]
      exact List.mem_append_cons_self
    exact .inr ⟨_, mem, rfl, rfl⟩

/-- The name of the first header field is read as it is, and its value is clean. -/
theorem legible_firstHeader (h : ∀ p ∈ m.entries, p.Legible) :
    LowerBare (firstHeader m).1 ∧ Clean (firstHeader m).2 := by
  rcases firstHeader_cases m with none | ⟨p, hp, key, value⟩
  · rw [none]
    decide +kernel
  · obtain ⟨named, clean⟩ := h p hp
    rw [key] at named
    rw [value] at clean
    exact ⟨(lowerBare_append.1 named).2, clean⟩

/-- The texts of a method are the values of properties. -/
theorem clean_of_mem_texts_ofMethod (h : ∀ p ∈ m.entries, p.Legible) (method : Method) :
    ∀ t ∈ (ofMethod method m).texts, Clean t := by
  intro t ht
  have value := clean_value h
  cases method with
  | senderId =>
    rcases List.mem_pair.1 ht with rfl | rfl
    · exact value _
    · exact (legible_firstHeader h).2
  | _ =>
    simp only [ofMethod, texts, List.mem_cons, List.not_mem_nil, or_false] at ht
    grind

/-- The evidence of a named method is well named. -/
theorem wellNamed_ofProperties (named : LowerBare name)
    (h : ∀ p ∈ m.entries, p.Legible) : (ofProperties name m).WellNamed := by
  unfold ofProperties
  split
  · rename_i method _
    cases method with
    | senderId => exact (legible_firstHeader h).1.bare
    | _ => trivial
  · rename_i unknown
    refine ⟨⟨named, fun known _ same => ?_⟩, fun p hp => (h p hp).key⟩
    rw [← same, Method.ofName?_name] at unknown
    cases unknown

theorem clean_of_mem_texts_ofProperties (h : ∀ p ∈ m.entries, p.Legible) :
    ∀ t ∈ (ofProperties name m).texts, Clean t := by
  unfold ofProperties
  split
  · exact clean_of_mem_texts_ofMethod h _
  · intro t ht
    obtain ⟨p, hp, rfl⟩ := List.mem_map.1 ht
    exact (h p hp).value

theorem lowercase_of_mem_names_ofProperties (h : ∀ p ∈ m.entries, p.Legible) :
    ∀ n ∈ (ofProperties name m).names, lowercase n = n := by
  intro n hn
  unfold ofProperties at hn
  split at hn
  · rename_i method _
    cases method with
    | senderId =>
      rw [List.mem_singleton.1 hn]
      exact (legible_firstHeader h).1.lower
    | _ => cases hn
  · obtain ⟨p, hp, rfl⟩ := List.mem_map.1 hn
    exact (h p hp).key.lower

end Evidence

/-! ### Results -/

/-- A result as it is read from a header. -/
structure Result.Normal (r : Result) : Prop extends r.Legible where
  lower : ∀ n ∈ r.evidence.names, lowercase n = n

/-- A statement as it is read from a part without separators. -/
structure Statement.Legible (s : Statement) : Prop where
  method : LowerBare s.method
  verdict : s.verdict.Legible
  tokens : ∀ token ∈ s.tokens, Clean token

theorem Statement.Legible.property {s : Statement} (h : s.Legible) {p : Property}
    (hp : p ∈ s.properties) : p.Legible := by
  obtain ⟨token, mem, spelled⟩ := List.mem_filterMap.1 hp
  exact Property.legible_of_read (h.tokens token mem) (Property.read?_eq_some_iff.1 spelled)

/-- The result that a legible statement states is normal. -/
theorem Statement.Legible.normal_result {s : Statement} (h : s.Legible) : s.result.Normal := by
  have entry : ∀ p ∈ s.keptProperties.entries, p.Legible := fun p hp =>
    h.property (List.mem_of_mem_filter (Properties.mem_of_mem_ofList hp))
  exact
    { verdict := h.verdict
      names := Evidence.wellNamed_ofProperties h.method entry
      texts := Evidence.clean_of_mem_texts_ofProperties entry
      lower := Evidence.lowercase_of_mem_names_ofProperties entry }

/-- A part without separators holds no statement but a legible one. -/
theorem Segment.legible_of_ofPart? {part : String} {s : Statement} (clean : ';' ∉ part.toList)
    (h : ofPart? part = some (.statement s)) : s.Legible := by
  have word : ∀ w ∈ words part, Clean w := fun w hw => clean_of_mem_words clean hw
  rcases ofPart?_cases part with ⟨-, holds⟩ | ⟨_, -, holds⟩ | ⟨_, _, -, -, -, holds⟩ |
    ⟨first, tokens, p, hwords, -, spelled, holds⟩ <;> rw [holds] at h
  · cases h
  · cases h
  · cases h
  · rw [hwords] at word
    have legible := Property.legible_of_read (word first List.mem_cons_self) spelled
    obtain rfl := Segment.statement.inj (Option.some.inj h)
    exact ⟨legible.key, Verdict.legible_ofText legible.value,
      fun token mem => word token (List.mem_cons_of_mem _ mem)⟩

/-- Results are stated in segments of the body. -/
theorem Body.exists_of_mem_results {b : Body} {r : Result} (h : r ∈ b.results) :
    ∃ s : Statement, .statement s ∈ b.segments ∧ s.result = r := by
  obtain ⟨segment, readable, states⟩ := List.mem_filterMap.1 h
  have mem := List.takeWhile_subset _ readable
  cases segment with
  | statement s => exact ⟨s, mem, Option.some.inj states⟩
  | _ => cases states

/-! ### Headers -/

namespace Header

/-- A header as it is read, but for the error. -/
structure Normal (h : Header) : Prop where
  identifier : Clean h.identifier
  arcInstance : ∀ n ∈ h.arcInstance, 1 ≤ n ∧ n ≤ maxInstance
  results : ∀ r ∈ h.results, r.Normal

/-- A header of which nothing is left but the instance number is normal. -/
theorem normal_of_empty {n : Option Nat} {error : Option ReadError}
    (range : ∀ m ∈ n, 1 ≤ m ∧ m ≤ maxInstance) :
    Normal { arcInstance := n, error := error } := by
  refine ⟨?_, range, nofun⟩
  show Clean ""
  exact clean_empty

/-- Whatever the header value is, the header that is read from it is normal. -/
theorem normal_read (value : String) : (read value).Normal := by
  have range : ∀ n ∈ (Opening.ofText value).arcInstance, 1 ≤ n ∧ n ≤ maxInstance :=
    fun n hn => Opening.range_of_arcInstance hn
  rw [read_eq]
  cases version : (Opening.ofText value).unsupportedVersion? with
  | some v =>
    rw [Reading.header_ofOpening_of_eq_some version]
    exact normal_of_empty range
  | none =>
    rw [Reading.header_ofOpening_of_eq_none version]
    refine ⟨Opening.clean_identifier value, range, fun r hr => ?_⟩
    obtain ⟨s, mem, rfl⟩ := Body.exists_of_mem_results hr
    obtain ⟨part, hpart, holds⟩ := List.mem_filterMap.1 mem
    have legible := Segment.legible_of_ofPart? (Opening.not_mem_of_mem_body hpart) holds
    exact legible.normal_result

/-- Without an instance tag nothing is left but an error. -/
theorem readArc_of_isNone {value : String} (h : (read value).arcInstance = none) :
    readArc value = { error := some (.missingInstance (firstPart value)) } := by
  rw [read] at h
  simp [readArc, Reading.ofArcText, h]

theorem normal_readArc (value : String) : (readArc value).Normal := by
  cases h : (read value).arcInstance with
  | none =>
    rw [readArc_of_isNone h]
    exact normal_of_empty nofun
  | some n =>
    rw [readArc_eq_read (by rw [h]; rfl)]
    exact normal_read value

end Header

end MailAuth
