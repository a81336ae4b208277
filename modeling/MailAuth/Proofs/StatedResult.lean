import MailAuth.Proofs.Written.Result

/-!
# What a statement means

A part of a body whose first word holds an equals sign states a result. Its method and its verdict
stand in the first word, and every field of the evidence is told from the properties among the other
words (`Evidence.Tells`): a field has the last value under its key. The header field of `sender-id`
is the one of the first property that is about a header field at all, and its value is the last one
under that key.

Reading goes through two choices for that. The statement drops the properties about other header
fields (`Statement.get?_keptProperties`), and the evidence takes the least key that is left. Since
one such key is left at most, the two agree (`Statement.firstHeader_keptProperties`).
-/

namespace MailAuth

open Text

/-! ### The last value under a key -/

namespace Property

/-- The value of the last property with the key. -/
def lastValue? (ps : List Property) (key : String) : Option String :=
  (ps.filter (·.key == key)).getLast?.map (·.value)

/-- The value of the last property with the key, empty if there is none. -/
def lastValue (ps : List Property) (key : String) : String := (lastValue? ps key).getD ""

/-- The key of the first property about a header field. -/
def firstHeaderKey? (ps : List Property) : Option String := (ps.find? namesHeader).map (·.key)

/-- There is a last value under the key of a property. -/
theorem exists_lastValue? {ps : List Property} {p : Property} (h : p ∈ ps) :
    ∃ value, lastValue? ps p.key = some value := by
  have mem : p ∈ ps.filter (·.key == p.key) := List.mem_filter.2 ⟨h, by simp⟩
  have last := List.getLast?_eq_some_getLast (List.ne_nil_of_mem mem)
  exact ⟨_, by rw [lastValue?, last]; rfl⟩

/-- The key, in lower case, and the value around the first equals sign of a token. -/
def cut? (token : String) : Option Property :=
  (splitFirst '=' token).map fun (key, value) => ⟨lowercase key, value⟩

/-- In a token without blanks there is nothing to trim. -/
theorem read?_of_unbroken {token : String} (h : Unbroken token) : read? token = cut? token := by
  unfold read? read cut?
  cases cut : splitFirst '=' token with
  | none => rfl
  | some found =>
    obtain ⟨key, value⟩ := found
    obtain ⟨chars, -⟩ := splitFirst_eq_some_iff.1 cut
    have unbrokenKey : Unbroken key := fun c hc => h c (by simp [chars, hc])
    have unbrokenValue : Unbroken value := fun c hc => h c (by simp [chars, hc])
    simp only [trim_of_unbroken unbrokenKey, trim_of_unbroken unbrokenValue]
    rfl

end Property

namespace Properties

/-- The value under a key is that of the last property with the key. -/
theorem get?_ofList_eq_lastValue? (ps : List Property) (key : String) :
    (ofList ps).get? key = Property.lastValue? ps key := by
  rw [get?_ofList, Property.lastValue?, List.getLast?_eq_head?_reverse, ← List.filter_reverse,
    List.head?_filter]

end Properties

/-! ### The properties that count -/

namespace Statement

variable {s t : Statement} {key : String} {p : Property}

/-- A statement of `sender-id` is about the header field of the first property that is about one. -/
theorem headerKey?_eq (s : Statement) :
    s.headerKey? =
      if s.method = Method.senderId.name then Property.firstHeaderKey? s.properties else none :=
  rfl

/-- The key is about another header field than the statement. -/
def Foreign (s : Statement) (key : String) : Prop :=
  (Property.headerName? key).isSome ∧ ∃ first, s.headerKey? = some first ∧ key ≠ first

theorem conflict?_eq_none_iff : s.conflict? p = none ↔ ¬ s.Foreign p.key := by
  cases first : s.headerKey? <;> simp [conflict?, Foreign, first, Property.namesHeader]

/-- A property counts unless its key is about another header field. -/
theorem mem_counted :
    p ∈ s.properties.filter (fun p => (s.conflict? p).isNone) ↔
      p ∈ s.properties ∧ ¬ s.Foreign p.key := by
  rw [List.mem_filter, Option.isNone_iff_eq_none, conflict?_eq_none_iff]

/-- Under a key that is not about another header field is the last value. -/
theorem get?_keptProperties (h : ¬ s.Foreign key) :
    s.keptProperties.get? key = Property.lastValue? s.properties key := by
  rw [keptProperties, Properties.get?_ofList_eq_lastValue?, Property.lastValue?,
    Property.lastValue?, List.filter_filter]
  have all : ∀ p ∈ s.properties, (p.key == key && (s.conflict? p).isNone) = (p.key == key) := by
    intro p _
    by_cases same : p.key = key
    · have none := conflict?_eq_none_iff.2 (same ▸ h)
      simp [same, none]
    · simp [same]
  rw [List.filter_congr all]

/-- Nothing is kept under a key that is about another header field. -/
theorem get?_keptProperties_of_foreign (h : s.Foreign key) : s.keptProperties.get? key = none := by
  rw [keptProperties, Properties.get?_ofList_eq_lastValue?, Property.lastValue?]
  have none : (s.properties.filter fun p => (s.conflict? p).isNone).filter (·.key == key) = [] := by
    rw [List.filter_eq_nil_iff]
    intro p hp same
    obtain rfl : p.key = key := by simpa using same
    exact (mem_counted.1 hp).2 h
  rw [none]
  rfl

/-- What is stated depends on the method, the verdict, the last value under each key and the header
field that the statement is about. -/
theorem result_congr (method : s.method = t.method) (verdict : s.verdict = t.verdict)
    (header : s.headerKey? = t.headerKey?)
    (values : ∀ key, Property.lastValue? s.properties key = Property.lastValue? t.properties key) :
    s.result = t.result := by
  have kept : s.keptProperties = t.keptProperties := by
    refine Properties.eq_of_get? fun key => ?_
    have foreign : s.Foreign key ↔ t.Foreign key := by rw [Foreign, Foreign, header]
    by_cases h : s.Foreign key
    · rw [get?_keptProperties_of_foreign h, get?_keptProperties_of_foreign (foreign.1 h)]
    · rw [get?_keptProperties h, get?_keptProperties (mt foreign.2 h), values]
  rw [result, result, method, verdict, kept]

/-- Properties may change places, as long as those with one key stay in order and the first about a
header field, where it matters, stays about the same one. -/
theorem result_congr_of_order (method : s.method = t.method) (verdict : s.verdict = t.verdict)
    (order : ∀ key, s.properties.filter (·.key == key) = t.properties.filter (·.key == key))
    (first : s.method = Method.senderId.name →
      Property.firstHeaderKey? s.properties = Property.firstHeaderKey? t.properties) :
    s.result = t.result := by
  have header : s.headerKey? = t.headerKey? := by
    rw [headerKey?_eq, headerKey?_eq, ← method]
    split
    · exact first ‹_›
    · rfl
  refine result_congr method verdict header fun key => ?_
  rw [Property.lastValue?, Property.lastValue?, order]

/-- Of the tokens only the properties count. -/
theorem result_congr_of_properties (method : s.method = t.method) (verdict : s.verdict = t.verdict)
    (properties : s.properties = t.properties) : s.result = t.result :=
  result_congr_of_order method verdict (fun key => by rw [properties]) fun _ => by rw [properties]

/-- Only `sender-id` is about one header field. -/
theorem not_foreign (h : s.method ≠ Method.senderId.name) (key : String) : ¬ s.Foreign key := by
  rintro ⟨-, first, some, -⟩
  rw [headerKey?, if_neg h] at some
  cases some

end Statement

/-! ### Evidence -/

/-- Every field of the evidence is told from the properties. -/
def Evidence.Tells (ps : List Property) : Evidence → Prop
  | .auth reason account =>
    reason = Property.lastValue ps "reason" ∧ account = Property.lastValue ps "smtp.auth"
  | .dkim reason domain identifier =>
    reason = Property.lastValue ps "reason" ∧ domain = Property.lastValue ps "header.d" ∧
      identifier = Property.lastValue ps "header.i"
  | .domainKeys reason domain sentFrom sender =>
    reason = Property.lastValue ps "reason" ∧ domain = Property.lastValue ps "header.d" ∧
      sentFrom = Property.lastValue ps "header.from" ∧
      sender = Property.lastValue ps "header.sender"
  | .ipRev reason ip =>
    reason = Property.lastValue ps "reason" ∧ ip = Property.lastValue ps "policy.iprev"
  | .senderId reason headerKey headerValue =>
    reason = Property.lastValue ps "reason" ∧
      match Property.firstHeaderKey? ps with
      | some first =>
        first = "header." ++ headerKey ∧ Property.lastValue? ps first = some headerValue
      | none => headerKey = "" ∧ headerValue = ""
  | .spf reason mailFrom helo =>
    reason = Property.lastValue ps "reason" ∧ mailFrom = Property.lastValue ps "smtp.mailfrom" ∧
      helo = Property.lastValue ps "smtp.helo"
  | .dmarc reason headerFrom =>
    reason = Property.lastValue ps "reason" ∧ headerFrom = Property.lastValue ps "header.from"
  | .generic _ m => ∀ key, m.get? key = Property.lastValue? ps key

namespace Statement

variable {s : Statement}

/-- The one header field of `sender-id` is that of the first property about a header field, with the
last value under its key. -/
theorem firstHeader_keptProperties (h : s.method = Method.senderId.name) :
    match Property.firstHeaderKey? s.properties with
    | some first => first = "header." ++ (Evidence.firstHeader s.keptProperties).1 ∧
        Property.lastValue? s.properties first = some (Evidence.firstHeader s.keptProperties).2
    | none => Evidence.firstHeader s.keptProperties = ("", "") := by
  have counted {q : Property} (hq : q ∈ s.keptProperties.entries) :
      q ∈ s.properties ∧ ¬ s.Foreign q.key :=
    mem_counted.1 (Properties.mem_of_mem_ofList hq)
  cases found : s.properties.find? Property.namesHeader with
  | none =>
    rw [Property.firstHeaderKey?, found]
    refine Evidence.firstHeader_of_none fun q hq => ?_
    exact List.find?_eq_none.1 found q (counted hq).1
  | some p =>
    have header : s.headerKey? = some p.key := by
      rw [headerKey?_eq, if_pos h, Property.firstHeaderKey?, found]
      rfl
    have mem := List.mem_of_find?_eq_some found
    have names : p.namesHeader := List.find?_some found
    obtain ⟨name, named⟩ := Option.isSome_iff_exists.1 names
    obtain ⟨value, last⟩ := Property.exists_lastValue? mem
    have own : ¬ s.Foreign p.key := by
      rintro ⟨-, first, some, ne⟩
      rw [header] at some
      exact ne (Option.some.inj some)
    have kept : s.keptProperties.get? p.key = some value := (get?_keptProperties own).trans last
    have entry : (⟨p.key, value⟩ : Property) ∈ s.keptProperties.entries :=
      Properties.mem_entries_iff.2 kept
    -- Another key about a header field would be foreign, and under one key there is one entry.
    have only : ∀ q ∈ s.keptProperties.entries, q.namesHeader → q = ⟨p.key, value⟩ := by
      intro q hq names
      have same : q.key = p.key := by
        by_contra ne
        exact (counted hq).2 ⟨names, p.key, header, ne⟩
      have found := Properties.mem_entries_iff.1 hq
      rw [same, kept] at found
      cases q
      simp_all
    have first := Evidence.firstHeader_of_mem entry named only
    rw [Property.firstHeaderKey?, found, first]
    exact ⟨after?_eq_some_iff.1 named, last⟩

theorem evidence_result (s : Statement) :
    s.result.evidence = Evidence.ofProperties s.method s.keptProperties := rfl

/-- The result is of the method that is stated. -/
theorem method_result (lower : lowercase s.method = s.method) : s.result.method = s.method :=
  Evidence.method_ofProperties lower s.keptProperties

/-- The evidence is of the known method whose name is stated. -/
theorem knownMethod?_result_iff (lower : lowercase s.method = s.method) {known : Method} :
    s.result.evidence.knownMethod? = some known ↔ known.name = s.method := by
  rw [evidence_result, Evidence.knownMethod?_ofProperties]
  constructor
  · exact Method.name_eq_of_ofName? lower
  · intro name
    rw [← name, Method.ofName?_name]

/-- The evidence that is stated is told from the properties of the statement. -/
theorem tells_result (lower : lowercase s.method = s.method) :
    s.result.evidence.Tells s.properties := by
  rw [evidence_result]
  have value {key : String} (own : ¬ s.Foreign key) :
      s.keptProperties.value key = Property.lastValue s.properties key := by
    rw [Properties.value, get?_keptProperties own, Property.lastValue]
  unfold Evidence.ofProperties
  split
  · rename_i known hk
    have name : s.method = known.name := (Method.name_eq_of_ofName? lower hk).symm
    by_cases sender : known = .senderId
    · subst sender
      have reason : ¬ s.Foreign "reason" := fun foreign => absurd foreign.1 (by decide)
      refine ⟨value reason, ?_⟩
      have header := firstHeader_keptProperties name
      revert header
      split
      · exact id
      · exact fun none => Prod.mk.inj none
    · have own := not_foreign fun same => sender (Method.name_inj.1 (name.symm.trans same))
      cases known with
      | senderId => exact absurd rfl sender
      | _ => simp only [Evidence.ofMethod, Evidence.Tells, value (own _), and_self]
  · rename_i unknown
    have own : s.method ≠ Method.senderId.name := by
      intro same
      rw [same, Method.ofName?_name] at unknown
      cases unknown
    exact fun key => get?_keptProperties (not_foreign own key)

end Statement

/-! ### Parts of a body -/

namespace Segment

variable {part first method verdict : String} {tokens : List String}

/-- A part whose first word holds an equals sign is a statement. -/
theorem ofPart?_of_cut (hwords : words part = first :: tokens)
    (cut : splitFirst '=' first = some (method, verdict)) :
    ofPart? part = some (.statement ⟨lowercase method, .ofText verdict, tokens⟩) := by
  have unbroken : Unbroken first := by
    have mem : first ∈ words part := by simp [hwords]
    exact (mem_words mem).2.1
  have spelled : Property.read? first = some ⟨lowercase method, verdict⟩ := by
    rw [Property.read?_of_unbroken unbroken, Property.cut?, cut]
    rfl
  have assigned : '=' ∈ first.toList := by simp [(splitFirst_eq_some_iff.1 cut).1]
  have ne : first ≠ "none" := by
    rintro rfl
    exact absurd assigned (by decide)
  simp only [ofPart?, hwords, ne, if_false, Property.read?_eq_some_iff.1 spelled]

/-- The words of a part are unbroken, so its properties are cut out of them and not trimmed. -/
theorem properties_of_words (hwords : words part = first :: tokens) (m : String) (v : Verdict) :
    Statement.properties ⟨m, v, tokens⟩ = tokens.filterMap Property.cut? := by
  refine List.filterMap_congr fun token mem => Property.read?_of_unbroken ?_
  have mem : token ∈ words part := by simp [hwords, mem]
  exact (mem_words mem).2.1

/-- What a part states whose first word holds an equals sign. The method is the text before the
sign, in lower case, and the verdict is what the text after it stands for. The evidence is of the
method with that name, if there is one, and is told from the other words. So the other words may
change places as long as those with one key stay in order and, for `sender-id`, the first about a
header field stays about the same field. -/
theorem result_of_words (hwords : words part = first :: tokens)
    (cut : splitFirst '=' first = some (method, verdict)) :
    ∃ r, (ofPart? part).bind result? = some r ∧ r.verdict = .ofText verdict ∧
      r.method = lowercase method ∧
      (∀ known : Method, r.evidence.knownMethod? = some known ↔ known.name = lowercase method) ∧
      r.evidence.Tells (tokens.filterMap Property.cut?) ∧
      ∀ part' tokens', words part' = first :: tokens' →
        (∀ key, (tokens'.filterMap Property.cut?).filter (·.key == key) =
          (tokens.filterMap Property.cut?).filter (·.key == key)) →
        (lowercase method = Method.senderId.name →
          Property.firstHeaderKey? (tokens'.filterMap Property.cut?) =
            Property.firstHeaderKey? (tokens.filterMap Property.cut?)) →
        (ofPart? part').bind result? = some r := by
  obtain ⟨s, hs⟩ : ∃ s : Statement, s = ⟨lowercase method, .ofText verdict, tokens⟩ := ⟨_, rfl⟩
  have name : s.method = lowercase method := by rw [hs]
  have lower : lowercase s.method = s.method := by rw [name, lowercase_lowercase]
  have properties : s.properties = tokens.filterMap Property.cut? := by
    rw [hs, properties_of_words hwords]
  have states : (ofPart? part).bind result? = some s.result := by
    rw [ofPart?_of_cut hwords cut, ← hs]
    rfl
  refine ⟨s.result, states, by rw [Statement.result, hs]; rfl, ?_, fun known => ?_, ?_, ?_⟩
  · rw [Statement.method_result lower, name]
  · rw [Statement.knownMethod?_result_iff lower, name]
  · rw [← properties]
    exact Statement.tells_result lower
  · intro part' tokens' hwords' same header
    obtain ⟨t, ht⟩ : ∃ t : Statement, t = ⟨lowercase method, .ofText verdict, tokens'⟩ := ⟨_, rfl⟩
    have properties' : t.properties = tokens'.filterMap Property.cut? := by
      rw [ht, properties_of_words hwords']
    have method' : t.method = s.method := by rw [ht, name]
    have verdict' : t.verdict = s.verdict := by rw [ht, hs]
    rw [← properties, ← properties'] at same header
    have stated := Statement.result_congr_of_order method' verdict' same fun sender =>
      header (name.symm.trans (method'.symm.trans sender))
    rw [ofPart?_of_cut hwords' cut, ← ht]
    exact congrArg some stated

/-- `sender-id` keeps the header field it mentions first, with the value it gives last, and a
property about another one may stand anywhere after the first. -/
theorem result_of_words_senderId :
    ∃ r, (ofPart? " Sender-ID=Pass header.from=a (x) header.to=b HEADER.From=c").bind result? =
        some r ∧
      r.evidence.Tells [⟨"header.from", "a"⟩, ⟨"header.to", "b"⟩, ⟨"header.from", "c"⟩] ∧
      (ofPart? "Sender-ID=Pass header.from=a HEADER.From=c header.to=b").bind result? = some r := by
  have hwords : words " Sender-ID=Pass header.from=a (x) header.to=b HEADER.From=c" =
      ["Sender-ID=Pass", "header.from=a", "(x)", "header.to=b", "HEADER.From=c"] := by decide
  have cut : splitFirst '=' "Sender-ID=Pass" = some ("Sender-ID", "Pass") := by decide
  obtain ⟨r, states, -, -, -, tells, moved⟩ := result_of_words hwords cut
  have before : ["header.from=a", "(x)", "header.to=b", "HEADER.From=c"].filterMap Property.cut? =
      [⟨"header.from", "a"⟩, ⟨"header.to", "b"⟩, ⟨"header.from", "c"⟩] := by decide
  have after : ["header.from=a", "HEADER.From=c", "header.to=b"].filterMap Property.cut? =
      [⟨"header.from", "a"⟩, ⟨"header.from", "c"⟩, ⟨"header.to", "b"⟩] := by decide
  rw [before] at tells moved
  have hwords' : words "Sender-ID=Pass header.from=a HEADER.From=c header.to=b" =
      ["Sender-ID=Pass", "header.from=a", "HEADER.From=c", "header.to=b"] := by decide
  refine ⟨r, states, tells, moved _ _ hwords' ?_ ?_⟩
  · intro key
    rw [after]
    by_cases other : key = "header.to"
    · rw [other]
      decide
    · simp [List.filter_cons, Ne.symm other]
  · rw [after]
    decide

end Segment

end MailAuth
