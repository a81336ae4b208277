import MailAuth.Proofs.ReadHeader
import MailAuth.Proofs.Text.ByteOrder

/-!
# Results from properties and back

A result is made from the name of a method, a verdict and properties (`Result.ofProperties`), and it
is rendered as its verdict and properties again (`Result.rendered`). This module follows both ways
round.

From a result, rendering and making it again lowers the name of the header field of `sender-id` and
changes nothing else (`Result.rebuilt_eq_lowered`). So a result that was made from properties comes
back as it is if their keys are in lower case, and otherwise from the second time on.

From properties, a method with fields of its own keeps the values under its keys and no others, and
any other method keeps the properties as they are (`Result.rendered_ofProperties_eq`). Of several
properties about header fields `sender-id` keeps the one with the least key.
-/

namespace MailAuth

open Text

/-- The keys of a method, in their order. The key about a header field that `sender-id` has besides
is not fixed. -/
def Method.keys : Method → List String
  | .auth => ["reason", "smtp.auth"]
  | .dkim => ["header.d", "header.i", "reason"]
  | .domainKeys => ["header.d", "header.from", "header.sender", "reason"]
  | .ipRev => ["policy.iprev", "reason"]
  | .senderId => ["reason"]
  | .spf => ["reason", "smtp.helo", "smtp.mailfrom"]
  | .dmarc => ["header.from", "reason"]

namespace Evidence

variable {e : Evidence} {known : Method} {m : Properties} {name : String}

/-! ### Evidence, rendered and made again -/

/-- The evidence with the name of a header field in lower case. -/
def lowered : Evidence → Evidence
  | .senderId reason headerKey headerValue => .senderId reason (lowercase headerKey) headerValue
  | e => e

theorem lowered_of_ne_senderId (h : e.knownMethod? ≠ some .senderId) : e.lowered = e := by
  cases e with
  | senderId => exact absurd rfl h
  | _ => rfl

@[simp] theorem lowered_lowered (e : Evidence) : e.lowered.lowered = e.lowered := by
  cases e <;> simp [lowered]

@[simp] theorem knownMethod?_lowered (e : Evidence) : e.lowered.knownMethod? = e.knownMethod? := by
  cases e <;> rfl

@[simp] theorem method_lowered (e : Evidence) : e.lowered.method = e.method := by
  cases e <;> rfl

/-- The one property of `sender-id` about a header field. -/
theorem firstHeader_properties (reason headerKey headerValue : String) :
    firstHeader (senderId reason headerKey headerValue).properties =
      (lowercase headerKey, headerValue) := by
  have entry : (⟨"header." ++ lowercase headerKey, headerValue⟩ : Property) ∈
      (senderId reason headerKey headerValue).properties.entries := by
    rw [entries_properties_senderId]
    exact List.mem_cons_self
  exact firstHeader_of_mem entry (headerName?_append _) fun q hq names => eq_of_namesHeader hq names

/-- The fields of a method are found under its keys again. -/
theorem ofMethod_properties (h : e.knownMethod? = some known) :
    ofMethod known e.properties = e.lowered := by
  by_cases sender : known = .senderId
  · subst sender
    obtain ⟨reason, headerKey, headerValue, rfl⟩ := eq_senderId_of_knownMethod? h
    rw [ofMethod, reason_senderId, firstHeader_properties, lowered]
  · have fields : ofMethod known e.properties = e.mapTexts id :=
      ofMethod_of_value h sender fun _ => rfl
    have other : e.knownMethod? ≠ some .senderId := fun same =>
      sender (Option.some.inj (h.symm.trans same))
    have same : e.mapTexts id = e := mapTexts_of_fixed fun _ _ => rfl
    rw [fields, same, lowered_of_ne_senderId other]

/-- Where the name belongs to the method, only the name of a header field is lowered. -/
theorem ofProperties_properties (h : Method.ofName? e.method = e.knownMethod?) :
    ofProperties e.method e.properties = e.lowered := by
  cases known : e.knownMethod? with
  | some method => simp only [ofProperties, h, known, ofMethod_properties known]
  | none =>
    simp only [ofProperties, h, known]
    obtain ⟨name, m, rfl⟩ := eq_generic_of_knownMethod? known
    rfl

/-- The name of evidence that is made from properties belongs to its method. -/
theorem ofName?_method_ofProperties (name : String) (m : Properties) :
    Method.ofName? (ofProperties name m).method = (ofProperties name m).knownMethod? := by
  have made := knownMethod?_ofProperties name m
  cases known : Method.ofName? name with
  | some method =>
    rw [known] at made
    rw [made, method_eq_name made, Method.ofName?_name]
  | none =>
    simp only [ofProperties, known]
    exact known

/-- With keys in lower case the name of a header field is in lower case. -/
theorem lowered_ofProperties (lower : ∀ p ∈ m.entries, lowercase p.key = p.key) :
    (ofProperties name m).lowered = ofProperties name m := by
  by_cases sender : Method.ofName? name = some .senderId
  · simp only [ofProperties, sender, ofMethod, lowered]
    rcases firstHeader_cases m with none | ⟨p, hp, key, -⟩
    · rw [none]
      rfl
    · have named := lower p hp
      rw [key, lowercase_append_eq_self_iff] at named
      rw [named.2]
  · exact lowered_of_ne_senderId (by rwa [knownMethod?_ofProperties])

/-! ### Properties, made into evidence and rendered -/

theorem reason_ofProperties (name : String) (m : Properties) :
    (ofProperties name m).reason = m.value "reason" := by
  unfold ofProperties
  split
  · rename_i known _
    cases known <;> rfl
  · rfl

/-- The reason stands under its key. -/
theorem value_reason_properties (e : Evidence) : e.properties.value "reason" = e.reason := by
  cases e with
  | senderId => exact reason_senderId _ _ _
  | generic => rfl
  | _ => simp [properties, reason, Properties.value, Properties.get?_ofList]

/-- A method with fixed keys has the values under these. -/
theorem entries_properties_ofMethod (ne : known ≠ .senderId) (m : Properties) :
    (ofMethod known m).properties.entries = known.keys.map fun key => ⟨key, m.value key⟩ := by
  cases known with
  | senderId => exact absurd rfl ne
  | _ =>
    simp +decide only [ofMethod, properties, Method.keys, Properties.ofList, List.foldl_cons,
      List.foldl_nil, Properties.insert, Properties.insertEntry, Properties.empty, List.map_cons,
      List.map_nil, if_true, if_false]

/-- The name and the value of the property with the least key about a header field, in the order of
bytes. Both are empty if there is no such property. -/
def LeastHeader (m : Properties) (name value : String) : Prop :=
  (m.get? ("header." ++ name) = some value ∧
      ∀ other, (m.get? ("header." ++ other)).isSome →
        bytes ("header." ++ name) ≤ bytes ("header." ++ other)) ∨
    (∀ other, m.get? ("header." ++ other) = none) ∧ name = "" ∧ value = ""

/-- Since the keys are sorted, the first about a header field is the least. -/
theorem leastHeader_firstHeader (m : Properties) :
    LeastHeader m (firstHeader m).1 (firstHeader m).2 := by
  -- A key about a header field is not among those that are about none.
  have named {entries : List Property}
      (unnamed : ∀ q ∈ entries, Property.headerName? q.key = none) (name value : String) :
      (⟨"header." ++ name, value⟩ : Property) ∉ entries := by
    intro mem
    have none := unnamed _ mem
    rw [headerName?_append] at none
    cases none
  rcases exists_append_firstHeader m with ⟨unnamed, none⟩ | ⟨before, after, cut, unnamed⟩
  · refine .inr ⟨fun other => ?_, by rw [none], by rw [none]⟩
    rw [Option.eq_none_iff_forall_ne_some]
    exact fun value there => named unnamed other value (Properties.mem_entries_iff.2 there)
  · have first : ⟨"header." ++ (firstHeader m).1, (firstHeader m).2⟩ ∈ m.entries := by
      rw [cut]
      exact List.mem_append_cons_self
    refine .inl ⟨Properties.mem_entries_iff.1 first, fun other there => ?_⟩
    obtain ⟨value, there⟩ := Option.isSome_iff_exists.1 there
    have mem : (⟨"header." ++ other, value⟩ : Property) ∈ m.entries :=
      Properties.mem_entries_iff.2 there
    rw [cut, List.mem_append] at mem
    rw [bytes_le_bytes_iff]
    exact Properties.key_le_of_mem_cons cut (mem.resolve_left (named unnamed other value))

end Evidence

namespace Result

/-- What a result is rendered as: its verdict and its properties. -/
def rendered (r : Result) : Verdict × Properties := (r.verdict, r.evidence.properties)

/-- The result that is made from what the result is rendered as. -/
def rebuilt (r : Result) : Result := ofProperties r.method r.rendered.1 r.rendered.2

/-- Where the name belongs to the method, only the name of a header field is lowered. -/
theorem rebuilt_mk {e : Evidence} (h : Method.ofName? e.method = e.knownMethod?)
    (verdict : Verdict) : (⟨verdict, e⟩ : Result).rebuilt = ⟨verdict, e.lowered⟩ :=
  congrArg (Result.mk verdict) (Evidence.ofProperties_properties h)

theorem rebuilt_ofProperties (name : String) (verdict : Verdict) (m : Properties) :
    (ofProperties name verdict m).rebuilt = ⟨verdict, (Evidence.ofProperties name m).lowered⟩ :=
  rebuilt_mk (Evidence.ofName?_method_ofProperties name m) verdict

/-- Rendering a result and making it again lowers the name of a header field and keeps all else, if
the method has fields of its own or no name of such a method. So it keeps a result that was made
from properties with keys in lower case, and doing it twice is doing it once. -/
theorem rebuilt_eq_lowered :
    (∀ r : Result, r.evidence.knownMethod?.isSome →
        r.rebuilt = ⟨r.verdict, r.evidence.lowered⟩) ∧
      (∀ verdict name m, (∀ known ∈ Method.all, ¬ sameName known.name name) →
        (⟨verdict, .generic name m⟩ : Result).rebuilt = ⟨verdict, .generic name m⟩) ∧
      ∀ name verdict m,
        ((∀ p ∈ m.entries, lowercase p.key = p.key) →
          (ofProperties name verdict m).rebuilt = ofProperties name verdict m) ∧
        (ofProperties name verdict m).rebuilt.rebuilt = (ofProperties name verdict m).rebuilt := by
  refine ⟨fun r known => ?_, fun verdict name m unknown => ?_, fun name verdict m =>
    ⟨fun lower => ?_, ?_⟩⟩
  · obtain ⟨method, known⟩ := Option.isSome_iff_exists.1 known
    have named : Method.ofName? r.evidence.method = r.evidence.knownMethod? := by
      rw [known, Evidence.method_eq_name known, Method.ofName?_name]
    exact rebuilt_mk named r.verdict
  · have named : Method.ofName? (Evidence.generic name m).method = none :=
      Method.ofName?_eq_none_iff.2 unknown
    exact rebuilt_mk named verdict
  · rw [rebuilt_ofProperties, Evidence.lowered_ofProperties lower]
    rfl
  · have named := Evidence.ofName?_method_ofProperties name m
    rw [← Evidence.method_lowered, ← Evidence.knownMethod?_lowered] at named
    rw [rebuilt_ofProperties, rebuilt_mk named, Evidence.lowered_lowered]

/-- A capital in the name of a header field is lost, but nothing of a name that only looks known,
and the least of several header fields is kept as it is. -/
theorem rebuilt_eq_lowered_senderId :
    (⟨.other "PASS", .senderId "a; b" "From" ""⟩ : Result).rebuilt =
        ⟨.other "PASS", .senderId "a; b" "from" ""⟩ ∧
      (⟨.pass, .generic "Dkim2" (.ofList [⟨"Header.D", "\"x\""⟩])⟩ : Result).rebuilt =
        ⟨.pass, .generic "Dkim2" (.ofList [⟨"Header.D", "\"x\""⟩])⟩ ∧
      (ofProperties "SENDER-ID" .fail (.ofList [⟨"header.to", "1"⟩, ⟨"header.from", "2"⟩])).rebuilt =
        ofProperties "SENDER-ID" .fail (.ofList [⟨"header.to", "1"⟩, ⟨"header.from", "2"⟩]) :=
  ⟨rebuilt_eq_lowered.1 ⟨.other "PASS", .senderId "a; b" "From" ""⟩ (by decide),
    rebuilt_eq_lowered.2.1 .pass "Dkim2" _ (by decide),
    (rebuilt_eq_lowered.2.2 "SENDER-ID" .fail _).1 (by decide)⟩

/-- What of the properties is in the result that is made from them, and in what it is rendered as.
The verdict and the reason are in both, and the name of the method decides the rest. A method with
fields of its own is rendered with all of its keys, `sender-id` with the least of the header fields,
and a name that no such method has is kept with all properties. -/
theorem rendered_ofProperties_eq (name : String) (verdict : Verdict) (m : Properties)
    {r : Result} (made : r = ofProperties name verdict m) :
    r.verdict = verdict ∧ r.rendered.1 = verdict ∧
      r.evidence.reason = m.value "reason" ∧ r.rendered.2.value "reason" = m.value "reason" ∧
      (∀ known : Method, r.evidence.knownMethod? = some known ↔ sameName known.name name) ∧
      ((∀ known ∈ Method.all, ¬ sameName known.name name) →
        r.evidence = .generic name m ∧ r.rendered.2 = m) ∧
      (∀ known : Method, sameName known.name name → known ≠ .senderId →
        r.rendered.2.entries = known.keys.map fun key => ⟨key, m.value key⟩) ∧
      (sameName Method.senderId.name name →
        ∃ field value, Evidence.LeastHeader m field value ∧
          r.rendered.2.entries =
            [⟨"header." ++ lowercase field, value⟩, ⟨"reason", m.value "reason"⟩]) := by
  subst made
  have evidence : (ofProperties name verdict m).evidence = Evidence.ofProperties name m := rfl
  have properties : (ofProperties name verdict m).rendered.2 =
      (Evidence.ofProperties name m).properties := rfl
  rw [evidence, properties, Evidence.value_reason_properties, Evidence.reason_ofProperties]
  refine ⟨rfl, rfl, rfl, rfl, fun known => ?_, fun unknown => ?_, fun known named fixed => ?_,
    fun named => ?_⟩
  · rw [Evidence.knownMethod?_ofProperties, Method.ofName?_eq_some_iff]
  · simp only [Evidence.ofProperties, Method.ofName?_eq_none_iff.2 unknown, Evidence.properties,
      and_self]
  · simp only [Evidence.ofProperties, Method.ofName?_eq_some_iff.2 named]
    exact Evidence.entries_properties_ofMethod fixed m
  · refine ⟨_, _, Evidence.leastHeader_firstHeader m, ?_⟩
    simp only [Evidence.ofProperties, Method.ofName?_eq_some_iff.2 named]
    exact Evidence.entries_properties_senderId _ _ _

/-- A field that is missing is rendered as an empty value, and properties without a field are not
rendered. The capital `Ａ` comes before the emoji, whose first byte is greater, although the first
of the two units that write the emoji in UTF-16 is smaller. -/
theorem rendered_ofProperties_eq_least :
    (ofProperties "SPF" .pass (.ofList [⟨"smtp.helo", "a"⟩, ⟨"x", "b"⟩])).rendered.2.entries =
        [⟨"reason", ""⟩, ⟨"smtp.helo", "a"⟩, ⟨"smtp.mailfrom", ""⟩] ∧
      (ofProperties "spf " .pass (.ofList [⟨"X", "b"⟩])).rendered.2 = .ofList [⟨"X", "b"⟩] ∧
      (ofProperties "Sender-Id" .pass
          (.ofList [⟨"header.😀", "1"⟩, ⟨"header.Ａ", "2"⟩])).rendered.2.entries =
        [⟨"header.ａ", "2"⟩, ⟨"reason", ""⟩] := by
  obtain ⟨-, -, -, -, -, -, spf, -⟩ :=
    rendered_ofProperties_eq "SPF" .pass (.ofList [⟨"smtp.helo", "a"⟩, ⟨"x", "b"⟩]) rfl
  obtain ⟨-, -, -, -, -, other, -, -⟩ :=
    rendered_ofProperties_eq "spf " .pass (.ofList [⟨"X", "b"⟩]) rfl
  obtain ⟨-, -, -, -, -, -, -, senderId⟩ :=
    rendered_ofProperties_eq "Sender-Id" .pass
      (.ofList [⟨"header.😀", "1"⟩, ⟨"header.Ａ", "2"⟩]) rfl
  refine ⟨spf .spf (by decide) (by decide), (other (by decide)).2, ?_⟩
  obtain ⟨field, value, ⟨there, below⟩ | ⟨none, -⟩, rendered⟩ := senderId (by decide)
  · have entries : (Properties.ofList [⟨"header.😀", "1"⟩, ⟨"header.Ａ", "2"⟩]).entries =
        [⟨"header.Ａ", "2"⟩, ⟨"header.😀", "1"⟩] := by decide
    have mem : (⟨"header." ++ field, value⟩ : Property) ∈ _ := Properties.mem_entries_iff.2 there
    rw [entries, List.mem_pair, Property.mk.injEq, Property.mk.injEq] at mem
    rcases mem with ⟨key, rfl⟩ | ⟨key, rfl⟩
    · have named : after? "header." "header.Ａ" = some "Ａ" := by decide
      obtain rfl := Option.some.inj (named.symm.trans (after?_eq_some_iff.2 key.symm))
      rw [rendered]
      decide
    · have first := below "Ａ" (by decide)
      rw [key] at first
      exact absurd first (by decide)
  · exact absurd (none "Ａ") (by decide)

end Result

end MailAuth
