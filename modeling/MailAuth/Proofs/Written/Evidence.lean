import MailAuth.Proofs.PropertyMap
import MailAuth.Proofs.Text.Quoted
import MailAuth.Result

/-!
# What is left of written evidence

Written evidence is a method and properties. Reading the properties back gives the evidence again,
up to two things. Every text comes back in its written form, since reading does not undo quoting
(`mapTexts`). And `sender-id` writes the name of its header field in lower case, and with the value
only; so a name without a value is lost (`settled`). That nothing else is lost is
`Result.ofProperties_stated`. It needs names that are read as they are written (`WellNamed`).
-/

namespace MailAuth

open Text

namespace Method

/-- A name in lower case belongs to a method only if it is the method's own spelling. -/
theorem name_eq_of_ofName? {name : String} {m : Method} (lower : lowercase name = name)
    (h : ofName? name = some m) : m.name = name := by
  have same : foldAscii m.name = foldAscii name := eq_of_beq (ofName?_eq_some_iff.1 h)
  rwa [foldAscii_name, foldAscii_of_lowercase lower] at same

theorem lowerBare_name (m : Method) : LowerBare m.name := by
  cases m <;> decide +kernel

end Method

namespace Evidence

/-- The texts that a method reports under its keys. -/
def texts : Evidence → List String
  | .auth reason account => [reason, account]
  | .dkim reason domain identifier => [reason, domain, identifier]
  | .domainKeys reason domain sentFrom sender => [reason, domain, sentFrom, sender]
  | .ipRev reason ip => [reason, ip]
  | .senderId reason _ headerValue => [reason, headerValue]
  | .spf reason mailFrom helo => [reason, mailFrom, helo]
  | .dmarc reason headerFrom => [reason, headerFrom]
  | .generic _ m => m.entries.map (·.value)

/-- The names of properties that the method leaves open. -/
def names : Evidence → List String
  | .senderId _ headerKey _ => [headerKey]
  | .generic _ m => m.entries.map (·.key)
  | _ => []

/-- The evidence with every text replaced by its image. -/
def mapTexts (f : String → String) : Evidence → Evidence
  | .auth reason account => .auth (f reason) (f account)
  | .dkim reason domain identifier => .dkim (f reason) (f domain) (f identifier)
  | .domainKeys reason domain sentFrom sender =>
    .domainKeys (f reason) (f domain) (f sentFrom) (f sender)
  | .ipRev reason ip => .ipRev (f reason) (f ip)
  | .senderId reason headerKey headerValue => .senderId (f reason) headerKey (f headerValue)
  | .spf reason mailFrom helo => .spf (f reason) (f mailFrom) (f helo)
  | .dmarc reason headerFrom => .dmarc (f reason) (f headerFrom)
  | .generic method m => .generic method (m.mapValues f)

/-- The evidence with the name of a header field in lower case, or without it if there is no
value. -/
def settled : Evidence → Evidence
  | .senderId reason headerKey headerValue =>
    .senderId reason (if headerValue = "" then "" else lowercase headerKey) headerValue
  | e => e

/-- Names are read as they are written: they are bare, and those that reading lower-cases are in
lower case. A method without fields of its own has no known name. -/
def WellNamed : Evidence → Prop
  | .senderId _ headerKey _ => Bare headerKey
  | .generic method m =>
    (LowerBare method ∧ ∀ known ∈ Method.all, known.name ≠ method) ∧
      ∀ p ∈ m.entries, LowerBare p.key
  | _ => True

instance : (e : Evidence) → Decidable e.WellNamed
  | .senderId .. => inferInstanceAs (Decidable (Bare _))
  | .generic .. => inferInstanceAs (Decidable (_ ∧ _))
  | .auth .. | .dkim .. | .domainKeys .. | .ipRev .. | .spf .. | .dmarc .. => .isTrue trivial

variable {e : Evidence} {p q : Property}

/-! ### Texts -/

theorem texts_mapTexts (f : String → String) (e : Evidence) :
    (e.mapTexts f).texts = e.texts.map f := by
  cases e <;> simp [mapTexts, texts, Properties.mapValues]

@[simp] theorem texts_settled (e : Evidence) : e.settled.texts = e.texts := by
  cases e <;> rfl

theorem mapTexts_of_fixed {f : String → String} (h : ∀ t ∈ e.texts, f t = t) :
    e.mapTexts f = e := by
  cases e <;> simp_all [mapTexts, texts, Properties.mapValues_eq_self_iff]

/-- Where written texts are read back as the same texts, none of them was quoted. -/
theorem plain_of_texts_eq (h : (e.mapTexts Quoted.encode).settled.texts = e.texts) :
    ∀ t ∈ e.texts, Quoted.Plain t := by
  rw [texts_settled, texts_mapTexts] at h
  intro t ht
  have fixed : Quoted.encode t = id t :=
    List.map_eq_map_iff.1 (h.trans (List.map_id _).symm) t ht
  exact Quoted.encode_eq_self_iff.1 fixed

/-- Plain texts come back as they are. -/
theorem mapTexts_encode_of_plain (h : ∀ t ∈ e.texts, Quoted.Plain t) :
    e.mapTexts Quoted.encode = e :=
  mapTexts_of_fixed fun t ht => Quoted.encode_of_plain (h t ht)

/-- With names in lower case, only the name of a header field without a value is lost. -/
theorem settled_eq_self_iff (lower : ∀ n ∈ e.names, lowercase n = n) :
    e.settled = e ↔ ∀ reason headerKey, e = .senderId reason headerKey "" → headerKey = "" := by
  cases e with
  | senderId reason headerKey headerValue =>
    have same : lowercase headerKey = headerKey := lower _ (by simp [names])
    by_cases empty : headerValue = "" <;> simp [settled, same, empty, eq_comm]
  | _ => simp [settled]

/-! ### Evidence from its properties -/

/-- The fields of a method other than `sender-id` are the values under its keys. -/
theorem ofMethod_of_value {method : Method} (h : e.knownMethod? = some method)
    (ne : method ≠ .senderId) {m : Properties} {f : String → String}
    (hm : ∀ key, m.value key = f (e.properties.value key)) :
    ofMethod method m = e.mapTexts f := by
  cases e with
  | senderId => cases h; exact absurd rfl ne
  | generic => cases h
  | _ =>
    cases h
    simp only [ofMethod, mapTexts, hm]
    simp [properties, Properties.value, Properties.get?_ofList]

theorem headerName?_append (name : String) :
    Property.headerName? ("header." ++ name) = some name :=
  after?_eq_some_iff.2 rfl

/-- The only property about a header field is the first one. -/
theorem firstHeader_of_mem {m : Properties} {name : String} (hp : p ∈ m.entries)
    (hn : Property.headerName? p.key = some name)
    (only : ∀ q ∈ m.entries, q.namesHeader → q = p) : firstHeader m = (name, p.value) := by
  unfold firstHeader
  cases h : m.entries.findSome? fun q => (Property.headerName? q.key).map (·, q.value) with
  | none =>
    rw [List.findSome?_eq_none_iff] at h
    have := h p hp
    rw [hn] at this
    cases this
  | some found =>
    obtain ⟨q, hq, names⟩ := List.exists_of_findSome?_eq_some h
    obtain ⟨name', hname, rfl⟩ := Option.map_eq_some_iff.1 names
    obtain rfl := only q hq (by simp [Property.namesHeader, hname])
    rw [hn] at hname
    cases hname
    rfl

/-- Where no property is about a header field there is no first one. -/
theorem firstHeader_of_none {m : Properties} (h : ∀ q ∈ m.entries, ¬ q.namesHeader) :
    firstHeader m = ("", "") := by
  have : m.entries.findSome? (fun q => (Property.headerName? q.key).map (·, q.value)) = none := by
    rw [List.findSome?_eq_none_iff]
    intro q hq
    have := h q hq
    simp only [Property.namesHeader, Option.not_isSome_iff_eq_none] at this
    simp [this]
  rw [firstHeader, this]
  rfl

/-! ### Names -/

/-- The keys that belong to methods with fields of their own, for all but one field of
`sender-id`. -/
def fixedKeys : List String :=
  ["reason", "smtp.auth", "header.d", "header.i", "header.from", "header.sender", "policy.iprev",
    "smtp.mailfrom", "smtp.helo"]

/-- A key about a header field comes before the key of the reason. -/
theorem header_lt_reason (name : String) : "header." ++ name < "reason" := by
  show ("header." ++ name).toList < "reason".toList
  rw [String.toList_append]
  exact List.cons_lt_cons_iff.2 (.inl (by decide))

theorem entries_properties_senderId (reason headerKey headerValue : String) :
    (senderId reason headerKey headerValue).properties.entries =
      [⟨"header." ++ lowercase headerKey, headerValue⟩, ⟨"reason", reason⟩] := by
  simp only [properties, Properties.ofList, List.foldl_cons, List.foldl_nil, Properties.insert,
    Properties.insertEntry, Properties.empty, header_lt_reason, if_true]

theorem mem_properties_senderId {reason headerKey headerValue : String}
    (h : p ∈ (senderId reason headerKey headerValue).properties.entries) :
    p = ⟨"reason", reason⟩ ∨ p = ⟨"header." ++ lowercase headerKey, headerValue⟩ := by
  rw [entries_properties_senderId] at h
  simpa [or_comm] using h

/-- A property has a fixed key, or names the header field of `sender-id`, or is from the map of an
unknown method. -/
theorem mem_properties_cases (h : p ∈ e.properties.entries) :
    p.key ∈ fixedKeys ∨
      (∃ reason headerKey headerValue, e = .senderId reason headerKey headerValue ∧
        p = ⟨"header." ++ lowercase headerKey, headerValue⟩) ∨
      ∃ method m, e = .generic method m ∧ p ∈ m.entries := by
  cases e with
  | generic method m => exact .inr (.inr ⟨method, m, rfl, h⟩)
  | senderId reason headerKey headerValue =>
    rcases mem_properties_senderId h with rfl | rfl
    · exact .inl (by simp [fixedKeys])
    · exact .inr (.inl ⟨reason, headerKey, headerValue, rfl, rfl⟩)
  | _ =>
    have := Properties.mem_of_mem_ofList h
    simp only [List.mem_cons, List.not_mem_nil, or_false] at this
    left
    simp only [fixedKeys, List.mem_cons, List.not_mem_nil, or_false]
    grind

theorem lowerBare_of_mem_fixedKeys : ∀ key ∈ fixedKeys, LowerBare key := by decide +kernel

/-- The value of a property is one of the texts. -/
theorem value_mem_texts (h : p ∈ e.properties.entries) : p.value ∈ e.texts := by
  cases e with
  | generic method m => exact List.mem_map_of_mem h
  | _ =>
    have := Properties.mem_of_mem_ofList h
    simp only [List.mem_cons, List.not_mem_nil, or_false] at this
    grind [texts]

/-- Where no name and no text holds the separator, no property does. -/
theorem not_mem_of_mem_properties (h : ∀ t ∈ e.names ++ e.texts, ';' ∉ t.toList)
    (hp : p ∈ e.properties.entries) : ';' ∉ p.key.toList ∧ ';' ∉ p.value.toList := by
  refine ⟨?_, h _ (List.mem_append_right _ (value_mem_texts hp))⟩
  rcases mem_properties_cases hp with fixed | ⟨reason, name, value, rfl, rfl⟩ | ⟨method, m, rfl, hm⟩
  · exact (lowerBare_of_mem_fixedKeys _ fixed).bare.1.2
  · have lower : ';' ∉ (lowercase name).toList :=
      not_mem_lowercase (by decide) (h _ (by simp [names]))
    rw [String.toList_append, List.mem_append, not_or]
    exact ⟨by decide, lower⟩
  · exact h _ (List.mem_append_left _ (List.mem_map_of_mem hm))

/-- Keys are read as they are written. -/
theorem WellNamed.key (h : e.WellNamed) (hp : p ∈ e.properties.entries) : LowerBare p.key := by
  rcases mem_properties_cases hp with fixed | ⟨reason, name, value, rfl, rfl⟩ | ⟨method, m, rfl, hm⟩
  · exact lowerBare_of_mem_fixedKeys _ fixed
  · have header : LowerBare "header." := by decide +kernel
    exact lowerBare_append.2 ⟨header, Bare.lowerBare_lowercase h⟩
  · exact h.2 p hm

/-- A known method leaves at most the name of a header field open. -/
theorem wellNamed_of_knownMethod? (known : e.knownMethod?.isSome) (names : ∀ n ∈ e.names, Bare n) :
    e.WellNamed := by
  cases e with
  | senderId reason headerKey headerValue => exact names _ List.mem_cons_self
  | generic => cases known
  | _ => trivial

/-- The name of a method is read as it is written. -/
theorem WellNamed.method (h : e.WellNamed) : LowerBare e.method := by
  rcases e.method_cases with ⟨known, name⟩ | ⟨name, m, rfl⟩
  · rw [name]
    exact known.lowerBare_name
  · exact h.1.1

/-- The name of a method belongs to the method. -/
theorem WellNamed.ofName? (h : e.WellNamed) : Method.ofName? e.method = e.knownMethod? := by
  cases e with
  | generic method m =>
    obtain ⟨⟨named, unknown⟩, -⟩ := h
    rw [knownMethod?, Evidence.method, Option.eq_none_iff_forall_ne_some]
    intro known hk
    exact unknown known known.mem_all (Method.name_eq_of_ofName? named.lower hk)
  | _ => exact Method.ofName?_name _

/-- The reason of `sender-id` is no property about a header field. -/
theorem reason_senderId (reason headerKey headerValue : String) :
    (senderId reason headerKey headerValue).properties.value "reason" = reason := by
  have entry : (⟨"reason", reason⟩ : Property) ∈
      (senderId reason headerKey headerValue).properties.entries := by
    rw [entries_properties_senderId]
    exact List.mem_cons_of_mem _ List.mem_cons_self
  exact Properties.value_of_mem (p := ⟨"reason", reason⟩) entry

/-- Only evidence of `sender-id` has its name. -/
theorem WellNamed.eq_senderId (h : e.WellNamed) (name : e.method = Method.senderId.name) :
    ∃ reason headerKey headerValue, e = .senderId reason headerKey headerValue := by
  apply eq_senderId_of_knownMethod?
  rw [← h.ofName?, name, Method.ofName?_name]

/-- Of the properties of `sender-id` at most one is about a header field. -/
theorem eq_of_namesHeader {reason headerKey headerValue : String}
    (h : p ∈ (senderId reason headerKey headerValue).properties.entries) (names : p.namesHeader) :
    p = ⟨"header." ++ lowercase headerKey, headerValue⟩ := by
  rcases mem_properties_senderId h with rfl | rfl
  · have : (Property.headerName? "reason").isSome := names
    exact absurd this (by decide)
  · rfl

end Evidence

end MailAuth
