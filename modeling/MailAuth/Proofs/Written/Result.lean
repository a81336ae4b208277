import Mathlib.Data.List.Basic
import MailAuth.Proofs.ReadProperty
import MailAuth.Proofs.Written.Evidence
import MailAuth.Segment

/-!
# Reading a written result

A result that holds no separator takes one part of a body (`Contained`). The part is read as the
statement of its method and its verdict (`Contained.ofPart?_write`), whatever its texts are: a torn
text leaves stray tokens, and these come after the first word. Where names and texts are clean
nothing is torn (`Legible`), and the statement has the properties that were written
(`Legible.result_statement`).
-/

namespace MailAuth

open Text

/-- A verdict whose word is read as that verdict. -/
def Verdict.Legible (v : Verdict) : Prop := Clean v.text ∧ Verdict.ofText v.text = v

instance (v : Verdict) : Decidable v.Legible := inferInstanceAs (Decidable (_ ∧ _))

/-- The verdict that a clean word stands for is legible. -/
theorem Verdict.legible_ofText {s : String} (h : Clean s) : (Verdict.ofText s).Legible :=
  ⟨by rw [text_ofText]; exact h.lowercase,
    by rw [text_ofText, ofText, ofText, lowercase_lowercase]⟩

/-- With a name in lower case the evidence is of the method that has the name. -/
theorem Evidence.method_ofProperties {name : String} (lower : lowercase name = name)
    (m : Properties) : (ofProperties name m).method = name := by
  unfold ofProperties
  split
  · rename_i known h
    rw [method_eq_name (knownMethod?_ofMethod known m), Method.name_eq_of_ofName? lower h]
  · rfl

namespace Result

/-- What is needed for the method and the verdict of a result to be read as they are. -/
structure Contained (r : Result) : Prop where
  method : LowerBare r.method
  verdict : r.verdict.Legible
  entries : ∀ p ∈ r.evidence.properties.entries, ';' ∉ p.key.toList ∧ ';' ∉ p.value.toList

/-- What is needed to read a result as it is, but for quoting and settling. -/
structure Legible (r : Result) : Prop where
  verdict : r.verdict.Legible
  names : r.evidence.WellNamed
  texts : ∀ t ∈ r.evidence.texts, Clean t

/-- The result with settled evidence. -/
def settled (r : Result) : Result := { r with evidence := r.evidence.settled }

/-- What comes back when the result is written and read: each text as it is written, and the
evidence settled. -/
def reread (r : Result) : Result :=
  ⟨r.verdict, (r.evidence.mapTexts Quoted.encode).settled⟩

variable {r : Result} {p : Property}

/-! ### The written properties -/

/-- A written property without the blank before it. -/
def token (p : Property) : String := p.key ++ "=" ++ Quoted.encode p.value

theorem writeProperty_eq (p : Property) : writeProperty p = " " ++ token p := by
  simp only [writeProperty, token, String.append_assoc]

theorem mem_writtenProperties :
    p ∈ r.writtenProperties ↔
      p ∈ r.evidence.properties.entries ∧ (r.evidence.knownMethod? = none ∨ p.value ≠ "") := by
  simp [writtenProperties]

/-- Of a method without fields of its own, every property is written. -/
theorem writtenProperties_generic (v : Verdict) (method : String) (m : Properties) :
    writtenProperties ⟨v, .generic method m⟩ = m.entries :=
  List.filter_eq_self.2 fun _ _ => rfl

/-- The properties as they stand in a header. -/
def stated (r : Result) : Properties where
  entries := r.writtenProperties.map fun p => ⟨p.key, Quoted.encode p.value⟩
  sorted := List.pairwise_map.2 (r.evidence.properties.sorted.sublist List.filter_sublist)

theorem mem_stated :
    p ∈ r.stated.entries ↔ ∃ q ∈ r.writtenProperties, ⟨q.key, Quoted.encode q.value⟩ = p :=
  List.mem_map

/-- A property that is not empty is written. -/
theorem mem_stated_of_ne (h : p ∈ r.evidence.properties.entries) (ne : p.value ≠ "") :
    ⟨p.key, Quoted.encode p.value⟩ ∈ r.stated.entries :=
  mem_stated.2 ⟨p, mem_writtenProperties.2 ⟨h, .inr ne⟩, rfl⟩

/-- A known method has under each key what it had, as it is written. -/
theorem value_stated {known : Method} (h : r.evidence.knownMethod? = some known) (key : String) :
    r.stated.value key = Quoted.encode (r.evidence.properties.value key) := by
  by_cases empty : r.evidence.properties.value key = ""
  · rw [empty, Quoted.encode_empty]
    rcases r.stated.value_eq_empty_or_mem key with none | mem
    · exact none
    · obtain ⟨q, hq, same⟩ := mem_stated.1 mem
      obtain ⟨entry, written⟩ := mem_writtenProperties.1 hq
      obtain ⟨rfl, -⟩ := Property.mk.inj same
      rw [Properties.value_of_mem entry] at empty
      rcases written with unknown | ne
      · rw [h] at unknown; cases unknown
      · exact absurd empty ne
  · have entry := (r.evidence.properties.value_eq_empty_or_mem key).resolve_left empty
    exact Properties.value_of_mem (mem_stated_of_ne entry empty)

/-- What `sender-id` writes about a header field is about the one that it evaluated. -/
theorem eq_of_namesHeader_stated {v : Verdict} {reason headerKey headerValue : String}
    (h : p ∈ (stated ⟨v, .senderId reason headerKey headerValue⟩).entries) (names : p.namesHeader) :
    p = ⟨"header." ++ lowercase headerKey, Quoted.encode headerValue⟩ ∧ headerValue ≠ "" := by
  obtain ⟨q, hq, rfl⟩ := mem_stated.1 h
  obtain ⟨entry, written⟩ := mem_writtenProperties.1 hq
  obtain rfl := Evidence.eq_of_namesHeader entry names
  exact ⟨rfl, written.resolve_left (by simp [Evidence.knownMethod?])⟩

/-- The header field that `sender-id` evaluated is found again, if its value was written. -/
theorem firstHeader_stated {v : Verdict} {reason headerKey headerValue : String} :
    Evidence.firstHeader (stated ⟨v, .senderId reason headerKey headerValue⟩) =
      (if headerValue = "" then "" else lowercase headerKey, Quoted.encode headerValue) := by
  by_cases empty : headerValue = ""
  · rw [Evidence.firstHeader_of_none fun q hq names => (eq_of_namesHeader_stated hq names).2 empty,
      if_pos empty, empty, Quoted.encode_empty]
  · have entry : (⟨"header." ++ lowercase headerKey, headerValue⟩ : Property) ∈
        (Evidence.senderId reason headerKey headerValue).properties.entries := by
      rw [Evidence.entries_properties_senderId]
      exact List.mem_cons_self
    have mem := mem_stated_of_ne (r := ⟨v, .senderId reason headerKey headerValue⟩) entry empty
    have named := Evidence.headerName?_append (lowercase headerKey)
    rw [if_neg empty]
    exact Evidence.firstHeader_of_mem mem named fun q hq names =>
      (eq_of_namesHeader_stated hq names).1

/-- The written properties give the evidence back, with its texts as they are written and
settled. -/
theorem ofProperties_stated (h : r.evidence.WellNamed) :
    Evidence.ofProperties r.method r.stated = r.reread.evidence := by
  obtain ⟨v, e⟩ := r
  rw [Evidence.ofProperties, Result.method, h.ofName?]
  cases e with
  | generic method m =>
    have same : stated ⟨v, .generic method m⟩ = m.mapValues Quoted.encode :=
      Properties.eq_of_entries (congrArg (List.map _) (writtenProperties_generic v method m))
    simp only [Evidence.knownMethod?, same, Evidence.method, reread, Evidence.mapTexts,
      Evidence.settled]
  | senderId reason headerKey headerValue =>
    have reasonBack : (stated ⟨v, .senderId reason headerKey headerValue⟩).value "reason" =
        Quoted.encode reason := by
      rw [value_stated rfl, Evidence.reason_senderId]
    simp only [Evidence.knownMethod?, Evidence.ofMethod, reasonBack, firstHeader_stated, reread,
      Evidence.mapTexts, Evidence.settled, Quoted.encode_eq_empty_iff]
  | _ => exact Evidence.ofMethod_of_value rfl (by decide) (value_stated rfl)

/-! ### The segment -/

/-- What follows the first word of a written result, cut at blanks. -/
def tokens (r : Result) : List String := r.writtenProperties.flatMap fun p => words (token p)

/-- The statement as which a written result is read. -/
def statement (r : Result) : Statement := ⟨r.method, r.verdict, r.tokens⟩

namespace Contained

/-- A written result ends before the next separator. -/
theorem not_mem_write (h : r.Contained) : ';' ∉ r.write.toList := by
  have property : ∀ p ∈ r.writtenProperties, ';' ∉ (writeProperty p).toList := by
    intro p hp
    obtain ⟨key, value⟩ := h.entries p (mem_writtenProperties.1 hp).1
    simp [writeProperty, key, Quoted.not_mem_encode value]
  simp only [write, String.toList_append, String.toList_join, List.mem_append, List.mem_flatMap,
    List.mem_map]
  rintro (((hc | hc) | hc) | ⟨_, ⟨p, hp, rfl⟩, hc⟩)
  · exact h.method.bare.1.2 hc
  · exact absurd hc (by decide)
  · exact h.verdict.1.2 hc
  · exact property p hp hc

/-- The first word of a written result is its method and its verdict, whatever follows. -/
theorem words_write (h : r.Contained) :
    words (" " ++ r.write) = (r.method ++ "=" ++ r.verdict.text) :: r.tokens := by
  have first : Unbroken (r.method ++ "=" ++ r.verdict.text) :=
    unbroken_append.2 ⟨unbroken_append.2 ⟨h.method.bare.1.1, by decide⟩, h.verdict.1.1⟩
  have ne : r.method ++ "=" ++ r.verdict.text ≠ "" := by
    intro empty
    have := congrArg String.toList empty
    simp at this
  have chunks : r.writtenProperties.map writeProperty =
      (r.writtenProperties.map token).map (" " ++ ·) := by
    rw [List.map_map]
    exact List.map_congr_left fun p _ => writeProperty_eq p
  rw [write, chunks, ← String.append_assoc, words_append_join, words_space_append,
    words_of_unbroken first ne, List.flatMap_map]
  rfl

/-- The part that a written result takes is read as its statement. -/
theorem ofPart?_write (h : r.Contained) :
    Segment.ofPart? (" " ++ r.write) = some (.statement r.statement) := by
  have ne : r.method ++ "=" ++ r.verdict.text ≠ "none" := by
    intro same
    have : '=' ∈ (r.method ++ "=" ++ r.verdict.text).toList := by simp
    rw [same] at this
    exact absurd this (by decide)
  have first : Property.read (r.method ++ "=" ++ r.verdict.text) = .ok ⟨r.method, r.verdict.text⟩ :=
    Property.read_lowerBare h.method h.verdict.1.1
  rw [Segment.ofPart?, h.words_write]
  simp only [ne, if_false, first, h.verdict.2]
  rfl

/-- The statement is of the method and the verdict that were written, whatever its tokens are. -/
theorem result_statement (h : r.Contained) :
    r.statement.result.method = r.method ∧ r.statement.result.verdict = r.verdict :=
  ⟨Evidence.method_ofProperties h.method.lower _, rfl⟩

end Contained

namespace Legible

theorem contained (h : r.Legible) : r.Contained where
  method := h.names.method
  verdict := h.verdict
  entries _ hp := ⟨(h.names.key hp).bare.1.2, (h.texts _ (Evidence.value_mem_texts hp)).2⟩

/-- A written key is read as it is, and the written form of a value is one word. -/
theorem written (h : r.Legible) (hp : p ∈ r.writtenProperties) :
    LowerBare p.key ∧ Unbroken (Quoted.encode p.value) := by
  have entry := (mem_writtenProperties.1 hp).1
  have value := h.texts _ (Evidence.value_mem_texts entry)
  exact ⟨h.names.key entry, Quoted.unbroken_encode value.1⟩

/-- A token of a legible result is one word. -/
theorem unbroken_token (h : r.Legible) (hp : p ∈ r.writtenProperties) : Unbroken (token p) := by
  obtain ⟨key, value⟩ := h.written hp
  have assigned : Unbroken (p.key ++ "=") := unbroken_append.2 ⟨key.bare.1.1, by decide⟩
  exact unbroken_append.2 ⟨assigned, value⟩

theorem tokens_eq (h : r.Legible) : r.tokens = r.writtenProperties.map token := by
  have word : ∀ p ∈ r.writtenProperties, words (token p) = [token p] := by
    intro p hp
    refine words_of_unbroken (h.unbroken_token hp) fun empty => ?_
    have := congrArg String.toList empty
    simp [token] at this
  rw [tokens, List.flatMap_def, List.map_congr_left word, ← List.flatMap_def,
    List.map_eq_flatMap]

/-- The properties that are read are those that were written. -/
theorem properties_statement (h : r.Legible) : r.statement.properties = r.stated.entries := by
  have read : ∀ p ∈ r.writtenProperties,
      Property.read? (token p) = some ⟨p.key, Quoted.encode p.value⟩ := by
    intro p hp
    obtain ⟨key, value⟩ := h.written hp
    rw [Property.read?, token, Property.read_lowerBare key value]
    rfl
  rw [Statement.properties, statement, h.tokens_eq, List.filterMap_map]
  exact List.filterMap_eq_map_iff_forall_eq_some.2 read

/-- No property that was written is in conflict with another. -/
theorem conflict?_statement (h : r.Legible) (hp : p ∈ r.stated.entries) :
    r.statement.conflict? p = none := by
  rw [Statement.conflict?, Option.filter_eq_none_iff]
  intro key hkey
  rw [Statement.headerKey?] at hkey
  split at hkey
  · rename_i name
    obtain ⟨v, e⟩ := r
    obtain ⟨reason, headerKey, headerValue, rfl⟩ := h.names.eq_senderId name
    obtain ⟨q, found, rfl⟩ := Option.map_eq_some_iff.1 hkey
    have mem := List.mem_of_find?_eq_some found
    rw [h.properties_statement] at mem
    have hq := (eq_of_namesHeader_stated mem (List.find?_some found)).1
    simp only [Bool.and_eq_true, bne_iff_ne, not_and, not_not]
    intro names
    rw [hq, (eq_of_namesHeader_stated hp names).1]
  · cases hkey

/-- All properties that were written count. -/
theorem keptProperties_statement (h : r.Legible) : r.statement.keptProperties = r.stated := by
  have all : r.statement.properties.filter (fun p => (r.statement.conflict? p).isNone) =
      r.stated.entries := by
    rw [h.properties_statement, List.filter_eq_self]
    intro p hp
    rw [h.conflict?_statement hp]
    rfl
  apply Properties.eq_of_entries
  rw [Statement.keptProperties, all, Properties.entries_ofList r.stated.sorted]

/-- The result that is stated is the one that was written, with its texts as they are written and
settled. -/
theorem result_statement (h : r.Legible) : r.statement.result = r.reread := by
  have evidence : Evidence.ofProperties r.statement.method r.statement.keptProperties =
      r.reread.evidence := by
    rw [h.keptProperties_statement]
    exact ofProperties_stated h.names
  rw [Statement.result, ofProperties, evidence]
  rfl

end Legible

end Result

end MailAuth
