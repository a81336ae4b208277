import MailAuth.Header.Preamble
import MailAuth.Proofs.Written.Result

/-!
# Written results are told apart

No two lists of results are written alike (`Preamble.write_inj`), whatever their texts hold: blanks,
separators and quotation marks in a text cannot be taken for what stands between the texts. Needed
is only that the names and the verdicts are told where they end and that evidence has one form
(`Result.Canonical`).

Reading does not undo writing, so the proof does not go through reading. It goes through the written
form from left to right: each piece shows where it ends, whatever follows. The method and a key end
at an equals sign, a verdict at a blank or a separator, and a value where
`Quoted.encode_append_inj` says. What follows the pieces of one result is nothing, or the separator
before the next.
-/

namespace MailAuth

open Text

namespace Evidence

/-- Evidence in the form in which it can be told from what is written of it. A name that ends at an
equals sign holds none, `sender-id` names no header field without a value, and a method without
fields of its own has no known name. -/
def Canonical : Evidence → Prop
  | .senderId _ headerKey headerValue =>
    LowerBare headerKey ∧ (headerValue = "" → headerKey = "")
  | .generic method m =>
    (Bare method ∧ ∀ known ∈ Method.all, ¬ sameName known.name method) ∧
      ∀ p ∈ m.entries, Bare p.key
  | _ => True

instance : (e : Evidence) → Decidable e.Canonical
  | .senderId .. => inferInstanceAs (Decidable (_ ∧ _))
  | .generic .. => inferInstanceAs (Decidable (_ ∧ _))
  | .auth .. | .dkim .. | .domainKeys .. | .ipRev .. | .spf .. | .dmarc .. => .isTrue trivial

variable {e f : Evidence} {p : Property}

/-! ### Names -/

/-- The name of a method belongs to the method. -/
theorem Canonical.ofName? (h : e.Canonical) : Method.ofName? e.method = e.knownMethod? := by
  cases e with
  | generic method m => exact Method.ofName?_eq_none_iff.2 h.1.2
  | _ => exact Method.ofName?_name _

/-- The name of a method is bare. -/
theorem Canonical.bare_method (h : e.Canonical) : Bare e.method := by
  rcases e.method_cases with ⟨known, name⟩ | ⟨name, m, rfl⟩
  · rw [name]
    exact known.lowerBare_name.bare
  · exact h.1.1

/-- Keys are bare. -/
theorem Canonical.bare_key (h : e.Canonical) (hp : p ∈ e.properties.entries) : Bare p.key := by
  rcases mem_properties_cases hp with fixed | ⟨reason, name, value, rfl, rfl⟩ | ⟨method, m, rfl, hm⟩
  · exact (lowerBare_of_mem_fixedKeys _ fixed).bare
  · exact bare_append.2 ⟨by decide, h.1.bare.lowercase⟩
  · exact h.2 p hm

/-! ### Evidence from its properties -/

/-- Evidence of one method other than `sender-id` is the same if it has the same values. -/
theorem eq_of_value {method : Method} (he : e.knownMethod? = some method)
    (hf : f.knownMethod? = some method) (ne : method ≠ .senderId)
    (same : ∀ key, e.properties.value key = f.properties.value key) : e = f := by
  have left : ofMethod method e.properties = e.mapTexts id := ofMethod_of_value he ne fun _ => rfl
  have right : ofMethod method e.properties = f.mapTexts id := ofMethod_of_value hf ne same
  have unchanged : ∀ e : Evidence, e.mapTexts id = e := fun _ => mapTexts_of_fixed fun _ _ => rfl
  rw [unchanged] at left right
  rw [← left, right]

end Evidence

namespace Result

/-- A result in the form in which it can be told from what is written of it. -/
structure Canonical (r : Result) : Prop where
  verdict : r.verdict.Legible
  evidence : r.evidence.Canonical

instance (r : Result) : Decidable r.Canonical :=
  decidable_of_iff (r.verdict.Legible ∧ r.evidence.Canonical)
    ⟨fun ⟨verdict, evidence⟩ => ⟨verdict, evidence⟩, fun h => ⟨h.verdict, h.evidence⟩⟩

variable {r s : Result}

/-- What was written of `sender-id` tells its evidence. -/
theorem eq_of_stated_senderId {v w : Verdict}
    {reason reason' headerKey headerKey' headerValue headerValue' : String}
    (hr : (Evidence.senderId reason headerKey headerValue).Canonical)
    (hs : (Evidence.senderId reason' headerKey' headerValue').Canonical)
    (same : stated ⟨v, .senderId reason headerKey headerValue⟩ =
      stated ⟨w, .senderId reason' headerKey' headerValue'⟩) :
    reason = reason' ∧ headerKey = headerKey' ∧ headerValue = headerValue' := by
  have reasons := congrArg (·.value "reason") same
  simp only [value_stated (r := ⟨v, .senderId reason headerKey headerValue⟩) rfl,
    value_stated (r := ⟨w, .senderId reason' headerKey' headerValue'⟩) rfl,
    Evidence.reason_senderId] at reasons
  have headers := congrArg Evidence.firstHeader same
  rw [firstHeader_stated, firstHeader_stated, Prod.mk.injEq] at headers
  obtain ⟨keys, values⟩ := headers
  obtain rfl := Quoted.encode_inj values
  rw [hr.1.lower, hs.1.lower] at keys
  refine ⟨Quoted.encode_inj reasons, ?_, rfl⟩
  by_cases empty : headerValue = ""
  · rw [hr.2 empty, hs.2 empty]
  · rwa [if_neg empty, if_neg empty] at keys

/-- Evidence is told from its method and the properties that are written. -/
theorem Canonical.evidence_eq (hr : r.Canonical) (hs : s.Canonical) (method : r.method = s.method)
    (written : r.writtenProperties = s.writtenProperties) : r.evidence = s.evidence := by
  have known : s.evidence.knownMethod? = r.evidence.knownMethod? := by
    rw [← hr.evidence.ofName?, ← hs.evidence.ofName?]
    exact congrArg Method.ofName? method.symm
  have stated : r.stated = s.stated := Properties.eq_of_entries (congrArg (List.map _) written)
  obtain ⟨v, e⟩ := r
  obtain ⟨w, f⟩ := s
  cases he : e.knownMethod? with
  | none =>
    obtain ⟨name, m, rfl⟩ := Evidence.eq_generic_of_knownMethod? he
    obtain ⟨name', m', rfl⟩ := Evidence.eq_generic_of_knownMethod? (known.trans he)
    rw [writtenProperties_generic, writtenProperties_generic] at written
    obtain rfl : name = name' := method
    obtain rfl := Properties.eq_of_entries written
    rfl
  | some m =>
    have hf := known.trans he
    by_cases sender : m = .senderId
    · subst sender
      obtain ⟨reason, headerKey, headerValue, rfl⟩ := Evidence.eq_senderId_of_knownMethod? he
      obtain ⟨reason', headerKey', headerValue', rfl⟩ := Evidence.eq_senderId_of_knownMethod? hf
      obtain ⟨rfl, rfl, rfl⟩ := eq_of_stated_senderId hr.evidence hs.evidence stated
      rfl
    · refine Evidence.eq_of_value he hf sender fun key => Quoted.encode_inj ?_
      rw [← value_stated (r := ⟨v, e⟩) he, ← value_stated (r := ⟨w, f⟩) hf, stated]

/-- A result is told from its method, the word of its verdict and the properties that are
written. -/
theorem Canonical.eq_of_written (hr : r.Canonical) (hs : s.Canonical)
    (method : r.method = s.method) (verdict : r.verdict.text = s.verdict.text)
    (written : r.writtenProperties = s.writtenProperties) : r = s := by
  have verdicts : r.verdict = s.verdict := by
    rw [← hr.verdict.2, verdict, hs.verdict.2]
  have evidence := hr.evidence_eq hs method written
  cases r
  cases s
  exact congr (congrArg Result.mk verdicts) evidence

/-! ### The written form from left to right -/

/-- What follows a result in a header: nothing, or the separator before the next one. -/
def EndsResult (rest : List Char) : Prop := ∀ c ∈ rest.head?, c = ';'

theorem EndsResult.endsClean {rest : List Char} (h : EndsResult rest) : EndsClean rest :=
  fun c hc => .inr (h c hc)

@[simp] theorem toList_writeProperty (p : Property) :
    (writeProperty p).toList = ' ' :: (p.key.toList ++ '=' :: (Quoted.encode p.value).toList) := by
  simp [writeProperty]

/-- Written properties begin with a blank. -/
theorem head?_join_append (p : Property) (ps : List Property) (rest : List Char) :
    ((String.join ((p :: ps).map writeProperty)).toList ++ rest).head? = some ' ' := by
  simp only [List.map_cons, String.join_cons, String.toList_append, toList_writeProperty,
    List.cons_append, List.head?_cons]

/-- Nothing that comes before properties goes on into them. -/
theorem endsClean_join_append (ps : List Property) {rest : List Char} (h : EndsResult rest) :
    EndsClean ((String.join (ps.map writeProperty)).toList ++ rest) := by
  cases ps with
  | nil => simpa using h.endsClean
  | cons p ps =>
    intro c hc
    rw [head?_join_append] at hc
    obtain rfl := Option.some.inj hc
    exact .inl (by decide)

/-- What ends a result is no property. -/
theorem EndsResult.ne_join_append {rest : List Char} (h : EndsResult rest) (p : Property)
    (ps : List Property) (u : List Char) :
    (String.join ((p :: ps).map writeProperty)).toList ++ u ≠ rest := by
  rintro rfl
  exact absurd (h ' ' (head?_join_append p ps u)) (by decide)

/-- Written properties are told from the text, whatever their values hold. -/
theorem join_append_inj {ps qs : List Property} (hp : ∀ p ∈ ps, Bare p.key)
    (hq : ∀ q ∈ qs, Bare q.key) {t u : List Char} (ht : EndsResult t) (hu : EndsResult u)
    (same : (String.join (ps.map writeProperty)).toList ++ t =
      (String.join (qs.map writeProperty)).toList ++ u) : ps = qs ∧ t = u := by
  induction ps generalizing qs with
  | nil =>
    cases qs with
    | nil => exact ⟨rfl, by simpa using same⟩
    | cons q qs => exact absurd same.symm (ht.ne_join_append q qs u)
  | cons p ps ih =>
    cases qs with
    | nil => exact absurd same (hu.ne_join_append p ps t)
    | cons q qs =>
      simp only [List.map_cons, String.join_cons, String.toList_append, toList_writeProperty,
        List.cons_append, List.append_assoc, List.cons.injEq, true_and] at same
      obtain ⟨bareP, hp⟩ := List.forall_mem_cons.1 hp
      obtain ⟨bareQ, hq⟩ := List.forall_mem_cons.1 hq
      obtain ⟨keys, same⟩ := append_cons_inj bareP.2 bareQ.2 same
      obtain ⟨values, same⟩ := Quoted.encode_append_inj (endsClean_join_append ps ht)
        (endsClean_join_append qs hu) same
      obtain ⟨rfl, rest⟩ := ih hp hq same
      obtain ⟨key, value⟩ := p
      obtain rfl := String.toList_inj.1 keys
      obtain rfl : value = q.value := values
      exact ⟨rfl, rest⟩

/-- A written result is told from the text up to its end. -/
theorem Canonical.write_append_inj (hr : r.Canonical) (hs : s.Canonical) {t u : List Char}
    (ht : EndsResult t) (hu : EndsResult u)
    (same : r.write.toList ++ t = s.write.toList ++ u) : r = s ∧ t = u := by
  have key : ∀ {r : Result}, r.Canonical → ∀ p ∈ r.writtenProperties, Bare p.key := fun h p hp =>
    h.evidence.bare_key (mem_writtenProperties.1 hp).1
  have assign : "=".toList = ['='] := rfl
  simp only [write, String.toList_append, assign, List.append_assoc, List.singleton_append] at same
  obtain ⟨methods, same⟩ :=
    append_cons_inj hr.evidence.bare_method.2 hs.evidence.bare_method.2 same
  obtain ⟨verdicts, same⟩ := hr.verdict.1.append_inj hs.verdict.1 (endsClean_join_append _ ht)
    (endsClean_join_append _ hu) same
  obtain ⟨written, rest⟩ := join_append_inj (key hr) (key hs) ht hu same
  exact ⟨hr.eq_of_written hs (String.toList_inj.1 methods) verdicts written, rest⟩

/-- A result ends where the next one begins. -/
theorem endsResult_join (rs : List Result) :
    EndsResult (String.join (rs.map ("; " ++ ·.write))).toList := by
  cases rs with
  | nil => nofun
  | cons r rs =>
    intro c hc
    simp only [List.map_cons, String.join_cons, String.toList_append] at hc
    exact (Option.some.inj hc).symm

/-- Written results are told from the text, result by result. -/
theorem join_write_inj {rs ss : List Result} (hr : ∀ r ∈ rs, r.Canonical)
    (hs : ∀ s ∈ ss, s.Canonical)
    (same : (String.join (rs.map ("; " ++ ·.write))).toList =
      (String.join (ss.map ("; " ++ ·.write))).toList) : rs = ss := by
  induction rs generalizing ss with
  | nil =>
    cases ss with
    | nil => rfl
    | cons s ss => simp at same
  | cons r rs ih =>
    cases ss with
    | nil => simp at same
    | cons s ss =>
      obtain ⟨canonicalR, laterR⟩ := List.forall_mem_cons.1 hr
      obtain ⟨canonicalS, laterS⟩ := List.forall_mem_cons.1 hs
      simp only [List.map_cons, String.join_cons, String.append_assoc, String.toList_append] at same
      obtain ⟨rfl, rest⟩ := canonicalR.write_append_inj canonicalS (endsResult_join rs)
        (endsResult_join ss) (List.append_cancel_left same)
      rw [ih laterR laterS rest]

/-- A written result is not the placeholder for no result. -/
theorem writeAll_cons_ne_none (r : Result) (rs : List Result) :
    writeAll (r :: rs) ≠ writeAll [] := by
  intro same
  have assign : '=' ∈ (writeAll (r :: rs)).toList := by simp [writeAll, write]
  rw [same] at assign
  exact absurd assign (by decide)

end Result

namespace Preamble

/-- No two lists of results are written alike. -/
theorem write_inj (p : Preamble) {rs ss : List Result} (hr : ∀ r ∈ rs, r.Canonical)
    (hs : ∀ s ∈ ss, s.Canonical) : p.write rs = p.write ss ↔ rs = ss := by
  constructor
  · intro same
    have chars := congrArg String.toList same
    rw [write, write, String.toList_append, String.toList_append] at chars
    have all : Result.writeAll rs = Result.writeAll ss :=
      String.toList_inj.1 (List.append_cancel_left chars)
    cases rs with
    | nil =>
      cases ss with
      | nil => rfl
      | cons s ss => exact absurd all.symm (Result.writeAll_cons_ne_none s ss)
    | cons r rs =>
      cases ss with
      | nil => exact absurd all (Result.writeAll_cons_ne_none r rs)
      | cons s ss => exact Result.join_write_inj hr hs (congrArg String.toList all)
  · intro same
    rw [same]

/-- A reason that spells another result is not taken for it. -/
theorem write_inj_forged :
    write ⟨"mx", some 3, true⟩ [⟨.pass, .dmarc "a\"; spf=fail" ""⟩] ≠
      write ⟨"mx", some 3, true⟩ [⟨.pass, .dmarc "a\"" ""⟩, ⟨.fail, .spf "" "" ""⟩] := by
  intro same
  exact absurd ((write_inj _ (by decide) (by decide)).1 same) (by decide)

end Preamble

end MailAuth
