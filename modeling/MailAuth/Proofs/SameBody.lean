import MailAuth.Proofs.Joined
import MailAuth.Proofs.StatedResult
import MailAuth.Proofs.Text.LetterCase

/-!
# Bodies that say the same

What reading makes of two bodies behind the same opening. It is the same header if the segments add
the same to it (`Header.read_append_congr`), and what a segment adds is told from its words
(`Segment.finding?_ofPart?`).

Two ways in which bodies may differ follow. Blanks, parts without words, placeholders and words that
are no properties make no difference (`Header.read_append_of_reducedForm`). Nor does the case of
ASCII letters in methods, verdicts and keys (`Header.read_append_of_respelled`). What is noticed on
the way may differ; the header does not, also where it holds an error.
-/

namespace MailAuth

open Text

/-! ### What a segment adds -/

/-- What a segment adds to a header: a result, or the error that ends the reading. -/
def Segment.finding? : Segment → Option (Except ReadError Result)
  | .placeholder _ => none
  | .malformed word => some (.error (.malformedMethod word))
  | .statement s => some (.ok s.result)

/-- The results before the first error, and that error. -/
def collect : List (Except ReadError Result) → List Result × Option ReadError
  | [] => ([], none)
  | .error e :: _ => ([], some e)
  | .ok r :: rest => (r :: (collect rest).1, (collect rest).2)

namespace Body

/-- What the segments add to a header, in order. -/
def findings (b : Body) : List (Except ReadError Result) := b.segments.filterMap Segment.finding?

/-- A body is read from left to right up to its first error. -/
theorem collect_findings (b : Body) : collect b.findings = (b.results, b.error?) := by
  obtain ⟨segments⟩ := b
  induction segments with
  | nil => rfl
  | cons segment rest ih =>
    have split : (⟨segment :: rest⟩ : Body) = ⟨[segment]⟩ ++ ⟨rest⟩ := rfl
    unfold findings at ih ⊢
    cases segment with
    | placeholder text =>
      have readable : error? ⟨[.placeholder text]⟩ = none := rfl
      rw [split, results_append readable, error?_append, readable]
      exact ih
    | malformed word =>
      have failed : error? ⟨[.malformed word]⟩ = some (.malformedMethod word) := rfl
      rw [split, results_append_of_error (by rw [failed]; exact nofun), error?_append, failed]
      rfl
    | statement s =>
      have readable : error? ⟨[.statement s]⟩ = none := rfl
      have stated : results ⟨[.statement s]⟩ = [s.result] := rfl
      rw [split, results_append readable, error?_append, readable, stated, segments_append,
        List.filterMap_append]
      exact congrArg (fun read => (s.result :: read.1, read.2)) ih

end Body

/-- Behind a complete opening, bodies whose segments add the same make the same header. -/
theorem Header.read_append_congr {p b₁ b₂ : String}
    (complete : ';' ∈ p.toList ∨ instanceTag? (trim p) = none)
    (same : (Body.ofParts (parts ';' b₁)).findings = (Body.ofParts (parts ';' b₂)).findings) :
    read (p ++ ";" ++ b₁) = read (p ++ ";" ++ b₂) := by
  have outcome := congrArg collect same
  rw [Body.collect_findings, Body.collect_findings, Prod.mk.injEq] at outcome
  obtain ⟨absorbed₁, added₁⟩ := Reading.header_ofOpening_append (Opening.ofText p) (parts ';' b₁)
  obtain ⟨absorbed₂, added₂⟩ := Reading.header_ofOpening_append (Opening.ofText p) (parts ';' b₂)
  rw [read_eq, read_eq, Opening.ofText_append complete, Opening.ofText_append complete]
  by_cases ok : (Reading.ofOpening (Opening.ofText p)).header.error = none
  · rw [added₁ ok, added₂ ok, outcome.1, outcome.2]
  · rw [absorbed₁ ok, absorbed₂ ok]

/-! ### Words -/

namespace Segment

/-- What a part with the given words adds to a header. -/
def findingOfWords? : List String → Option (Except ReadError Result)
  | [] => none
  | first :: tokens =>
    if first = "none" then none
    else match Property.read first with
      | .error _ => some (.error (.malformedMethod first))
      | .ok p => some (.ok (Statement.result ⟨p.key, .ofText p.value, tokens⟩))

/-- Only the words of a part count. -/
theorem finding?_ofPart? (part : String) :
    (ofPart? part).bind finding? = findingOfWords? (words part) := by
  rcases ofPart?_cases part with ⟨hwords, holds⟩ | ⟨tokens, hwords, holds⟩ |
    ⟨first, tokens, hwords, named, assigned, holds⟩ |
    ⟨first, tokens, p, hwords, named, spelled, holds⟩
  · rw [hwords, holds]
    rfl
  · rw [hwords, holds]
    rfl
  · have malformed := Property.read_eq_error_iff.2 ⟨assigned, rfl⟩
    simp only [hwords, holds, findingOfWords?, named, if_false, malformed]
    rfl
  · simp only [hwords, holds, findingOfWords?, named, if_false, spelled]
    rfl

end Segment

/-- Only the words of the parts count. -/
theorem Body.findings_ofParts (ps : List String) :
    (ofParts ps).findings = (ps.map words).filterMap Segment.findingOfWords? := by
  rw [findings, ofParts, List.filterMap_filterMap, List.filterMap_map]
  exact List.filterMap_congr fun part _ => Segment.finding?_ofPart? part

/-! ### Layout, placeholders and stray words -/

/-- A part with the words says something: there is a first word, and it is not the placeholder. -/
def speaks : List String → Bool
  | [] => false
  | first :: _ => first != "none"

/-- The first word of a part, and those after it that hold an equals sign. -/
def essentialWords : List String → List String
  | [] => []
  | first :: tokens => first :: tokens.filter ('=' ∈ ·.toList)

/-- The words that count, part by part; parts without words and placeholders are left out. -/
def reducedForm (body : String) : List (List String) :=
  (((parts ';' body).map words).filter speaks).map essentialWords

/-- A word without an equals sign is no property. -/
theorem Property.read?_eq_none {token : String} (h : '=' ∉ token.toList) : read? token = none := by
  rw [read?, read_eq_error_iff.2 ⟨h, rfl⟩]
  rfl

namespace Segment

/-- Words that are no properties add nothing. -/
theorem findingOfWords?_essentialWords (ws : List String) :
    findingOfWords? (essentialWords ws) = findingOfWords? ws := by
  cases ws with
  | nil => rfl
  | cons first tokens =>
    have properties : (tokens.filter ('=' ∈ ·.toList)).filterMap Property.read? =
        tokens.filterMap Property.read? := by
      rw [List.filterMap_filter]
      refine List.filterMap_congr fun token _ => ?_
      by_cases h : '=' ∈ token.toList
      · simp [h]
      · simp [h, Property.read?_eq_none h]
    have result (method : String) (verdict : Verdict) :
        Statement.result ⟨method, verdict, tokens.filter ('=' ∈ ·.toList)⟩ =
          Statement.result ⟨method, verdict, tokens⟩ :=
      Statement.result_congr_of_properties rfl rfl properties
    simp only [essentialWords, findingOfWords?, result]

/-- Parts without words and placeholders add nothing. -/
theorem findingOfWords?_of_not_speaks {ws : List String} (h : ¬ speaks ws) :
    findingOfWords? ws = none := by
  cases ws with
  | nil => rfl
  | cons first tokens =>
    have placeholder : first = "none" := by simpa [speaks] using h
    rw [findingOfWords?, if_pos placeholder]

end Segment

/-- What a body adds to a header is told from its reduced form. -/
theorem Body.findings_eq_of_reducedForm (body : String) :
    (ofParts (parts ';' body)).findings = (reducedForm body).filterMap Segment.findingOfWords? := by
  have essential : Segment.findingOfWords? ∘ essentialWords = Segment.findingOfWords? :=
    funext Segment.findingOfWords?_essentialWords
  rw [findings_ofParts, reducedForm, List.filterMap_map (f := essentialWords), essential,
    List.filterMap_filter]
  refine List.filterMap_congr fun ws _ => ?_
  by_cases h : speaks ws
  · rw [if_pos h]
  · rw [if_neg h, Segment.findingOfWords?_of_not_speaks h]

namespace Header

/-- Layout, placeholders and stray words make no difference: bodies with one reduced form make the
same header. -/
theorem read_append_of_reducedForm {p b₁ b₂ : String}
    (complete : ';' ∈ p.toList ∨ instanceTag? (trim p) = none)
    (same : reducedForm b₁ = reducedForm b₂) : read (p ++ ";" ++ b₁) = read (p ++ ";" ++ b₂) := by
  refine read_append_congr complete ?_
  rw [Body.findings_eq_of_reducedForm, Body.findings_eq_of_reducedForm, same]

/-- A no-break space, an empty part, a placeholder with words behind it and a comment are passed
over, in front of a malformed part too. -/
theorem read_append_of_reducedForm_malformed :
    reducedForm "\u00a0spf=pass\t(a comment) smtp.helo=h;; none x=y; dkim a b" =
        reducedForm "spf=pass smtp.helo=h;dkim" ∧
      read ("mx 1" ++ ";" ++ "\u00a0spf=pass\t(a comment) smtp.helo=h;; none x=y; dkim a b") =
        read ("mx 1" ++ ";" ++ "spf=pass smtp.helo=h;dkim") := by
  have same : reducedForm "\u00a0spf=pass\t(a comment) smtp.helo=h;; none x=y; dkim a b" =
      reducedForm "spf=pass smtp.helo=h;dkim" := by decide +kernel
  have untagged : instanceTag? (trim "mx 1") = none := by decide
  exact ⟨same, read_append_of_reducedForm (.inr untagged) same⟩

end Header

/-! ### The case of letters -/

/-- The words are the same but for the case of ASCII letters before the first equals sign. -/
def SameProperty (t u : String) : Prop :=
  t = u ∨ ∃ key key' value, '=' ∉ key.toList ∧ sameName key key' ∧
    t = key ++ "=" ++ value ∧ u = key' ++ "=" ++ value

/-- The words are the same, or they hold an equals sign and are the same but for the case of ASCII
letters. -/
def SameVerdict (t u : String) : Prop := t = u ∨ '=' ∈ t.toList ∧ sameName t u

/-- The words of a part in two spellings: the first states a verdict, the others are properties. -/
inductive Respelled : List String → List String → Prop where
  | nil : Respelled [] []
  | cons {first first' : String} {tokens tokens' : List String} :
    SameVerdict first first' → List.Forall₂ SameProperty tokens tokens' →
      Respelled (first :: tokens) (first' :: tokens')

/-- Lists that correspond, item by item, under a relation that `f` respects. -/
theorem filterMap_eq_of_forall₂ {α β : Type} {R : α → α → Prop} {f : α → Option β}
    (respects : ∀ a b, R a b → f a = f b) {as bs : List α} (h : List.Forall₂ R as bs) :
    as.filterMap f = bs.filterMap f := by
  induction h with
  | nil => rfl
  | cons head _ ih => rw [List.filterMap_cons, List.filterMap_cons, respects _ _ head, ih]

namespace Property

variable {t u : String}

/-- The spelling of a key makes no difference. -/
theorem read?_eq_of_sameProperty (h : SameProperty t u) : read? t = read? u := by
  rcases h with rfl | ⟨key, key', value, bare, same, rfl, rfl⟩
  · rfl
  · have bare' : '=' ∉ key'.toList := mt (mem_iff_of_sameName (by decide) same).2 bare
    rw [read?, read?, read_append bare, read_append bare',
      lowercase_eq_of_sameName (sameName_trim same)]

/-- In the first word of a part the spelling makes no difference to the method nor the verdict. -/
theorem read_of_sameName (same : sameName t u) (assigned : '=' ∈ t.toList) :
    ∃ p q, read t = .ok p ∧ read u = .ok q ∧ p.key = q.key ∧
      Verdict.ofText p.value = Verdict.ofText q.value := by
  obtain ⟨key, value, key', value', cut, cut', keys, values⟩ :=
    exists_splitFirst_of_sameName same assigned
  refine ⟨⟨lowercase (trim key), trim value⟩, ⟨lowercase (trim key'), trim value'⟩,
    by rw [read, cut], by rw [read, cut'], lowercase_eq_of_sameName (sameName_trim keys), ?_⟩
  rw [Verdict.ofText, Verdict.ofText, lowercase_eq_of_sameName (sameName_trim values)]

end Property

/-- The spelling of the words of a part makes no difference to what the part adds. -/
theorem Segment.findingOfWords?_eq_of_respelled {ws vs : List String} (h : Respelled ws vs) :
    findingOfWords? ws = findingOfWords? vs := by
  cases h with
  | nil => rfl
  | @cons first first' tokens tokens' head rest =>
    have properties : tokens.filterMap Property.read? = tokens'.filterMap Property.read? :=
      filterMap_eq_of_forall₂ (R := SameProperty)
        (fun _ _ => Property.read?_eq_of_sameProperty) rest
    have result (method : String) (verdict : Verdict) :
        Statement.result ⟨method, verdict, tokens⟩ = Statement.result ⟨method, verdict, tokens'⟩ :=
      Statement.result_congr_of_properties rfl rfl properties
    rcases head with rfl | ⟨assigned, same⟩
    · simp only [findingOfWords?, result]
    · have assigned' : '=' ∈ first'.toList := (mem_iff_of_sameName (by decide) same).1 assigned
      have ne {word : String} (h : '=' ∈ word.toList) : word ≠ "none" := by
        rintro rfl
        exact absurd h (by decide)
      obtain ⟨p, q, spelled, spelled', keys, verdicts⟩ := Property.read_of_sameName same assigned
      simp only [findingOfWords?, ne assigned, ne assigned', if_false, spelled, spelled',
        keys, verdicts, result]

namespace Header

/-- The case of ASCII letters makes no difference in methods, verdicts and keys: bodies in two
spellings make the same header. -/
theorem read_append_of_respelled {p b₁ b₂ : String}
    (complete : ';' ∈ p.toList ∨ instanceTag? (trim p) = none)
    (same : List.Forall₂ Respelled ((parts ';' b₁).map words) ((parts ';' b₂).map words)) :
    read (p ++ ";" ++ b₁) = read (p ++ ";" ++ b₂) := by
  refine read_append_congr complete ?_
  rw [Body.findings_ofParts, Body.findings_ofParts]
  exact filterMap_eq_of_forall₂ (R := Respelled)
    (fun _ _ => Segment.findingOfWords?_eq_of_respelled) same

/-- A sigma is lower-cased by what stands beside it, be this a small letter or a capital. -/
theorem read_append_of_respelled_sigma :
    read ("mx" ++ ";" ++ "SPF=Pass aΣ=B") = read ("mx" ++ ";" ++ "spf=PASS AΣ=B") := by
  have words₁ : (parts ';' "SPF=Pass aΣ=B").map words = [["SPF=Pass", "aΣ=B"]] := by decide
  have words₂ : (parts ';' "spf=PASS AΣ=B").map words = [["spf=PASS", "AΣ=B"]] := by decide
  have verdict : SameVerdict "SPF=Pass" "spf=PASS" := .inr (by decide)
  have property : SameProperty "aΣ=B" "AΣ=B" :=
    .inr ⟨"aΣ", "AΣ", "B", by decide, by decide, by decide, by decide⟩
  have same : Respelled ["SPF=Pass", "aΣ=B"] ["spf=PASS", "AΣ=B"] :=
    .cons verdict (.cons property .nil)
  have untagged : instanceTag? (trim "mx") = none := by decide
  refine read_append_of_respelled (.inr untagged) ?_
  rw [words₁, words₂]
  exact .cons same .nil

end Header

end MailAuth
