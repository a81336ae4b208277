import MailAuth.Proofs.ReadHeader
import MailAuth.Proofs.Written.Header

/-!
# Writing and reading

What comes back when a header is written and the text is read.

* Plain texts come back as they are, so a header with legible names comes back whole but for what
  settling loses (`Header.read_write_of_plain`).
* Quoting is not undone. Where the texts of known methods are only unbroken, the results come back
  if and only if no text was quoted (`Header.read_write_settled_iff`).
* A header that was read comes back if and only if nothing in it was quoted and its preamble is
  told from an instance tag and from a version (`Header.read_write_eq_iff`).
* Texts that hold no separator cannot change which verdicts are read (`Header.verdicts_read_write`).
-/

namespace MailAuth

open Text

/-! ### Results -/

namespace Result

variable {r : Result}

/-- A result with plain texts is legible. -/
theorem legible_of_plain (verdict : r.verdict.Legible) (names : r.evidence.WellNamed)
    (plain : ∀ t ∈ r.evidence.texts, Quoted.Plain t) : r.Legible :=
  ⟨verdict, names, fun t ht => (Quoted.plain_iff.1 (plain t ht)).1⟩

/-- A result of a known method is legible if what it leaves open is. -/
theorem legible_of_known {word : String} (known : r.evidence.knownMethod?.isSome)
    (clean : Clean word) (verdict : r.verdict = .ofText word)
    (names : ∀ n ∈ r.evidence.names, LowerBare n) (texts : ∀ t ∈ r.evidence.texts, Clean t) :
    r.Legible := by
  refine ⟨?_, ?_, texts⟩
  · rw [verdict]
    exact Verdict.legible_ofText clean
  · exact Evidence.wellNamed_of_knownMethod? known fun n hn => (names n hn).bare

/-- A result comes back settled exactly if its texts are plain. -/
theorem reread_eq_settled_iff : r.reread = r.settled ↔ ∀ t ∈ r.evidence.texts, Quoted.Plain t := by
  constructor
  · intro same
    have texts : r.reread.evidence.texts = r.settled.evidence.texts :=
      congrArg (·.evidence.texts) same
    exact Evidence.plain_of_texts_eq (texts.trans r.evidence.texts_settled)
  · intro plain
    rw [reread, Evidence.mapTexts_encode_of_plain plain, settled]

/-- A normal result is not changed if no text is quoted and `sender-id` names no header field
without a value. -/
theorem Normal.reread_eq_self_iff (h : r.Normal) :
    r.reread = r ↔ (∀ t ∈ r.evidence.texts, Without ['(', ')', '"', '\\'] t) ∧
      ∀ reason headerKey, r.evidence = .senderId reason headerKey "" → headerKey = "" := by
  constructor
  · intro same
    have texts : r.reread.evidence.texts = r.evidence.texts := congrArg (·.evidence.texts) same
    have plain := Evidence.plain_of_texts_eq texts
    rw [reread_eq_settled_iff.2 plain] at same
    have settled : r.evidence.settled = r.evidence := congrArg Result.evidence same
    exact ⟨fun t ht => (Quoted.plain_iff.1 (plain t ht)).2,
      (Evidence.settled_eq_self_iff h.lower).1 settled⟩
  · rintro ⟨marks, named⟩
    have plain : ∀ t ∈ r.evidence.texts, Quoted.Plain t := fun t ht =>
      Quoted.plain_iff.2 ⟨h.texts t ht, marks t ht⟩
    rw [reread_eq_settled_iff.2 plain, Result.settled,
      (Evidence.settled_eq_self_iff h.lower).2 named]

end Result

/-! ### Headers that are written -/

namespace Header

/-- A header with plain texts comes back, but for what settling loses. -/
theorem read_write_of_plain {p : Preamble} {results : List Result} (preamble : p.Legible)
    (verdicts : ∀ r ∈ results, r.verdict.Legible) (names : ∀ r ∈ results, r.evidence.WellNamed)
    (plain : ∀ r ∈ results, ∀ t ∈ r.evidence.texts, Quoted.Plain t) :
    read (p.write results) = ⟨p.identifier, p.arcInstance, results.map Result.settled, none⟩ := by
  have legible : ∀ r ∈ results, r.Legible := fun r hr =>
    Result.legible_of_plain (verdicts r hr) (names r hr) (plain r hr)
  have settled : ∀ r ∈ results, r.reread = r.settled := fun r hr =>
    Result.reread_eq_settled_iff.2 (plain r hr)
  rw [read_write_of_legible preamble legible, List.map_congr_left settled]

/-- The name of a header field comes back in lower case, and an empty property of an unknown method
stays. -/
theorem read_write_senderId_generic :
    read (Preamble.write ⟨"mx", some 3, true⟩
        [⟨.pass, .senderId "ok" "From" "a@b"⟩, ⟨.fail, .generic "x-a" (.ofList [⟨"k", ""⟩])⟩]) =
      ⟨"mx", some 3,
        [⟨.pass, .senderId "ok" "From" "a@b"⟩, ⟨.fail, .generic "x-a" (.ofList [⟨"k", ""⟩])⟩].map
          Result.settled, none⟩ :=
  read_write_of_plain (by decide) (by decide) (by decide) (by decide)

/-- Whatever is read holds no separator, so texts that come back held none. -/
theorem clean_of_read_settled {value : String} {results : List Result}
    (same : (read value).results = results.map Result.settled) :
    ∀ r ∈ results, ∀ t ∈ r.evidence.texts, Clean t := by
  intro r hr t ht
  have mem : r.settled ∈ (read value).results := by
    rw [same]
    exact List.mem_map_of_mem hr
  apply ((normal_read value).results _ mem).texts
  rwa [Result.settled, Evidence.texts_settled]

/-- Quoting is not undone: where the texts of known methods are unbroken, the results come back, but
for what settling loses, if and only if no text needed quotation marks. -/
theorem read_write_settled_iff {identifier : String} {results : List Result}
    (clean : Clean identifier) (untagged : instanceTag? identifier = none)
    (known : ∀ r ∈ results, r.evidence.knownMethod?.isSome)
    (verdicts : ∀ r ∈ results, ∃ word, Clean word ∧ r.verdict = .ofText word)
    (names : ∀ r ∈ results, ∀ n ∈ r.evidence.names, LowerBare n)
    (unbroken : ∀ r ∈ results, ∀ t ∈ r.evidence.texts, Unbroken t) :
    ((read (Preamble.write ⟨identifier, none, false⟩ results)).error = none ∧
        (read (Preamble.write ⟨identifier, none, false⟩ results)).results =
          results.map Result.settled) ↔
      ∀ r ∈ results, ∀ t ∈ r.evidence.texts, Without [';', '(', ')', '"', '\\'] t := by
  have preamble : Preamble.Legible ⟨identifier, none, false⟩ :=
    ⟨clean, nofun, nofun, fun _ _ => untagged⟩
  have legible : (∀ r ∈ results, ∀ t ∈ r.evidence.texts, Clean t) → ∀ r ∈ results, r.Legible := by
    intro texts r hr
    obtain ⟨word, cleanWord, verdict⟩ := verdicts r hr
    exact Result.legible_of_known (known r hr) cleanWord verdict (names r hr) (texts r hr)
  constructor
  · rintro ⟨-, same⟩
    -- A text with a separator cannot come back at all, so it needs no case of its own.
    have texts := clean_of_read_settled same
    rw [read_write_of_legible preamble (legible texts)] at same
    intro r hr t ht
    have plain := Result.reread_eq_settled_iff.1 (List.map_eq_map_iff.1 same r hr) t ht
    exact (Quoted.plain_iff_of_unbroken (unbroken r hr t ht)).1 plain
  · intro marks
    have plain : ∀ r ∈ results, ∀ t ∈ r.evidence.texts, Quoted.Plain t := fun r hr t ht =>
      (Quoted.plain_iff_of_unbroken (unbroken r hr t ht)).2 (marks r hr t ht)
    have texts : ∀ r ∈ results, ∀ t ∈ r.evidence.texts, Clean t := fun r hr t ht =>
      (Quoted.plain_iff.1 (plain r hr t ht)).1
    have settled : ∀ r ∈ results, r.reread = r.settled := fun r hr =>
      Result.reread_eq_settled_iff.2 (plain r hr)
    rw [read_write_of_legible preamble (legible texts)]
    exact ⟨rfl, List.map_congr_left settled⟩

/-- Plain texts of `dmarc` come back. -/
theorem read_write_dmarc :
    (read (Preamble.write ⟨"mx", none, false⟩ [⟨.pass, .dmarc "ok" "a.org"⟩])).error = none ∧
      (read (Preamble.write ⟨"mx", none, false⟩ [⟨.pass, .dmarc "ok" "a.org"⟩])).results =
        [⟨.pass, .dmarc "ok" "a.org"⟩].map Result.settled :=
  (read_write_settled_iff (by decide) (by decide) (by decide)
    (fun r hr => ⟨"pass", by decide, by rw [List.mem_singleton.1 hr]; decide⟩)
    (by decide) (by decide)).2 (by decide)

/-- A parenthesis is quoted, and the quotation marks come back with it. -/
theorem read_write_dmarc_quoted :
    ¬ ((read (Preamble.write ⟨"mx", none, false⟩ [⟨.pass, .dmarc "a(b" "a.org"⟩])).error = none ∧
      (read (Preamble.write ⟨"mx", none, false⟩ [⟨.pass, .dmarc "a(b" "a.org"⟩])).results =
        [⟨.pass, .dmarc "a(b" "a.org"⟩].map Result.settled) := by decide

/-- Texts without separators cannot change the verdicts: whatever else they hold, the methods and
their verdicts come back in order, and so does the preamble. -/
theorem verdicts_read_write {p : Preamble} {results : List Result} (preamble : p.Legible)
    (methods : ∀ r ∈ results, LowerBare r.method)
    (verdicts : ∀ r ∈ results, r.verdict.Legible)
    (contained : ∀ r ∈ results, ∀ t ∈ r.evidence.names ++ r.evidence.texts, ';' ∉ t.toList) :
    (read (p.write results)).error = none ∧
      (read (p.write results)).identifier = p.identifier ∧
      (read (p.write results)).arcInstance = p.arcInstance ∧
      (read (p.write results)).results.map (fun r => (r.method, r.verdict)) =
        results.map fun r => (r.method, r.verdict) := by
  have segments : ∀ r ∈ results, r.Contained := by
    intro r hr
    refine ⟨methods r hr, verdicts r hr, fun _ hp => ?_⟩
    exact Evidence.not_mem_of_mem_properties (contained r hr) hp
  rw [read_write preamble segments]
  refine ⟨rfl, rfl, rfl, ?_⟩
  rw [List.map_map]
  refine List.map_congr_left fun r hr => ?_
  obtain ⟨method, verdict⟩ := (segments r hr).result_statement
  exact Prod.ext method verdict

/-- Neither a torn reason nor a torn key states a verdict. -/
theorem verdicts_read_write_torn :
    (read (Preamble.write ⟨"mx", none, true⟩
        [⟨.pass, .dmarc "x\"  spf=fail" "a b"⟩,
          ⟨.fail, .generic "dkim" (.ofList [⟨"none spf", "c =pass"⟩])⟩])).results.map
            (fun r => (r.method, r.verdict)) =
      [("dmarc", .pass), ("dkim", .fail)] :=
  (verdicts_read_write (p := ⟨"mx", none, true⟩) (by decide) (by decide) (by decide)
    (by decide)).2.2.2

/-! ### Headers that were read -/

/-- The preamble of a header that was read is legible if it cannot be taken for an instance tag or
for a version. -/
theorem Normal.legible_preamble_iff {h : Header} (normal : h.Normal) (version : Bool) :
    (h.preamble version).Legible ↔
      (h.arcInstance ≠ none ∨ version ∨ instanceTag? h.identifier = none) ∧
        (version → h.identifier ≠ "") := by
  constructor
  · intro legible
    refine ⟨?_, legible.version⟩
    by_cases none : h.arcInstance = none
    · cases version with
      | true => exact .inr (.inl rfl)
      | false => exact .inr (.inr (legible.untagged none rfl))
    · exact .inl none
  · rintro ⟨told, named⟩
    refine ⟨normal.identifier, normal.arcInstance, named, fun none plain => ?_⟩
    rcases told with tagged | versioned | untagged
    · exact absurd none tagged
    · exact absurd (versioned.symm.trans plain) (by decide)
    · exact untagged

/-- What was read comes back exactly if its preamble cannot be taken for an instance tag or for a
version, no text was quoted, and `sender-id` names no header field without a value. -/
theorem read_write_eq_iff {value : String} {h : Header} (given : h = read value ∨ h = readArc value)
    (version : Bool) :
    read ((h.preamble version).write h.results) = { h with error := none } ↔
      (h.arcInstance ≠ none ∨ version ∨ instanceTag? h.identifier = none) ∧
        (version → h.identifier ≠ "") ∧
        (∀ r ∈ h.results, ∀ t ∈ r.evidence.texts, Without ['(', ')', '"', '\\'] t) ∧
        ∀ r ∈ h.results, ∀ reason headerKey,
          r.evidence = .senderId reason headerKey "" → headerKey = "" := by
  have normal : h.Normal := by
    cases given with
    | inl given =>
      rw [given]
      exact normal_read value
    | inr given =>
      rw [given]
      exact normal_readArc value
  have legible : ∀ r ∈ h.results, r.Legible := fun r hr => (normal.results r hr).toLegible
  have contained : ∀ r ∈ h.results, r.Contained := fun r hr => (legible r hr).contained
  constructor
  · intro same
    have identifier : (read ((h.preamble version).write h.results)).identifier = h.identifier := by
      rw [same]
    have arcInstance :
        (read ((h.preamble version).write h.results)).arcInstance = h.arcInstance := by
      rw [same]
    have preamble : (h.preamble version).Legible :=
      (Preamble.legible_iff normal.identifier normal.arcInstance contained).2
        ⟨identifier, arcInstance⟩
    rw [read_write_of_legible preamble legible, Header.mk.injEq] at same
    have each : ∀ r ∈ h.results, r.reread = id r :=
      List.map_eq_map_iff.1 (same.2.2.1.trans (List.map_id _).symm)
    obtain ⟨told, named⟩ := (normal.legible_preamble_iff version).1 preamble
    refine ⟨told, named, fun r hr => ?_, fun r hr => ?_⟩
    · exact ((normal.results r hr).reread_eq_self_iff.1 (each r hr)).1
    · exact ((normal.results r hr).reread_eq_self_iff.1 (each r hr)).2
  · rintro ⟨told, named, marks, settled⟩
    have preamble := (normal.legible_preamble_iff version).2 ⟨told, named⟩
    have each : h.results.map Result.reread = h.results.map id :=
      List.map_congr_left fun r hr =>
        (normal.results r hr).reread_eq_self_iff.2 ⟨marks r hr, settled r hr⟩
    rw [read_write_of_legible preamble legible, each, List.map_id]
    rfl

/-- A header of an ARC set comes back; an instance tag that stands alone does not, since as an
identifier it is read as the tag. -/
theorem read_write_tag :
    read (((read "i=2; mx; spf=pass").preamble true).write (read "i=2; mx; spf=pass").results) =
        { read "i=2; mx; spf=pass" with error := none } ∧
      read (((read "i=2").preamble false).write (read "i=2").results) ≠
        { read "i=2" with error := none } := by
  constructor
  · refine (read_write_eq_iff (.inl rfl) true).2 ⟨by decide, by decide, by decide, ?_⟩
    have results : (read "i=2; mx; spf=pass").results = [⟨.pass, .spf "" "" ""⟩] := by decide
    rw [results]
    intro r hr reason headerKey senderId
    rw [List.mem_singleton.1 hr] at senderId
    cases senderId
  · intro same
    exact absurd ((read_write_eq_iff (.inl rfl) false).1 same).1 (by decide)

end Header

end MailAuth
