import MailAuth.Proofs.Accounted

/-!
# What is logged

An event is logged as an entry with its level, its message and its fields (`Event.entry`). Which
entries a reading leaves is told here from the words of the header and from the header that was
read, with every text that a field shows: the first part where it looks like an instance tag and is
none (`tagEntries`), the parts that are examined and their tokens (`entriesIn`), and the error
(`Header.errorEntries`). `Reading.entries_ofText` says that these are all the entries, in this
order.

Which parts have events of their own, and in which order, is known from the accounts of a body
(`Body.events_ofParts`). What is added is what each of them shows.
-/

namespace MailAuth

open Text

/-- What is logged of an event. -/
structure LogEntry where
  level : Level
  message : String
  /-- The fields by name. -/
  fields : List (String × Event.Field)
  deriving DecidableEq

/-- An event as it is logged. -/
def Event.entry (e : Event) : LogEntry := ⟨e.level, e.message, e.fields⟩

/-! ### The first part -/

/-- The first part looks like an instance tag and is none. -/
def RefusedTag (s : String) : Prop :=
  (∃ number, trim (beforeSeparator s) = "i=" ++ number) ∧
    ∀ n, ¬ WritesTag (trim (beforeSeparator s)) n

theorem hasRefusedTag_iff {s : String} : hasRefusedTag s ↔ RefusedTag s := by
  simp only [hasRefusedTag, RefusedTag, Bool.and_eq_true, Option.isSome_iff_exists,
    after?_eq_some_iff, Option.isNone_iff_eq_none, Option.eq_none_iff_forall_ne_some, ne_eq,
    instanceTag?_eq_some_iff, firstPart_eq]

instance (s : String) : Decidable (RefusedTag s) := decidable_of_iff _ hasRefusedTag_iff

/-- What is logged of the first part. -/
def tagEntries (s : String) : List LogEntry :=
  if RefusedTag s then
    [⟨.trace, "not an ARC instance tag", [("preamble", .text (trim (beforeSeparator s)))]⟩]
  else []

/-! ### Tokens and parts -/

namespace Statement

/-- What is logged of a token: the token itself with the method where it has no equals sign, and
both keys where it is about another header field than the statement. -/
def entry? (s : Statement) (token : String) : Option LogEntry :=
  match Property.cut? token with
  | none =>
    some ⟨.trace, "dropping malformed parameter",
      [("err", .text ("malformed parameter: " ++ token)), ("method", .text s.method)]⟩
  | some p =>
    (s.senderKey?.filter p.aboutOther).map fun first =>
      ⟨.trace, "ignoring extra header property", [("key", .text p.key), ("first", .text first)]⟩

theorem Worded.map_entry_event? {s : Statement} (h : s.Worded) {token : String}
    (mem : token ∈ s.tokens) : (s.event? token).map Event.entry = s.entry? token := by
  have cut := Property.read?_of_unbroken (h token mem)
  rcases s.event?_cases token with ⟨-, unspelled, noticed⟩ | ⟨p, -, spelled, noticed⟩
  · rw [unspelled] at cut
    rw [noticed, entry?, ← cut]
    rfl
  · rw [spelled] at cut
    rw [noticed, entry?, ← cut, h.conflict?, Option.map_map]
    rfl

end Statement

/-- What is logged of a part that is examined: the part itself, without blanks at its ends, if its
first word is the placeholder, and the tokens of what it states. -/
def entriesIn (part : String) : List LogEntry :=
  if (words part).head? = some "none" then
    [⟨.trace, "skipping empty result segment", [("segment", .text (trim part))]⟩]
  else (statementIn? part).toList.flatMap fun s => s.tokens.filterMap s.entry?

theorem map_entry_eventsIn (part : String) :
    (eventsIn part).map Event.entry = entriesIn part := by
  rcases Segment.ofPart?_cases part with ⟨hwords, holds⟩ | ⟨tokens, hwords, holds⟩ |
    ⟨first, tokens, hwords, named, -, holds⟩ | ⟨first, tokens, p, hwords, named, -, holds⟩
  · simp [eventsIn, entriesIn, statementIn?, hwords, holds]
  · rw [eventsIn, entriesIn, holds, hwords, List.head?_cons, if_pos rfl]
    rfl
  · simp [eventsIn, entriesIn, statementIn?_of_ofPart? holds, hwords, holds, named,
      Segment.statement?, Segment.events]
  · have worded := Segment.worded_of_ofPart? holds
    simp only [eventsIn, entriesIn, statementIn?_of_ofPart? holds, hwords, holds, named,
      List.head?_cons, Option.some.injEq, if_false, Segment.statement?, Segment.events,
      Option.toList_some, List.flatMap_singleton, List.map_filterMap]
    exact List.filterMap_congr fun token mem => worded.map_entry_event? mem

/-- What is logged of the parts. For its version a header is refused before any part is
examined. -/
def partEntries (s : String) : List LogEntry :=
  if (identifierOfWords? (words (servicePart s))).isSome then
    (examined (bodyParts s)).flatMap entriesIn
  else []

/-! ### Errors -/

/-- What is logged of the error of a header: its wording, and for a malformed segment how many
results were kept. -/
def Header.errorEntries (h : Header) : List LogEntry :=
  match h.error with
  | some (.unsupportedVersion version) =>
    [⟨.debug, "rejecting Authentication-Results header",
      [("err", .text ("unsupported version: " ++ version))]⟩]
  | some (.malformedMethod word) =>
    [⟨.debug, "stopping at malformed result",
      [("err", .text ("malformed authentication method and value: " ++ word)),
        ("kept", .count h.results.length)]⟩]
  | some (.missingInstance first) =>
    [⟨.debug, "rejecting ARC-Authentication-Results header",
      [("err", .text ("missing ARC instance tag: " ++ first))]⟩]
  | some (.malformedParameter _) | none => []

/-! ### Bodies -/

/-- The events of a body are those of the parts that are examined, one part after the other, and
at the end that of a malformed one. -/
theorem Body.events_ofParts (ps : List String) :
    (ofParts ps).events = (examined ps).flatMap eventsIn ++
      ((ofParts ps).error?.map (.stopped · (ofParts ps).results.length)).toList := by
  have noticed : ((ofParts ps).readable.flatMap Segment.events).filter
      (partMessages.contains ·.message) = (ofParts ps).readable.flatMap Segment.events := by
    refine List.filter_eq_self.2 fun e mem => ?_
    obtain ⟨segment, -, mem⟩ := List.mem_flatMap.1 mem
    simpa using Segment.message_of_mem_events mem
  have stop : ((ofParts ps).error?.map (Event.stopped · (ofParts ps).results.length)).toList.filter
      (partMessages.contains ·.message) = [] := by
    cases (ofParts ps).error? <;> rfl
  -- The accounts leave out the event of the error, which is no event of a part.
  have order := (accounted_ofParts ps).order
  rw [events, List.filter_append, noticed, stop, List.append_nil] at order
  rw [events, order]

/-- What is logged of a body, where the header has the error of the body. -/
theorem Body.map_entry_ofParts {h : Header} {ps : List String}
    (error : h.error = (ofParts ps).error?) (results : h.results = (ofParts ps).results) :
    (ofParts ps).events.map Event.entry = (examined ps).flatMap entriesIn ++ h.errorEntries := by
  have parts : ((examined ps).flatMap eventsIn).map Event.entry =
      (examined ps).flatMap entriesIn := by
    rw [List.map_flatMap]
    exact List.flatMap_congr fun part _ => map_entry_eventsIn part
  have stop : ((ofParts ps).error?.map (Event.stopped · (ofParts ps).results.length)).toList.map
      Event.entry = h.errorEntries := by
    rw [Header.errorEntries, error, results]
    cases malformed : (ofParts ps).error? with
    | none => rfl
    | some e =>
      obtain ⟨word, -, rfl⟩ := exists_of_error?_eq_some malformed
      rfl
  rw [events_ofParts, List.map_append, parts, stop]

/-! ### Headers -/

namespace Reading

/-- A header that is refused for its version has no other entry, and the parts of any other one are
examined. -/
theorem map_entry_ofOpening (s : String) :
    (ofOpening (.ofText s)).events.map Event.entry =
      partEntries s ++ (ofOpening (.ofText s)).header.errorEntries := by
  cases version : (Opening.ofText s).unsupportedVersion? with
  | some v =>
    have unnamed : identifierOfWords? (words (servicePart s)) = none := by
      rw [Opening.identifierOfWords?_servicePart, version, if_neg (Option.some_ne_none v)]
    rw [events_ofOpening_of_eq_some version, header_ofOpening_of_eq_some version, partEntries,
      unnamed]
    rfl
  | none =>
    have named : (identifierOfWords? (words (servicePart s))).isSome := by
      rw [Opening.identifierOfWords?_servicePart, version, if_pos rfl]
      rfl
    have events : (ofOpening (.ofText s)).events = (Body.ofParts (bodyParts s)).events := by
      simp only [ofOpening, version, Opening.body_ofText]
    have header := header_ofOpening_of_eq_none version
    rw [Opening.body_ofText] at header
    rw [events, partEntries, if_pos named]
    exact Body.map_entry_ofParts (by rw [header]) (by rw [header])

theorem map_entry_tagEvents (s : String) :
    (if hasRefusedTag s then [Event.refusedTag (firstPart s)] else []).map Event.entry =
      tagEntries s := by
  rw [tagEntries, firstPart_eq]
  by_cases refused : RefusedTag s
  · rw [if_pos refused, if_pos (hasRefusedTag_iff.2 refused)]
    rfl
  · rw [if_neg refused, if_neg (mt hasRefusedTag_iff.1 refused)]
    rfl

/-- The entries of a reading are those of the first part, of the parts that are examined and of the
error. Where there has to be an instance tag and is none, one more entry says so. -/
theorem entries_ofText (s : String) :
    (ofText s).events.map Event.entry =
        tagEntries s ++ partEntries s ++ (ofText s).header.errorEntries ∧
      (ofArcText s).events.map Event.entry = (ofText s).events.map Event.entry ++
        if (ofText s).header.arcInstance = none then (ofArcText s).header.errorEntries else [] := by
  refine ⟨?any, ?arc⟩
  case any =>
    rw [events_ofText, header_ofText, List.map_append, map_entry_tagEvents, map_entry_ofOpening,
      List.append_assoc]
  case arc =>
    cases tag : (ofText s).header.arcInstance with
    | none =>
      have missing : ¬ (ofText s).header.arcInstance.isSome := by simp [tag]
      have last : [Event.rejectedArc (.missingInstance (firstPart s))].map Event.entry =
          (ofArcText s).header.errorEntries := by
        simp only [ofArcText, if_neg missing]
        rfl
      rw [if_pos rfl, ← last, ← List.map_append]
      simp only [ofArcText, if_neg missing]
    | some n =>
      have given : (ofText s).header.arcInstance.isSome := by simp [tag]
      rw [ofArcText, if_pos given, if_neg (Option.some_ne_none n), List.append_nil]

example :
    (ofText "i=99; Sender-ID=pass header.a=1 x Header.B=2; none ; dkim").events.map Event.entry =
      [⟨.trace, "not an ARC instance tag", [("preamble", .text "i=99")]⟩,
        ⟨.trace, "dropping malformed parameter",
          [("err", .text "malformed parameter: x"), ("method", .text "sender-id")]⟩,
        ⟨.trace, "ignoring extra header property",
          [("key", .text "header.b"), ("first", .text "header.a")]⟩,
        ⟨.trace, "skipping empty result segment", [("segment", .text "none")]⟩,
        ⟨.debug, "stopping at malformed result",
          [("err", .text "malformed authentication method and value: dkim"),
            ("kept", .count 1)]⟩] := by
  decide +kernel

end Reading

end MailAuth
