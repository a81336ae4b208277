import MailAuth.Proofs.ErrorEvents
import MailAuth.Proofs.ReadError
import MailAuth.Proofs.Service
import MailAuth.Proofs.TokenEvents

/-!
# Parts and tokens accounted for

No part of a body and no token in it is lost without notice. The parts that are examined are those
that are not blank, up to the first malformed one (`examined`). Each of them gives a result, or is
skipped with an event, or is the malformed one; each token in it counts for its result, or is
dropped, or is ignored, with one event for it. There are no other events of these kinds, and they
stand in the order of the parts. `Accounted` says all of this of some parts.

Accounts of two runs of parts add up (`Accounted.append`), and one more part is accounted for
whatever it holds (`Progress.Accounts.next`): nothing is examined after an error, and a blank part
never is.
-/

namespace MailAuth

open Text

/-! ### The parts that are examined -/

/-- The parts behind the identifier. -/
def bodyParts (s : String) : List String := (parts ';' s).drop (serviceIndex s + 1)

/-- Reading ends at a part whose first word is not the placeholder and has no equals sign. -/
def endsReading (part : String) : Bool :=
  (words part).head?.any fun first => first != "none" && '=' ∉ first.toList

/-- The parts that are not blank, up to and with the first at which reading ends. -/
def examined (ps : List String) : List String :=
  let filled := ps.filter (trim · != "")
  filled.take (filled.findIdx endsReading + 1)

variable {ps : List String} {part : String}

/-- A blank part has no words, and no segment either. -/
theorem Segment.ofPart?_eq_none_iff : ofPart? part = none ↔ trim part = "" := by
  rw [← words_eq_nil_iff]
  rcases ofPart?_cases part with ⟨hwords, holds⟩ | ⟨tokens, hwords, holds⟩ |
    ⟨first, tokens, hwords, -, -, holds⟩ | ⟨first, tokens, p, hwords, -, -, holds⟩
  all_goals simp [hwords, holds]

/-- Reading ends at the parts that hold a malformed segment. -/
theorem endsReading_eq (part : String) :
    endsReading part = (Segment.ofPart? part).any (·.malformed?.isSome) := by
  rcases Segment.ofPart?_cases part with ⟨hwords, holds⟩ | ⟨tokens, hwords, holds⟩ |
    ⟨first, tokens, hwords, named, bare, holds⟩ | ⟨first, tokens, p, hwords, -, spelled, holds⟩
  · simp [endsReading, hwords, holds]
  · simp [endsReading, hwords, holds, Segment.malformed?]
  · simp [endsReading, hwords, holds, named, bare, Segment.malformed?]
  · have assigned : '=' ∈ first.toList := Property.mem_of_read_eq_ok spelled
    simp [endsReading, hwords, holds, assigned, Segment.malformed?]

theorem endsReading_of_blank (blank : trim part = "") : endsReading part = false := by
  rw [endsReading_eq, Segment.ofPart?_eq_none_iff.2 blank]
  rfl

theorem any_endsReading_filter (ps : List String) :
    (ps.filter (trim · != "")).any endsReading = ps.any endsReading := by
  have each : (fun part => trim part != "" && endsReading part) = endsReading := by
    funext part
    by_cases blank : trim part = ""
    · simp [blank, endsReading_of_blank blank]
    · simp [blank]
  rw [List.any_filter, each]

/-- A blank part is not examined. -/
theorem examined_append_of_blank (blank : trim part = "") :
    examined (ps ++ [part]) = examined ps := by
  have filled : (ps ++ [part]).filter (trim · != "") = ps.filter (trim · != "") := by
    rw [List.filter_append, List.filter_cons_of_neg (by simp [blank]), List.filter_nil,
      List.append_nil]
  rw [examined, examined, filled]

/-- Where reading ends, nothing more is examined. -/
theorem examined_append_of_ended (ended : ps.any endsReading) (part : String) :
    examined (ps ++ [part]) = examined ps := by
  rw [← any_endsReading_filter, List.any_eq_true] at ended
  have within := List.findIdx_lt_length_of_exists ended
  simp only [examined]
  rw [List.filter_append, List.findIdx_append, if_pos within,
    List.take_append_of_le_length (Nat.succ_le_of_lt within)]

theorem findIdx_endsReading (onward : ps.any endsReading = false) :
    (ps.filter (trim · != "")).findIdx endsReading = (ps.filter (trim · != "")).length := by
  rw [← any_endsReading_filter, List.any_eq_false] at onward
  exact List.findIdx_eq_length_of_false fun part mem => Bool.eq_false_iff.2 (onward part mem)

/-- Where reading goes on, one more part is examined unless it is blank. -/
theorem examined_append_of_filled (onward : ps.any endsReading = false) (filled : trim part ≠ "") :
    examined (ps ++ [part]) = examined ps ++ [part] := by
  have before : examined ps = ps.filter (trim · != "") := by
    rw [examined, findIdx_endsReading onward]
    exact List.take_of_length_le (Nat.le_succ _)
  have after : (ps ++ [part]).filter (trim · != "") = ps.filter (trim · != "") ++ [part] := by
    rw [List.filter_append, List.filter_cons_of_pos (by simp [filled]), List.filter_nil]
  have index : (ps.filter (trim · != "") ++ [part]).findIdx endsReading =
      [part].findIdx endsReading + (ps.filter (trim · != "")).length := by
    rw [List.findIdx_append, if_neg (Nat.not_lt.2 (findIdx_endsReading onward).ge)]
  rw [before]
  simp only [examined]
  rw [after, index]
  refine List.take_of_length_le ?_
  rw [List.length_append, List.length_singleton]
  omega

/-! ### Accounts -/

/-- The messages of events about a part that is skipped or a token of a part. -/
def partMessages : List String :=
  ["skipping empty result segment", "dropping malformed parameter",
    "ignoring extra header property"]

/-- What is noticed in a segment is about its part or a token of the part. -/
theorem Segment.message_of_mem_events {segment : Segment} {e : Event} (mem : e ∈ segment.events) :
    e.message ∈ partMessages := by
  cases segment with
  | placeholder text =>
    obtain rfl := List.mem_singleton.1 mem
    simp [Event.message, partMessages]
  | malformed word => cases mem
  | statement s =>
    rcases Statement.message_of_mem_events mem with drops | ignores
    · simp [drops, partMessages]
    · simp [ignores, partMessages]

/-- The parts are accounted for: by the results and the events, and by `faults` malformed ones. -/
structure Accounted (ps : List String) (results : List Result) (events : List Event)
    (faults : Nat) : Prop where
  /-- A part gives a result, or is skipped, or is malformed. -/
  parts : ps.length = results.length +
    (events.filter (·.message == "skipping empty result segment")).length + faults
  /-- The parts that state a result give it, from the properties that count. -/
  results : results = ps.filterMap resultIn?
  /-- Every token of such a part counts, or is dropped, or is ignored. -/
  tokens : ∀ s ∈ ps.filterMap statementIn?,
    s.tokens.length = s.counted.length + s.dropped.length + s.ignored.length
  dropped : events.filter (·.message == "dropping malformed parameter") = ps.flatMap droppedIn
  ignored : events.filter (·.message == "ignoring extra header property") = ps.flatMap ignoredIn
  /-- The events of all three kinds are those of these parts, one part after the other. -/
  order : events.filter (partMessages.contains ·.message) = ps.flatMap eventsIn

namespace Accounted

variable {qs : List String} {rs ts : List Result} {es us : List Event} {m n : Nat}

/-- Accounts add up. -/
theorem append (h : Accounted ps rs es m) (k : Accounted qs ts us n) :
    Accounted (ps ++ qs) (rs ++ ts) (es ++ us) (m + n) where
  parts := by
    have left := h.parts
    have right := k.parts
    rw [List.filter_append, List.length_append, List.length_append, List.length_append]
    omega
  results := by rw [List.filterMap_append, ← h.results, ← k.results]
  tokens := fun s _ => s.length_tokens
  dropped := by rw [List.filter_append, List.flatMap_append, h.dropped, k.dropped]
  ignored := by rw [List.filter_append, List.flatMap_append, h.ignored, k.ignored]
  order := by rw [List.filter_append, List.flatMap_append, h.order, k.order]

/-- Events of another kind account for nothing. -/
theorem of_others (others : ∀ e ∈ es, e.message ∉ partMessages) : Accounted [] [] es 0 := by
  have unsaid {message : String} (mem : message ∈ partMessages) :
      es.filter (·.message == message) = [] :=
    List.filter_eq_nil_iff.2 fun e he same => others e he (beq_iff_eq.1 same ▸ mem)
  refine ⟨?_, rfl, nofun, unsaid (by decide), unsaid (by decide), ?_⟩
  · rw [unsaid (by decide)]
    rfl
  · exact List.filter_eq_nil_iff.2 fun e he => by simpa using others e he

/-- A part that holds the placeholder. -/
theorem of_placeholder {text : String} (holds : Segment.ofPart? part = some (.placeholder text)) :
    Accounted [part] [] [.skippedSegment text] 0 := by
  have unstated : statementIn? part = none := statementIn?_of_ofPart? holds
  constructor <;>
    simp [resultIn?, droppedIn, ignoredIn, eventsIn, holds, unstated, Event.message, partMessages,
      Segment.events]

/-- A part at which reading ends. -/
theorem of_malformed {word : String} (holds : Segment.ofPart? part = some (.malformed word))
    (kept : Nat) : Accounted [part] [] [.stopped (.malformedMethod word) kept] 1 := by
  have unstated : statementIn? part = none := statementIn?_of_ofPart? holds
  constructor <;>
    simp [resultIn?, droppedIn, ignoredIn, eventsIn, holds, unstated, Event.message, partMessages,
      Segment.events]

/-- A part that states a result. -/
theorem of_statement {s : Statement} (holds : Segment.ofPart? part = some (.statement s)) :
    Accounted [part] [s.result] (s.tokens.filterMap s.event?) 0 := by
  have stated : statementIn? part = some s := statementIn?_of_ofPart? holds
  have worded := Segment.worded_of_ofPart? holds
  refine ⟨?parts, ?results, fun s _ => s.length_tokens, ?dropped, ?ignored, ?order⟩
  case parts =>
    have unskipped : (s.tokens.filterMap s.event?).filter
        (·.message == "skipping empty result segment") = [] := by
      refine List.filter_eq_nil_iff.2 fun e he => ?_
      rcases Statement.message_of_mem_events he with drops | ignores
      · simp [drops]
      · simp [ignores]
    rw [unskipped]
    rfl
  case results => simp [resultIn?, stated, Statement.result, worded.keptProperties]
  case dropped => simp [s.filter_events_dropping, droppedIn, stated]
  case ignored => simp [worded.filter_events_ignoring, ignoredIn, stated]
  case order =>
    have all : ∀ e ∈ s.tokens.filterMap s.event?, partMessages.contains e.message := by
      intro e mem
      have noticed : e ∈ (Segment.statement s).events := mem
      simpa using Segment.message_of_mem_events noticed
    rw [List.filter_eq_self.2 all]
    simp [eventsIn, holds, Segment.events]

end Accounted

/-! ### Bodies -/

/-- The error of a malformed segment. -/
def ReadError.isMalformedMethod : ReadError → Bool
  | .malformedMethod _ => true
  | _ => false

namespace Progress

/-- What is known after the parts accounts for those that are examined. -/
structure Accounts (ps : List String) (p : Progress) : Prop where
  ended : p.error?.isSome = ps.any endsReading
  accounted : Accounted (examined ps) p.results p.events
    (p.error?.any ReadError.isMalformedMethod).toNat

variable {p : Progress}

/-- A segment is accounted for where there was no error before it. -/
theorem Accounts.add (h : p.Accounts ps) (ready : p.error? = none) {segment : Segment}
    (holds : Segment.ofPart? part = some segment) : (p.add segment).Accounts (ps ++ [part]) := by
  have onward : ps.any endsReading = false := by rw [← h.ended, ready]; rfl
  have filled : trim part ≠ "" := by
    intro blank
    rw [Segment.ofPart?_eq_none_iff.2 blank] at holds
    cases holds
  have before : Accounted (examined ps) p.results p.events 0 := by
    have accounted := h.accounted
    rwa [ready] at accounted
  have ends : (ps ++ [part]).any endsReading = segment.malformed?.isSome := by
    rw [List.any_append, onward, List.any_cons, endsReading_eq, holds]
    simp
  refine ⟨?_, ?_⟩
  · rw [ends]
    cases segment <;> simp [Progress.add, ready, Segment.malformed?]
  · rw [examined_append_of_filled onward filled]
    cases segment with
    | placeholder text =>
      have after := before.append (.of_placeholder holds)
      rw [List.append_nil] at after
      rw [Progress.add, ready]
      exact after
    | malformed word =>
      have after := before.append (.of_malformed holds p.results.length)
      rw [List.append_nil] at after
      exact after
    | statement s =>
      have after := before.append (.of_statement holds)
      rw [add_statement, ready]
      exact after

/-- One more part is accounted for. -/
theorem Accounts.next (h : p.Accounts ps) (part : String) :
    (p.next part).Accounts (ps ++ [part]) := by
  rcases p.next_cases part with ⟨failed, same⟩ | ⟨-, holds, same⟩ | ⟨segment, ready, holds, added⟩
  -- After an error and at a blank part, neither what is known nor what is examined grows.
  · have ended : ps.any endsReading := h.ended ▸ failed
    rw [same]
    refine ⟨?_, ?_⟩
    · rw [failed, List.any_append, ended, Bool.true_or]
    · rw [examined_append_of_ended ended]
      exact h.accounted
  · have blank := Segment.ofPart?_eq_none_iff.1 holds
    rw [same]
    refine ⟨?_, ?_⟩
    · rw [h.ended, List.any_append, List.any_cons, endsReading_of_blank blank]
      simp
    · rw [examined_append_of_blank blank]
      exact h.accounted
  · rw [added]
    exact h.add ready holds

theorem accounts_run (ps : List String) : (run ps).Accounts ps :=
  holds_run (motive := fun ps p => p.Accounts ps) ⟨rfl, .of_others nofun⟩
    (fun _ _ part accounts => accounts.next part) ps

end Progress

/-- The results, the events and the error of a body account for the parts that are examined. -/
theorem Body.accounted_ofParts (ps : List String) :
    Accounted (examined ps) (ofParts ps).results (ofParts ps).events
      ((ofParts ps).error?.any ReadError.isMalformedMethod).toNat := by
  have accounts := Progress.accounts_run ps
  rw [Progress.run_eq] at accounts
  exact accounts.accounted

/-! ### Headers -/

/-- The body of an opening is made of the parts behind the identifier. -/
theorem Opening.body_ofText (s : String) : (ofText s).body = bodyParts s := by
  rcases ofText_cases s with ⟨first, rest, hs, index, o⟩ | ⟨n, first, second, rest, hs, index, -, o⟩
  · rw [o, bodyParts, hs, index]
    rfl
  · rw [o, bodyParts, hs, index]
    rfl

namespace Reading

theorem events_ofOpening_of_eq_some {o : Opening} {version : String}
    (h : o.unsupportedVersion? = some version) :
    (ofOpening o).events = [.rejected (.unsupportedVersion version)] := by
  simp only [ofOpening, h]

theorem accounted_ofOpening {o : Opening} (supported : o.unsupportedVersion? = none) :
    Accounted (examined o.body) (ofOpening o).header.results (ofOpening o).events
      ((ofOpening o).header.error.any ReadError.isMalformedMethod).toNat := by
  simp only [ofOpening, supported]
  exact Body.accounted_ofParts o.body

/-- A refused tag is no part of the body. -/
theorem message_tagEvents (s : String) :
    ∀ e ∈ (if hasRefusedTag s then [Event.refusedTag (firstPart s)] else []),
      e.message ∉ partMessages := by
  intro e mem
  split at mem
  · obtain rfl := List.mem_singleton.1 mem
    simp [Event.message, partMessages]
  · cases mem

/-- Unless the version is refused, every part that is examined and every token in it is accounted
for. If the version is refused, nothing is noticed of any part. -/
theorem accounted_ofText (s : String) :
    ((∀ version, (ofText s).header.error ≠ some (.unsupportedVersion version)) →
      Accounted (examined (bodyParts s)) (ofText s).header.results (ofText s).events
        ((ofText s).header.error.any ReadError.isMalformedMethod).toNat) ∧
      ∀ version, (ofText s).header.error = some (.unsupportedVersion version) →
        ∀ e ∈ (ofText s).events, e.message ∉ partMessages := by
  rw [header_ofText, events_ofText]
  constructor
  · intro accepted
    have supported : (Opening.ofText s).unsupportedVersion? = none := by
      rw [Option.eq_none_iff_forall_ne_some]
      intro version refused
      rw [header_ofOpening_of_eq_some refused] at accepted
      exact accepted version rfl
    have accounted := accounted_ofOpening supported
    rw [Opening.body_ofText] at accounted
    have whole := (Accounted.of_others (message_tagEvents s)).append accounted
    rwa [List.nil_append, List.nil_append, Nat.zero_add] at whole
  -- The version is the only reason for this error, and then the body is not read at all.
  · intro version refused e mem
    rw [← Header.read_eq] at refused
    rcases Header.error_read_cases refused with ⟨v, -, unsupported⟩ | ⟨word, wrong, -⟩
    · rw [events_ofOpening_of_eq_some unsupported] at mem
      rcases List.mem_append.1 mem with tag | rejected
      · exact message_tagEvents s e tag
      · obtain rfl := List.mem_singleton.1 rejected
        simp [Event.message, partMessages]
    · cases wrong

/-- A token of each kind, a part that is skipped and a blank one, before a malformed part; then a
version that is refused. -/
theorem accounted_ofText_malformed :
    (∃ r, ofText "mx; Sender-ID=pass header.a=1 x Header.B=2; none; ; dkim; spf" = r ∧
      Accounted [" Sender-ID=pass header.a=1 x Header.B=2", " none", " dkim"]
        r.header.results r.events 1 ∧
      r.header.results.length = 1 ∧
      r.events.filter (·.message == "dropping malformed parameter") =
        [.droppedToken (.malformedParameter "x") "sender-id"] ∧
      r.events.filter (·.message == "ignoring extra header property") =
        [.ignoredProperty "header.b" "header.a"]) ∧
      ∀ e ∈ (ofText "mx 2; spf=fail y; none").events, e.message ∉ partMessages := by
  have error :
      (ofText "mx; Sender-ID=pass header.a=1 x Header.B=2; none; ; dkim; spf").header.error =
        some (.malformedMethod "dkim") := by decide
  have parts :
      examined (bodyParts "mx; Sender-ID=pass header.a=1 x Header.B=2; none; ; dkim; spf") =
        [" Sender-ID=pass header.a=1 x Header.B=2", " none", " dkim"] := by decide
  obtain ⟨accounts, -⟩ :=
    accounted_ofText "mx; Sender-ID=pass header.a=1 x Header.B=2; none; ; dkim; spf"
  rw [error, parts] at accounts
  have accounted := accounts (by simp)
  refine ⟨⟨_, rfl, accounted, ?_, ?_, ?_⟩, ?_⟩
  · rw [accounted.results]
    decide
  · rw [accounted.dropped]
    decide
  · rw [accounted.ignored]
    decide
  · obtain ⟨-, refused⟩ := accounted_ofText "mx 2; spf=fail y; none"
    exact refused "2" (by decide)

end Reading
end MailAuth
