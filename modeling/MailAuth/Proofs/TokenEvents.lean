import MailAuth.Proofs.Gathered
import MailAuth.Proofs.StatedResult

/-!
# What is noticed of tokens

A token of a statement counts, or it is dropped because it has no equals sign, or it is ignored
because it is about another header field than the statement. `Statement.counted`,
`Statement.dropped` and `Statement.ignored` say which, one by one and in their order, and no token
is lost (`Statement.length_tokens`).

Those are told from the words of a part alone. In the statement that a part holds, the events are
just these (`Statement.filter_events_dropping`, `Statement.Worded.filter_events_ignoring`) and the
result has the properties that count (`Statement.Worded.keptProperties`).
-/

namespace MailAuth

open Text

namespace Property

/-- The property is about another header field than the one with `key`. -/
def aboutOther (p : Property) (key : String) : Bool := p.namesHeader && p.key != key

end Property

namespace Statement

/-- The properties that tokens spell. -/
def spelled (s : Statement) : List Property := s.tokens.filterMap Property.cut?

/-- For a statement of `sender-id`, the key of the first property about a header field. -/
def senderKey? (s : Statement) : Option String :=
  if s.method = Method.senderId.name then Property.firstHeaderKey? s.spelled else none

/-- What is noticed of tokens without an equals sign, one event for each. -/
def dropped (s : Statement) : List Event :=
  (s.tokens.filter ('=' ∉ ·.toList)).map fun token =>
    .droppedToken (.malformedParameter token) s.method

/-- What is noticed of properties about another header field, one event for each. -/
def ignored (s : Statement) : List Event :=
  match s.senderKey? with
  | none => []
  | some key => (s.spelled.filter (·.aboutOther key)).map (.ignoredProperty ·.key key)

/-- The properties that count. -/
def counted (s : Statement) : List Property :=
  s.spelled.filter fun p => s.senderKey?.all (!p.aboutOther ·)

variable {s : Statement} {token : String} {p : Property}

/-- The tokens are words of a part. -/
def Worded (s : Statement) : Prop := ∀ token ∈ s.tokens, Unbroken token

theorem Worded.properties (h : s.Worded) : s.properties = s.spelled :=
  List.filterMap_congr fun token mem => Property.read?_of_unbroken (h token mem)

theorem Worded.headerKey? (h : s.Worded) : s.headerKey? = s.senderKey? := by
  rw [headerKey?_eq, senderKey?, h.properties]

theorem Worded.conflict? (h : s.Worded) (p : Property) :
    s.conflict? p = s.senderKey?.filter p.aboutOther := by
  rw [Statement.conflict?, h.headerKey?]
  rfl

/-- A token has no equals sign and is noticed, or it spells a property, which is noticed if it is
about another header field. -/
theorem event?_cases (s : Statement) (token : String) :
    ('=' ∉ token.toList ∧ Property.read? token = none ∧
        s.event? token = some (.droppedToken (.malformedParameter token) s.method)) ∨
      ∃ p, '=' ∈ token.toList ∧ Property.read? token = some p ∧
        s.event? token = (s.conflict? p).map (.ignoredProperty p.key) := by
  cases spelled : Property.read token with
  | error e =>
    obtain ⟨bare, rfl⟩ := Property.read_eq_error_iff.1 spelled
    exact .inl ⟨bare, by rw [Property.read?, spelled]; rfl, event?_of_error spelled⟩
  | ok p =>
    exact .inr ⟨p, Property.mem_of_read_eq_ok spelled, Property.read?_eq_some_iff.2 spelled,
      event?_of_ok spelled⟩

/-- What is noticed in a statement is that a token is dropped or that a property is ignored. -/
theorem message_of_mem_events {s : Statement} {e : Event} (h : e ∈ s.tokens.filterMap s.event?) :
    e.message = "dropping malformed parameter" ∨ e.message = "ignoring extra header property" := by
  obtain ⟨token, -, noticed⟩ := List.mem_filterMap.1 h
  rcases s.event?_cases token with ⟨-, -, drops⟩ | ⟨p, -, -, ignores⟩
  · rw [drops] at noticed
    obtain rfl := Option.some.inj noticed
    exact .inl rfl
  · rw [ignores] at noticed
    obtain ⟨first, -, rfl⟩ := Option.map_eq_some_iff.1 noticed
    exact .inr rfl

/-- Exactly the tokens without an equals sign are dropped. -/
theorem filter_events_dropping (s : Statement) :
    (s.tokens.filterMap s.event?).filter (·.message == "dropping malformed parameter") =
      s.dropped := by
  rw [List.filter_filterMap, dropped, ← List.filterMap_eq_map, List.filterMap_filter]
  refine List.filterMap_congr fun token _ => ?_
  rcases s.event?_cases token with ⟨bare, -, noticed⟩ | ⟨p, assigned, -, noticed⟩
  · simp [noticed, bare, Event.message]
  · cases other : s.conflict? p <;> simp [noticed, assigned, other, Event.message]

/-- Exactly the properties about another header field are ignored. -/
theorem Worded.filter_events_ignoring (h : s.Worded) :
    (s.tokens.filterMap s.event?).filter (·.message == "ignoring extra header property") =
      s.ignored := by
  have ofProperties :
      (s.tokens.filterMap s.event?).filter (·.message == "ignoring extra header property") =
        s.spelled.filterMap fun p => (s.conflict? p).map (.ignoredProperty p.key) := by
    rw [← h.properties, Statement.properties, List.filter_filterMap, List.filterMap_filterMap]
    refine List.filterMap_congr fun token _ => ?_
    rcases s.event?_cases token with ⟨-, unspelled, noticed⟩ | ⟨p, -, spelled, noticed⟩
    · simp [noticed, unspelled, Event.message]
    · cases other : s.conflict? p <;> simp [noticed, spelled, other, Event.message]
  rw [ofProperties, ignored]
  simp only [h.conflict?]
  cases s.senderKey? with
  | none => simp
  | some key =>
    dsimp only
    rw [← List.filterMap_eq_map, List.filterMap_filter]
    refine List.filterMap_congr fun p _ => ?_
    by_cases other : p.aboutOther key <;> simp [other]

/-- The properties that count are those that are kept. -/
theorem Worded.keptProperties (h : s.Worded) : s.keptProperties = .ofList s.counted := by
  have each (p : Property) : (s.conflict? p).isNone = s.senderKey?.all (!p.aboutOther ·) := by
    rw [h.conflict?]
    cases s.senderKey? with
    | none => rfl
    | some key => by_cases other : p.aboutOther key <;> simp [other]
  simp only [Statement.keptProperties, counted, h.properties, each]

/-- Every token counts, or is dropped, or is ignored. -/
theorem length_tokens (s : Statement) :
    s.tokens.length = s.counted.length + s.dropped.length + s.ignored.length := by
  have assigned (token : String) : (Property.cut? token).isSome = !decide ('=' ∉ token.toList) := by
    unfold Property.cut?
    cases cut : splitFirst '=' token with
    | none => simp [splitFirst_eq_none_iff.1 cut]
    | some found => simp [(splitFirst_eq_some_iff.1 cut).1]
  have tokens : s.tokens.length = s.dropped.length + s.spelled.length := by
    rw [dropped, List.length_map, spelled, List.length_filterMap_eq_countP,
      List.countP_eq_length_filter]
    simp only [assigned]
    exact List.length_eq_length_filter_add _
  have spelled : s.spelled.length = s.ignored.length + s.counted.length := by
    rw [counted, ignored]
    cases s.senderKey? with
    | none => simp
    | some key =>
      rw [List.length_map]
      exact List.length_eq_length_filter_add _
  omega

end Statement

/-! ### Parts -/

/-- What a part states: the method in lower case and the verdict around the first equals sign of its
first word, and the other words. -/
def statementIn? (part : String) : Option Statement :=
  match words part with
  | [] => none
  | first :: tokens => (Property.cut? first).map fun p => ⟨p.key, .ofText p.value, tokens⟩

/-- What is noticed in a part for itself. -/
def eventsIn (part : String) : List Event := (Segment.ofPart? part).toList.flatMap Segment.events

/-- What is noticed of the tokens of a part that have no equals sign. -/
def droppedIn (part : String) : List Event := (statementIn? part).toList.flatMap Statement.dropped

/-- What is noticed of the tokens of a part that are about another header field. -/
def ignoredIn (part : String) : List Event := (statementIn? part).toList.flatMap Statement.ignored

/-- The result of what a part states, from the properties that count. -/
def resultIn? (part : String) : Option Result :=
  (statementIn? part).map fun s => .ofProperties s.method s.verdict (.ofList s.counted)

/-- What a segment states. -/
def Segment.statement? : Segment → Option Statement
  | .statement s => some s
  | _ => none

/-- What a part states is seen in its segment. -/
theorem statementIn?_eq (part : String) :
    statementIn? part = (Segment.ofPart? part).bind Segment.statement? := by
  rcases Segment.ofPart?_cases part with ⟨hwords, holds⟩ | ⟨tokens, hwords, holds⟩ |
    ⟨first, tokens, hwords, -, bare, holds⟩ | ⟨first, tokens, p, hwords, -, spelled, holds⟩
  · simp only [statementIn?, hwords, holds, Option.bind_none]
  · have uncut : Property.cut? "none" = none := by decide
    simp only [statementIn?, hwords, holds, uncut, Option.map_none, Option.bind_some,
      Segment.statement?]
  · have uncut : Property.cut? first = none := by
      rw [Property.cut?, splitFirst_eq_none_iff.2 bare, Option.map_none]
    simp only [statementIn?, hwords, holds, uncut, Option.map_none, Option.bind_some,
      Segment.statement?]
  · have word : first ∈ words part := by simp [hwords]
    have cut : Property.cut? first = some p := by
      rw [← Property.read?_of_unbroken (mem_words word).2.1]
      exact Property.read?_eq_some_iff.2 spelled
    simp only [statementIn?, hwords, holds, cut, Option.map_some, Option.bind_some,
      Segment.statement?]

theorem statementIn?_of_ofPart? {segment : Segment}
    (holds : Segment.ofPart? part = some segment) : statementIn? part = segment.statement? := by
  rw [statementIn?_eq, holds, Option.bind_some]

/-- The tokens of a statement are words of its part. -/
theorem Segment.worded_of_ofPart? {s : Statement} (holds : ofPart? part = some (.statement s)) :
    s.Worded := by
  have stated := statementIn?_of_ofPart? holds
  unfold statementIn? at stated
  cases hwords : words part with
  | nil => simp [hwords, statement?] at stated
  | cons first tokens =>
    simp only [hwords, statement?, Option.map_eq_some_iff] at stated
    obtain ⟨p, -, rfl⟩ := stated
    intro token mem
    have mem : token ∈ words part := hwords ▸ List.mem_cons_of_mem _ mem
    exact (mem_words mem).2.1

end MailAuth
