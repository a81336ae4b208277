import MailAuth.Statement

/-!
# Reading token by token

The tokens of a statement are read from left to right. `Gathered` is what the tokens so far come to:
the properties that count, what was noticed, and, once a token mentions it, the key of the header
field that a statement of `sender-id` is about. One more token adds to it (`Gathered.next`).

A statement as a whole says which header field it is about, wherever a token mentions it first. A
token before that one says nothing of header fields, so what it adds does not depend on it
(`Gathered.Fits.next`), and token by token, reading comes to what the tokens say as a whole
(`Gathered.run_eq`).
-/

namespace MailAuth

/-! ### One token -/

namespace Statement

variable {s : Statement} {p : Property} {token : String} {rest : List String} {error : ReadError}

/-- The property that a token adds to those that count. -/
def kept? (s : Statement) (token : String) : Option Property :=
  (Property.read? token).filter fun p => (s.conflict? p).isNone

theorem event?_of_error (spelled : Property.read token = .error error) :
    s.event? token = some (.droppedToken error s.method) := by
  simp only [event?, spelled]

theorem event?_of_ok (spelled : Property.read token = .ok p) :
    s.event? token = (s.conflict? p).map (.ignoredProperty p.key) := by
  simp only [event?, spelled]

theorem kept?_of_error (spelled : Property.read token = .error error) : s.kept? token = none := by
  simp [kept?, Property.read?, spelled, Except.toOption]

theorem kept?_of_ok (spelled : Property.read token = .ok p) :
    s.kept? token = if (s.conflict? p).isNone then some p else none := by
  simp [kept?, Property.read?_eq_some_iff.2 spelled, Option.filter]

/-- A property that is about no header field, and one of a method other than `sender-id`, conflicts
with none. -/
theorem conflict?_eq_none (other : ¬ (s.method = Method.senderId.name ∧ p.namesHeader)) :
    s.conflict? p = none := by
  by_cases sender : s.method = Method.senderId.name
  · have about : p.namesHeader = false := by simpa [sender] using other
    simp [conflict?, about]
  · simp [conflict?, headerKey?, sender]

/-- A token that is no property mentions no header field. -/
theorem headerKey?_of_error (spelled : Property.read token = .error error) :
    { s with tokens := token :: rest }.headerKey? = { s with tokens := rest }.headerKey? := by
  have unspelled : Property.read? token = none := by rw [Property.read?, spelled]; rfl
  simp only [headerKey?, properties, List.filterMap_cons_none unspelled]

/-- The first property about a header field settles what the statement is about. -/
theorem headerKey?_of_ok (spelled : Property.read token = .ok p) :
    { s with tokens := token :: rest }.headerKey? =
      if s.method = Method.senderId.name ∧ p.namesHeader then some p.key
      else { s with tokens := rest }.headerKey? := by
  have spelled := Property.read?_eq_some_iff.2 spelled
  simp only [headerKey?, properties, List.filterMap_cons_some spelled]
  by_cases sender : s.method = Method.senderId.name <;> by_cases about : p.namesHeader <;>
    simp [sender, about]

end Statement

/-! ### All tokens -/

/-- What the tokens of a statement come to. -/
structure Gathered where
  header? : Option String := none
  properties : Properties := .empty
  events : List Event := []

namespace Gathered

/-- One more property counts. -/
def keep (g : Gathered) (p : Property) : Gathered :=
  { g with properties := g.properties.insert p }

/-- One more token of a statement of `method` is read. A token that is no property is dropped. For
`sender-id`, a property about another header field than an earlier one is ignored. -/
def next (method : String) (g : Gathered) (token : String) : Gathered :=
  match Property.read token with
  | .error error => { g with events := g.events ++ [.droppedToken error method] }
  | .ok p =>
    if method = Method.senderId.name ∧ p.namesHeader then
      match g.header? with
      | none => { g.keep p with header? := some p.key }
      | some first =>
        if p.key = first then g.keep p
        else { g with events := g.events ++ [.ignoredProperty p.key first] }
    else g.keep p

/-- The tokens of a statement are read one after the other. -/
def run (s : Statement) : Gathered := s.tokens.foldl (next s.method) {}

variable {s : Statement} {p : Property} {g : Gathered} {token : String} {rest : List String}

/-- What was mentioned so far, or else what the tokens `rest` mention, is what `s` is about. -/
def Fits (s : Statement) (rest : List String) (g : Gathered) : Prop :=
  g.header?.or { s with tokens := rest }.headerKey? = s.headerKey?

/-- What is known before a token fits the statement. After the token it still does, and the token
has added what the statement as a whole makes of it. -/
theorem Fits.next (fits : Fits s (token :: rest) g) :
    Fits s rest (g.next s.method token) ∧
      (g.next s.method token).properties = (s.kept? token).toList.foldl .insert g.properties ∧
      (g.next s.method token).events = g.events ++ (s.event? token).toList := by
  unfold Fits at fits ⊢
  unfold Gathered.next
  cases spelled : Property.read token with
  | error error =>
    rw [Statement.headerKey?_of_error spelled] at fits
    rw [Statement.kept?_of_error spelled, Statement.event?_of_error spelled]
    exact ⟨fits, rfl, rfl⟩
  | ok p =>
    rw [Statement.headerKey?_of_ok spelled] at fits
    rw [Statement.kept?_of_ok spelled, Statement.event?_of_ok spelled]
    dsimp only
    by_cases about : s.method = Method.senderId.name ∧ p.namesHeader
    · rw [if_pos about] at fits ⊢
      cases mentioned : g.header? with
      -- The first of its kind: the statement is about its header field.
      | none =>
        rw [mentioned, Option.none_or] at fits
        have free : s.conflict? p = none := by simp [Statement.conflict?, ← fits]
        rw [free]
        exact ⟨fits, rfl, (List.append_nil _).symm⟩
      | some first =>
        rw [mentioned, Option.some_or] at fits
        by_cases same : p.key = first
        · have free : s.conflict? p = none := by simp [Statement.conflict?, ← fits, same]
          rw [free]
          simp only [same, if_true]
          refine ⟨?_, rfl, (List.append_nil _).symm⟩
          rw [keep, mentioned]
          exact fits
        · have conflict : s.conflict? p = some first := by
            simp [Statement.conflict?, ← fits, about.2, same]
          rw [conflict]
          simp only [same, if_false]
          exact ⟨fits, rfl, rfl⟩
    · rw [if_neg about] at fits ⊢
      rw [Statement.conflict?_eq_none about]
      exact ⟨fits, rfl, (List.append_nil _).symm⟩

/-- Reading on from what is known of the first tokens. -/
theorem foldl_next (fits : Fits s rest g) :
    rest.foldl (next s.method) g =
      ⟨s.headerKey?, (rest.filterMap s.kept?).foldl .insert g.properties,
        g.events ++ rest.filterMap s.event?⟩ := by
  -- The statement is kept whole: what it is about may stand in a token yet to come.
  induction rest generalizing g with
  | nil =>
    have settled : g.header? = s.headerKey? := by
      have silent : { s with tokens := [] }.headerKey? = none := by
        simp [Statement.headerKey?, Statement.properties]
      rwa [Fits, silent, Option.or_none] at fits
    rw [List.foldl_nil, ← settled, List.filterMap_nil, List.filterMap_nil, List.append_nil]
    rfl
  | cons token rest ih =>
    obtain ⟨onward, properties, events⟩ := fits.next
    have front {β : Type} (f : String → Option β) :
        (f token).toList ++ rest.filterMap f = (token :: rest).filterMap f := by
      cases h : f token <;> simp [h]
    rw [List.foldl_cons, ih onward, properties, events, List.append_assoc, ← List.foldl_append,
      front, front]

/-- Token by token, reading comes to what the tokens say as a whole. -/
theorem run_eq (s : Statement) :
    run s = ⟨s.headerKey?, s.keptProperties, s.tokens.filterMap s.event?⟩ := by
  have kept : s.keptProperties = (s.tokens.filterMap s.kept?).foldl .insert .empty := by
    rw [Statement.keptProperties, Statement.properties, List.filter_filterMap]
    rfl
  rw [kept]
  exact foldl_next rfl

end Gathered
end MailAuth
