import MailAuth.Event
import MailAuth.Result

/-!
# Statements

A statement is what a segment of a header says of one method: its verdict, and tokens that should be
properties. A token that is none is dropped. The method `sender-id` evaluates one header field, so
its properties about other header fields are ignored. Both are noticed in events, one for each such
token and in the order of the tokens.
-/

namespace MailAuth

/-- A segment that states the verdict of a method; tokens that should be properties follow. -/
structure Statement where
  method : String
  verdict : Verdict
  tokens : List String
  deriving DecidableEq

namespace Statement

/-- The properties among the tokens. -/
def properties (s : Statement) : List Property := s.tokens.filterMap Property.read?

/-- A statement of the method `sender-id` is about one header field, the first it mentions. This is
the key of the property that mentions it. -/
def headerKey? (s : Statement) : Option String :=
  if s.method = Method.senderId.name then (s.properties.find? Property.namesHeader).map (·.key)
  else none

/-- The key of the header field that the statement is about, if `p` is about another one. -/
def conflict? (s : Statement) (p : Property) : Option String :=
  s.headerKey?.filter fun key => p.namesHeader && p.key != key

/-- The properties that count: all but those about another header field. -/
def keptProperties (s : Statement) : Properties :=
  .ofList (s.properties.filter fun p => (s.conflict? p).isNone)

/-- The result that is stated. -/
def result (s : Statement) : Result := .ofProperties s.method s.verdict s.keptProperties

/-- What is noticed about a token. -/
def event? (s : Statement) (token : String) : Option Event :=
  match Property.read token with
  | .error error => some (.droppedToken error s.method)
  | .ok p => (s.conflict? p).map (.ignoredProperty p.key ·)

end Statement

end MailAuth
