import MailAuth.Error

/-!
# Events

What is noticed while a header is read: the parts passed over, and why reading ends early. An event
has a level, a message and named fields.
-/

namespace MailAuth

/-- How much an event matters. -/
inductive Level where
  /-- Something in the header is passed over. -/
  | trace
  /-- The header, or the rest of it, is refused. -/
  | debug
  deriving DecidableEq

/-- The word for a level. -/
def Level.name : Level → String
  | .trace => "trace"
  | .debug => "debug"

/-- Something noticed while a header is read. -/
inductive Event where
  /-- A segment holds the placeholder for no result. -/
  | skippedSegment (segment : String)
  /-- A result is about the header field `first`, and the property about another one. -/
  | ignoredProperty (key first : String)
  /-- A token of a result is not a property. -/
  | droppedToken (error : ReadError) (method : String)
  /-- The first part looks like an instance tag, but has no instance number. -/
  | refusedTag (first : String)
  /-- The version is not supported. -/
  | rejected (error : ReadError)
  /-- A segment is malformed; `kept` results were read before it. -/
  | stopped (error : ReadError) (kept : Nat)
  /-- The header has no instance tag and had to have one. -/
  | rejectedArc (error : ReadError)
  deriving DecidableEq

namespace Event

/-- What a field of an event holds. -/
inductive Field where
  | text (s : String)
  | count (n : Nat)
  deriving DecidableEq

/-- How much the event matters. -/
def level : Event → Level
  | .skippedSegment .. | .ignoredProperty .. | .droppedToken .. | .refusedTag .. => .trace
  | .rejected .. | .stopped .. | .rejectedArc .. => .debug

/-- The message of an event. -/
def message : Event → String
  | .skippedSegment .. => "skipping empty result segment"
  | .ignoredProperty .. => "ignoring extra header property"
  | .droppedToken .. => "dropping malformed parameter"
  | .refusedTag .. => "not an ARC instance tag"
  | .rejected .. => "rejecting Authentication-Results header"
  | .stopped .. => "stopping at malformed result"
  | .rejectedArc .. => "rejecting ARC-Authentication-Results header"

/-- The fields of an event by name. -/
def fields : Event → List (String × Field)
  | .skippedSegment segment => [("segment", .text segment)]
  | .ignoredProperty key first => [("key", .text key), ("first", .text first)]
  | .droppedToken error method => [("err", .text error.message), ("method", .text method)]
  | .refusedTag first => [("preamble", .text first)]
  | .rejected error => [("err", .text error.message)]
  | .stopped error kept => [("err", .text error.message), ("kept", .count kept)]
  | .rejectedArc error => [("err", .text error.message)]

end Event

end MailAuth
