import MailAuth.Result

/-!
# Headers

What an Authentication-Results header says: the identifier of the service that checked the message,
the instance number where the header belongs to an ARC set, the results in order, and the error that
ended the reading. Results read before an error are kept beside it.
-/

namespace MailAuth

/-- A header as far as it could be read. -/
structure Header where
  identifier : String := ""
  arcInstance : Option Nat := none
  results : List Result := []
  error : Option ReadError := none
  deriving DecidableEq

namespace Header

/-- The header was read without an error. -/
def isOk (h : Header) : Bool := h.error.isNone

/-- The first result of the method with the given name, in whatever case its ASCII letters are. -/
def find? (h : Header) (method : String) : Option Result :=
  h.results.find? fun r => Text.sameName r.method method

/-- The header, unless there is an error. -/
def toExcept (h : Header) : Except ReadError Header :=
  match h.error with
  | none => .ok h
  | some error => .error error

end Header

end MailAuth
