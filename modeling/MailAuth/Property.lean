import MailAuth.Error
import MailAuth.Text.Blank
import MailAuth.Text.Lowercase
import MailAuth.Text.Split

/-!
# Properties

A property is a key with a value, such as `header.d=example.org`. Keys do not distinguish case; they
are kept in lower case.
-/

namespace MailAuth

/-- A key and its value. -/
structure Property where
  key : String
  value : String
  deriving DecidableEq

namespace Property

/-- Reads a property. The first equals sign ends the key. -/
def read (token : String) : Except ReadError Property :=
  match Text.splitFirst '=' token with
  | none => .error (.malformedParameter token)
  | some (key, value) => .ok ⟨Text.lowercase (Text.trim key), Text.trim value⟩

/-- The property that a token spells, if it spells one. -/
def read? (token : String) : Option Property := (read token).toOption

/-- For a key `header.name`, the name. -/
def headerName? (key : String) : Option String := Text.after? "header." key

/-- The property is about a header field. -/
def namesHeader (p : Property) : Bool := (headerName? p.key).isSome

theorem read_eq_error_iff {token : String} {e : ReadError} :
    read token = .error e ↔ '=' ∉ token.toList ∧ e = .malformedParameter token := by
  unfold read
  split
  · rename_i h
    simp [Text.splitFirst_eq_none_iff.1 h, eq_comm]
  · rename_i h
    simp [(Text.splitFirst_eq_some_iff.1 h).1]

theorem read?_eq_some_iff {token : String} {p : Property} :
    read? token = some p ↔ read token = .ok p := by
  unfold read?
  cases read token <;> simp [Except.toOption]

end Property

end MailAuth
