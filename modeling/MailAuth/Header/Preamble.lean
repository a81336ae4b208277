import MailAuth.Header.Basic
import MailAuth.Header.Opening

/-!
# Writing a header

A header is written from a preamble and the results. The preamble is the instance tag, the
identifier and the version, the first and the last only if they are asked for.
-/

namespace MailAuth

/-- What is written before the results. -/
structure Preamble where
  identifier : String
  arcInstance : Option Nat := none
  /-- The version is written. -/
  version : Bool := false
  deriving DecidableEq

namespace Preamble

/-- The instance tag and the separator after it. -/
def tag (p : Preamble) : String :=
  match p.arcInstance with
  | some n => "i=" ++ n.repr ++ "; "
  | none => ""

/-- The preamble as it stands in a header. -/
def text (p : Preamble) : String :=
  p.tag ++ p.identifier ++ (if p.version then " " ++ supportedVersion else "")

/-- The header with the given results. -/
def write (p : Preamble) (results : List Result) : String := p.text ++ Result.writeAll results

end Preamble

/-- The preamble of a header, with the version or without. -/
def Header.preamble (h : Header) (version : Bool) : Preamble :=
  ⟨h.identifier, h.arcInstance, version⟩

end MailAuth
