import MailAuth.Evidence
import MailAuth.Text.Quoted
import MailAuth.Verdict

/-!
# Results

A result is the verdict of a method together with its evidence. Written, it is the method and the
verdict around an equals sign, then the properties in the order of their keys. Of a known method's
properties the empty ones are left out.
-/

namespace MailAuth

/-- What one method reports about a message. -/
structure Result where
  verdict : Verdict
  evidence : Evidence
  deriving DecidableEq

namespace Result

/-- The result of the method with the given name, from the properties of the result. -/
def ofProperties (method : String) (verdict : Verdict) (m : Properties) : Result :=
  ⟨verdict, .ofProperties method m⟩

/-- The name of the method. -/
def method (r : Result) : String := r.evidence.method

/-- The properties that are written: those of a known method only where they are not empty. -/
def writtenProperties (r : Result) : List Property :=
  r.evidence.properties.entries.filter fun p =>
    r.evidence.knownMethod?.isNone || p.value != ""

/-- A property as it stands in a header, with a blank before it. -/
def writeProperty (p : Property) : String := " " ++ p.key ++ "=" ++ Text.Quoted.encode p.value

/-- The result as it stands in a header. -/
def write (r : Result) : String :=
  r.method ++ "=" ++ r.verdict.text ++ String.join (r.writtenProperties.map writeProperty)

/-- Results as they stand in a header, each behind a separator. The word `none` takes the place of
no result. -/
def writeAll (results : List Result) : String :=
  if results.isEmpty then "; none" else String.join (results.map ("; " ++ ·.write))

end Result

end MailAuth
