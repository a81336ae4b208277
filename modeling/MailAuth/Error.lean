/-!
# Reading errors

What can be wrong with a header value. Each error keeps the text at fault.
-/

namespace MailAuth

/-- Why a header, or a single property, is refused. -/
inductive ReadError where
  /-- The text after the identifier is not the supported version. -/
  | unsupportedVersion (version : String)
  /-- The first word of a segment has no equals sign. -/
  | malformedMethod (word : String)
  /-- A property has no equals sign. -/
  | malformedParameter (token : String)
  /-- The header does not begin with an instance tag. -/
  | missingInstance (first : String)
  deriving DecidableEq

/-- The wording of an error. -/
def ReadError.message : ReadError → String
  | .unsupportedVersion version => "unsupported version: " ++ version
  | .malformedMethod word => "malformed authentication method and value: " ++ word
  | .malformedParameter token => "malformed parameter: " ++ token
  | .missingInstance first => "missing ARC instance tag: " ++ first

end MailAuth
