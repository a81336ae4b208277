import MailAuth.Text.Blank
import MailAuth.Text.Number
import MailAuth.Text.Split

/-!
# The opening of a header

A header begins with the identifier of a service, perhaps followed by a version. In an ARC set an
instance tag `i=n` comes first, in a part of its own. The opening is what is read before the body.

An instance tag counts only if another part follows it; a header that is a tag and nothing else is
read as an identifier.
-/

namespace MailAuth

/-- The largest instance number of an ARC set. -/
def maxInstance : Nat := 50

/-- The one version of the header that is defined. -/
def supportedVersion : String := "1"

/-- The instance number in a tag `i=n`, if it is from 1 to `maxInstance`. -/
def instanceTag? (s : String) : Option Nat :=
  ((Text.after? "i=" s).bind Text.number?).filter fun n => 1 ≤ n && n ≤ maxInstance

/-- The first part of a header value. -/
def firstPart (value : String) : String := Text.trim ((Text.parts ';' value).headD "")

/-- The first part begins like an instance tag and is none. -/
def hasRefusedTag (value : String) : Bool :=
  (Text.after? "i=" (firstPart value)).isSome && (instanceTag? (firstPart value)).isNone

/-- What a header says before its body. -/
structure Opening where
  arcInstance : Option Nat
  /-- The identifier and what follows it in its part, without blanks at the ends. -/
  service : String
  /-- The parts of the body. -/
  body : List String
  deriving DecidableEq

namespace Opening

/-- The opening of a header with the given parts. -/
def ofParts : List String → Opening
  | [] => ⟨none, "", []⟩
  | [first] => ⟨none, Text.trim first, []⟩
  | first :: second :: rest =>
    match instanceTag? (Text.trim first) with
    | some n => ⟨some n, Text.trim second, rest⟩
    | none => ⟨none, Text.trim first, second :: rest⟩

/-- The opening of a header value. -/
def ofText (value : String) : Opening := ofParts (Text.parts ';' value)

/-- The identifier ends at the first blank. -/
def identifier (o : Opening) : String :=
  String.ofList (o.service.toList.takeWhile (!Text.isBlank ·))

/-- What follows the identifier, empty if nothing does. -/
def version (o : Opening) : String :=
  Text.trim (String.ofList (o.service.toList.dropWhile (!Text.isBlank ·)))

/-- The version, if there is one and it is not supported. -/
def unsupportedVersion? (o : Opening) : Option String :=
  if o.version = "" ∨ o.version = supportedVersion then none else some o.version

end Opening

end MailAuth
