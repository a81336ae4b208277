import MailAuth.Body
import MailAuth.Header.Basic
import MailAuth.Header.Opening

/-!
# Reading a header

Reading never fails outright. It gives a header, in which an error may be recorded, and the events
noticed on the way. `Reading.ofText` reads any header; `Reading.ofArcText` reads one that has to
have an instance tag.

An unsupported version leaves nothing of the header but its instance number. A malformed segment
leaves what was read before it.
-/

namespace MailAuth

/-- The outcome of reading a header. -/
structure Reading where
  header : Header
  events : List Event
  deriving DecidableEq

namespace Reading

/-- The outcome for a header with the given opening. -/
def ofOpening (o : Opening) : Reading :=
  match o.unsupportedVersion? with
  | some version =>
    let error := ReadError.unsupportedVersion version
    { header := { arcInstance := o.arcInstance, error := some error }
      events := [.rejected error] }
  | none =>
    let body := Body.ofParts o.body
    { header :=
        { identifier := o.identifier
          arcInstance := o.arcInstance
          results := body.results
          error := body.error? }
      events := body.events }

theorem header_ofOpening_of_eq_some {o : Opening} {version : String}
    (h : o.unsupportedVersion? = some version) :
    (ofOpening o).header =
      { arcInstance := o.arcInstance, error := some (.unsupportedVersion version) } := by
  simp only [ofOpening, h]

theorem header_ofOpening_of_eq_none {o : Opening} (h : o.unsupportedVersion? = none) :
    (ofOpening o).header =
      { identifier := o.identifier
        arcInstance := o.arcInstance
        results := (Body.ofParts o.body).results
        error := (Body.ofParts o.body).error? } := by
  simp only [ofOpening, h]

/-- Reads a header value that is not folded. -/
def ofText (value : String) : Reading :=
  let r := ofOpening (.ofText value)
  let tagEvents := if hasRefusedTag value then [.refusedTag (firstPart value)] else []
  { r with events := tagEvents ++ r.events }

/-- Reads a header value that has to begin with an instance tag. -/
def ofArcText (value : String) : Reading :=
  let r := ofText value
  if r.header.arcInstance.isSome then r
  else
    let error := ReadError.missingInstance (firstPart value)
    { header := { error := some error }
      events := r.events ++ [.rejectedArc error] }

end Reading

/-- The header that the value holds. -/
def Header.read (value : String) : Header := (Reading.ofText value).header

/-- The header that the value holds, which has to begin with an instance tag. -/
def Header.readArc (value : String) : Header := (Reading.ofArcText value).header

theorem Header.read_eq (value : String) :
    Header.read value = (Reading.ofOpening (.ofText value)).header := by
  simp only [Header.read, Reading.ofText]

/-- The instance number is that of the opening, also where the version is not supported. -/
theorem Header.arcInstance_read (value : String) :
    (Header.read value).arcInstance = (Opening.ofText value).arcInstance := by
  rw [Header.read_eq, Reading.ofOpening]
  split <;> rfl

/-- Where there is an instance tag, it makes no difference that there has to be one. -/
theorem Header.readArc_eq_read {value : String} (h : (Header.read value).arcInstance.isSome) :
    Header.readArc value = Header.read value := by
  simp only [Header.read] at h
  simp only [Header.readArc, Header.read, Reading.ofArcText, h, if_true]

end MailAuth
