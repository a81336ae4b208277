import MailAuth.Statement
import MailAuth.Text.Blank

/-!
# Segments

The body of a header is a sequence of parts. A part that is not blank holds a segment: the
placeholder for no result, or the statement of a method, or a malformed one.
-/

namespace MailAuth

/-- One part of the body of a header. -/
inductive Segment where
  /-- The placeholder for no result. -/
  | placeholder (text : String)
  | malformed (word : String)
  | statement (s : Statement)
  deriving DecidableEq

namespace Segment

/-- The segment that a part of the body holds, unless the part is blank. Its first word decides:
`none` is the placeholder, and a word with an equals sign is a method with its verdict. -/
def ofPart? (part : String) : Option Segment :=
  match Text.words part with
  | [] => none
  | first :: tokens =>
    if first = "none" then some (.placeholder (Text.trim part))
    else match Property.read first with
      | .error _ => some (.malformed first)
      | .ok p => some (.statement ⟨p.key, .ofText p.value, tokens⟩)

/-- What a part can hold, and when: its words decide. -/
theorem ofPart?_cases (part : String) :
    (Text.words part = [] ∧ ofPart? part = none) ∨
      (∃ tokens, Text.words part = "none" :: tokens ∧
        ofPart? part = some (.placeholder (Text.trim part))) ∨
      (∃ first tokens, Text.words part = first :: tokens ∧ first ≠ "none" ∧ '=' ∉ first.toList ∧
        ofPart? part = some (.malformed first)) ∨
      ∃ first tokens p, Text.words part = first :: tokens ∧ first ≠ "none" ∧
        Property.read first = .ok p ∧
        ofPart? part = some (.statement ⟨p.key, .ofText p.value, tokens⟩) := by
  cases hwords : Text.words part with
  | nil => exact .inl ⟨rfl, by simp only [ofPart?, hwords]⟩
  | cons first tokens =>
    right
    by_cases named : first = "none"
    · exact .inl ⟨tokens, by rw [named], by simp only [ofPart?, hwords, named, if_true]⟩
    right
    cases spelled : Property.read first with
    | error e =>
      refine .inl ⟨first, tokens, rfl, named, (Property.read_eq_error_iff.1 spelled).1, ?_⟩
      simp only [ofPart?, hwords, named, if_false, spelled]
    | ok p =>
      refine .inr ⟨first, tokens, p, rfl, named, spelled, ?_⟩
      simp only [ofPart?, hwords, named, if_false, spelled]

/-- The word at which a malformed segment fails. -/
def malformed? : Segment → Option String
  | .malformed word => some word
  | _ => none

/-- The result that a segment states. -/
def result? : Segment → Option Result
  | .statement s => some s.result
  | _ => none

/-- What is noticed in a segment. -/
def events : Segment → List Event
  | .placeholder text => [.skippedSegment text]
  | .malformed _ => []
  | .statement s => s.tokens.filterMap s.event?

end Segment

end MailAuth
