import MailAuth.Segment

/-!
# Bodies

Reading the body of a header ends at the first malformed segment: the results stated before it are
kept, and whatever follows it is not looked at. So an error absorbs what is appended to a body, and
to a body without an error the appended segments add what they would say alone (`error?_append`,
`results_append`, `results_append_of_error`).
-/

namespace MailAuth

/-- The segments of a header, in order. -/
structure Body where
  segments : List Segment
  deriving DecidableEq

namespace Body

/-- The segments that the parts hold; blank parts hold none. -/
def ofParts (parts : List String) : Body := ⟨parts.filterMap Segment.ofPart?⟩

/-- The segments before the first malformed one. -/
def readable (b : Body) : List Segment := b.segments.takeWhile (·.malformed?.isNone)

/-- The results that are stated. -/
def results (b : Body) : List Result := b.readable.filterMap Segment.result?

/-- The error of the first malformed segment. -/
def error? (b : Body) : Option ReadError :=
  (b.segments.findSome? Segment.malformed?).map .malformedMethod

/-- What is noticed in the body. -/
def events (b : Body) : List Event :=
  b.readable.flatMap Segment.events ++
    (b.error?.map fun error => .stopped error b.results.length).toList

/-- One body after another. -/
instance : Append Body := ⟨fun a b => ⟨a.segments ++ b.segments⟩⟩

theorem segments_append (a b : Body) : (a ++ b).segments = a.segments ++ b.segments := rfl

theorem ofParts_append (ps qs : List String) : ofParts (ps ++ qs) = ofParts ps ++ ofParts qs :=
  congrArg Body.mk List.filterMap_append

theorem error?_append (a b : Body) : (a ++ b).error? = a.error?.or b.error? := by
  simp only [error?, segments_append, List.findSome?_append]
  cases a.segments.findSome? Segment.malformed? <;> rfl

theorem readable_append {a : Body} (h : a.error? = none) (b : Body) :
    (a ++ b).readable = a.segments ++ b.readable := by
  simp only [error?, Option.map_eq_none_iff, List.findSome?_eq_none_iff] at h
  exact List.takeWhile_append_of_pos fun s hs => by simp [h s hs]

/-- Without an error the whole body is readable. -/
theorem readable_of_error?_eq_none {b : Body} (h : b.error? = none) : b.readable = b.segments := by
  have whole : (b ++ ⟨[]⟩).readable = b.segments ++ [] := readable_append h ⟨[]⟩
  simpa only [readable, segments_append, List.append_nil] using whole

theorem readable_append_of_error {a : Body} (h : a.error? ≠ none) (b : Body) :
    (a ++ b).readable = a.readable := by
  obtain ⟨segments⟩ := a
  simp only [readable, error?, segments_append, ne_eq, Option.map_eq_none_iff] at h ⊢
  induction segments with
  | nil => exact absurd rfl h
  | cons s rest ih =>
    cases hs : s.malformed? with
    | none => simp [hs, ih (by simpa [hs] using h)]
    | some word => simp [hs]

theorem results_append {a : Body} (h : a.error? = none) (b : Body) :
    (a ++ b).results = a.results ++ b.results := by
  rw [results, results, results, readable_append h, readable_of_error?_eq_none h,
    List.filterMap_append]

theorem results_append_of_error {a : Body} (h : a.error? ≠ none) (b : Body) :
    (a ++ b).results = a.results := by
  rw [results, results, readable_append_of_error h]

end Body

end MailAuth
