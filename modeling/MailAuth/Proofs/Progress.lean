import MailAuth.Body
import MailAuth.Proofs.Gathered

/-!
# Reading part by part

A body is read from left to right. `Progress` is what is known after some of its parts: the results
so far, what was noticed, and the error that ended the reading, if one did. One more part adds to it
(`Progress.next`), and after an error it adds nothing. How many results were kept at a malformed
part is read off the results so far.

Part by part, reading comes to what the body says as a whole (`Progress.run_eq`). So a property of
the outcome holds of every body if it holds before the first part and one more part keeps it
(`Progress.holds_run`); what one more part can do is listed in `Progress.next_cases`.
-/

namespace MailAuth

open Text

/-- What is known after some parts of a body. -/
structure Progress where
  results : List Result := []
  events : List Event := []
  error? : Option ReadError := none

namespace Progress

/-- A segment is read after what is known. -/
def add (p : Progress) : Segment → Progress
  | .placeholder text => { p with events := p.events ++ [.skippedSegment text] }
  | .malformed word =>
    { p with
      events := p.events ++ [.stopped (.malformedMethod word) p.results.length]
      error? := some (.malformedMethod word) }
  | .statement s =>
    { p with
      results := p.results ++ [.ofProperties s.method s.verdict (Gathered.run s).properties]
      events := p.events ++ (Gathered.run s).events }

/-- A part is read after what is known. A blank part is passed over, and after an error every part
is. -/
def next (p : Progress) (part : String) : Progress :=
  if p.error?.isSome then p
  else match Segment.ofPart? part with
    | none => p
    | some segment => p.add segment

/-- A statement adds its result and what is noticed in it. -/
theorem add_statement (p : Progress) (s : Statement) :
    p.add (.statement s) =
      { p with
        results := p.results ++ [s.result]
        events := p.events ++ s.tokens.filterMap s.event? } := by
  rw [add, Gathered.run_eq]
  rfl

/-- The parts are read one after the other. -/
def run (parts : List String) : Progress := parts.foldl next {}

/-- What one more part can do: nothing after an error, nothing if it is blank, and else what its
segment does. -/
theorem next_cases (p : Progress) (part : String) :
    (p.error?.isSome ∧ p.next part = p) ∨
      (p.error? = none ∧ Segment.ofPart? part = none ∧ p.next part = p) ∨
      ∃ segment, p.error? = none ∧ Segment.ofPart? part = some segment ∧
        p.next part = p.add segment := by
  cases error : p.error? with
  | some e => exact .inl ⟨rfl, by simp [next, error]⟩
  | none =>
    cases holds : Segment.ofPart? part with
    | none => exact .inr (.inl ⟨rfl, rfl, by simp [next, error, holds]⟩)
    | some segment => exact .inr (.inr ⟨segment, rfl, rfl, by simp [next, error, holds]⟩)

end Progress

/-! ### Bodies -/

namespace Body

/-- What is known at the end of a body. -/
def progress (b : Body) : Progress := ⟨b.results, b.events, b.error?⟩

theorem append_empty (b : Body) : b ++ ⟨[]⟩ = b := congrArg Body.mk (List.append_nil _)

/-- After an error nothing more is noticed. -/
theorem events_append_of_error {a : Body} (h : a.error? ≠ none) (b : Body) :
    (a ++ b).events = a.events := by
  have error : (a ++ b).error? = a.error? := by
    rw [error?_append, Option.or_of_isSome (Option.isSome_iff_ne_none.2 h)]
  rw [events, events, readable_append_of_error h, results_append_of_error h, error]

theorem events_of_error?_eq_none {b : Body} (h : b.error? = none) :
    b.events = b.segments.flatMap Segment.events := by
  rw [events, readable_of_error?_eq_none h, h]
  exact List.append_nil _

theorem progress_append_of_error {a : Body} (h : a.error? ≠ none) (b : Body) :
    (a ++ b).progress = a.progress := by
  rw [progress, progress, results_append_of_error h, events_append_of_error h, error?_append,
    Option.or_of_isSome (Option.isSome_iff_ne_none.2 h)]

/-- One more segment is read where there was no error before it. -/
theorem progress_append_segment {b : Body} (h : b.error? = none) (segment : Segment) :
    (b ++ ⟨[segment]⟩).progress = b.progress.add segment := by
  have before : b.progress = ⟨b.results, b.events, none⟩ := by rw [progress, h]
  have error : (b ++ ⟨[segment]⟩).error? = error? ⟨[segment]⟩ := by
    rw [error?_append, h, Option.none_or]
  have events : (b ++ ⟨[segment]⟩).events = b.events ++
      ((readable ⟨[segment]⟩).flatMap Segment.events ++
        ((error? ⟨[segment]⟩).map (.stopped · (b ++ ⟨[segment]⟩).results.length)).toList) := by
    rw [events, readable_append h, error, List.flatMap_append, events_of_error?_eq_none h,
      List.append_assoc]
  rw [before, progress, events, error, results_append h]
  cases segment with
  | placeholder text =>
    have stated : results ⟨[.placeholder text]⟩ = [] := rfl
    rw [stated, List.append_nil]
    rfl
  | malformed word =>
    have stated : results ⟨[.malformed word]⟩ = [] := rfl
    rw [stated, List.append_nil]
    rfl
  | statement s =>
    have noticed : (readable ⟨[.statement s]⟩).flatMap Segment.events =
        s.tokens.filterMap s.event? := List.append_nil _
    have unbroken : error? ⟨[.statement s]⟩ = none := rfl
    rw [noticed, unbroken, Option.map_none, Option.toList_none, List.append_nil,
      Progress.add_statement]
    rfl

/-- One more part of a body. -/
theorem progress_append_part (b : Body) (part : String) :
    (b ++ ofParts [part]).progress = b.progress.next part := by
  by_cases h : b.error? = none
  · have ready : ¬ b.progress.error?.isSome := by simp [progress, h]
    rw [Progress.next, if_neg ready]
    cases holds : Segment.ofPart? part with
    | none =>
      have empty : ofParts [part] = ⟨[]⟩ := by
        rw [ofParts, List.filterMap_cons_none holds, List.filterMap_nil]
      rw [empty, append_empty]
    | some segment =>
      have single : ofParts [part] = ⟨[segment]⟩ := by
        rw [ofParts, List.filterMap_cons_some holds, List.filterMap_nil]
      rw [single, progress_append_segment h]
  · have failed : b.progress.error?.isSome := Option.isSome_iff_ne_none.2 h
    rw [Progress.next, if_pos failed, progress_append_of_error h]

end Body

/-! ### Runs -/

namespace Progress

/-- Reading on from the end of a body. -/
theorem foldl_next_progress (b : Body) (parts : List String) :
    parts.foldl next b.progress = (b ++ .ofParts parts).progress := by
  induction parts generalizing b with
  | nil => rw [List.foldl_nil, Body.ofParts, List.filterMap_nil, Body.append_empty]
  | cons part rest ih =>
    have cut : b ++ .ofParts (part :: rest) = (b ++ .ofParts [part]) ++ .ofParts rest := by
      rw [← List.singleton_append, Body.ofParts_append]
      exact congrArg Body.mk (List.append_assoc ..).symm
    rw [List.foldl_cons, ← Body.progress_append_part, ih, cut]

/-- Part by part, reading comes to what the body says as a whole. -/
theorem run_eq (parts : List String) : run parts = (Body.ofParts parts).progress :=
  foldl_next_progress ⟨[]⟩ parts

/-- What holds before the first part, and is kept by one more part, holds of every body. -/
theorem holds_run {motive : List String → Progress → Prop} (start : motive [] {})
    (step : ∀ parts p part, motive parts p → motive (parts ++ [part]) (p.next part))
    (parts : List String) : motive parts (run parts) := by
  suffices onward : ∀ rest before p, motive before p →
      motive (before ++ rest) (rest.foldl next p) from onward parts [] {} start
  intro rest
  induction rest with
  | nil =>
    intro before p holds
    rw [List.append_nil]
    exact holds
  | cons part rest ih =>
    intro before p holds
    rw [← List.singleton_append, ← List.append_assoc]
    exact ih _ _ (step before p part holds)

end Progress
end MailAuth
