import MailAuth.Header.Reading
import MailAuth.Proofs.Progress

/-!
# What the events say of an error

An event of level `debug` says that a header, or the rest of it, is refused; all other events are
about things passed over. Such an event is noticed exactly if the header has an error. It is then
the only one and the last, it has the wording of the error, and its message tells which of the two
errors it is. At a malformed segment it also has the number of results that were kept, which is the
number of results in the header (`Reading.events_report_error`).

Where there has to be an instance tag, nothing else is noticed than without this demand; if the tag
is missing, one more event says so, and its wording is that of the error which then takes the place
of any other.

That the two agree is kept by every part of a body (`Progress.logged_next`).
-/

namespace MailAuth

open Text

namespace Event

/-- The event reports the error that ended a reading after `kept` results. -/
structure Reports (e : Event) (error : ReadError) (kept : Nat) : Prop where
  level : e.level = .debug
  /-- It has the wording of the error. -/
  err : ∀ field, ("err", field) ∈ e.fields ↔ field = .text error.message
  rejected : e.message = "rejecting Authentication-Results header" ↔
    ∃ version, error = .unsupportedVersion version
  stopped : e.message = "stopping at malformed result" ↔ ∃ word, error = .malformedMethod word
  /-- Results are counted at a malformed segment only. -/
  kept : ∀ field, ("kept", field) ∈ e.fields ↔
    (∃ word, error = .malformedMethod word) ∧ field = .count kept

theorem reports_rejected (version : String) (kept : Nat) :
    (rejected (.unsupportedVersion version)).Reports (.unsupportedVersion version) kept where
  level := rfl
  err := by simp [fields]
  rejected := by simp [message]
  stopped := by simp [message]
  kept := by simp [fields]

theorem reports_stopped (word : String) (kept : Nat) :
    (stopped (.malformedMethod word) kept).Reports (.malformedMethod word) kept where
  level := rfl
  err := by simp [fields]
  rejected := by simp [message]
  stopped := by simp [message]
  kept := by simp [fields]

/-- None of the events says that a header is refused. -/
def Quiet (events : List Event) : Prop := ∀ e ∈ events, e.level = .trace

theorem Quiet.append {front back : List Event} (hf : Quiet front) (hb : Quiet back) :
    Quiet (front ++ back) :=
  List.forall_mem_append.2 ⟨hf, hb⟩

/-- The events agree with the error, if any, that ended a reading after `kept` results. -/
structure Log (events : List Event) (error? : Option ReadError) (kept : Nat) : Prop where
  quiet : error? = none → Quiet events
  /-- The last event reports the error, and none before it reports one. -/
  told : ∀ error, error? = some error →
    ∃ passed last, events = passed ++ [last] ∧ Quiet passed ∧ last.Reports error kept

namespace Log

variable {events : List Event} {error? : Option ReadError} {kept : Nat}

theorem of_quiet (quiet : Quiet events) : Log events none kept := ⟨fun _ => quiet, nofun⟩

theorem of_report {passed : List Event} {last : Event} {error : ReadError} (quiet : Quiet passed)
    (reports : last.Reports error kept) : Log (passed ++ [last]) (some error) kept where
  quiet := nofun
  told := fun _ same => ⟨passed, last, rfl, quiet, Option.some.inj same ▸ reports⟩

/-- What is passed over before makes no difference. -/
theorem append_front {front : List Event} (quiet : Quiet front) (h : Log events error? kept) :
    Log (front ++ events) error? kept where
  quiet := fun none => quiet.append (h.quiet none)
  told := by
    intro error some
    obtain ⟨passed, last, rfl, before, reports⟩ := h.told error some
    exact ⟨front ++ passed, last, (List.append_assoc ..).symm, quiet.append before, reports⟩

/-- There is an event of level `debug` exactly if there is an error. -/
theorem exists_debug_iff (h : Log events error? kept) :
    (∃ e ∈ events, e.level = .debug) ↔ error? ≠ none := by
  constructor
  · rintro ⟨e, mem, debug⟩ none
    rw [h.quiet none e mem] at debug
    cases debug
  · intro some
    obtain ⟨error, some⟩ := Option.ne_none_iff_exists'.1 some
    obtain ⟨passed, last, rfl, -, reports⟩ := h.told error some
    exact ⟨last, by simp, reports.level⟩

end Log

end Event

/-! ### Bodies -/

/-- A statement says nothing of an error of the header. -/
theorem Statement.quiet_events (s : Statement) : Event.Quiet (s.tokens.filterMap s.event?) := by
  intro e mem
  obtain ⟨token, -, noticed⟩ := List.mem_filterMap.1 mem
  unfold event? at noticed
  split at noticed
  · obtain rfl := Option.some.inj noticed
    rfl
  · obtain ⟨first, -, rfl⟩ := Option.map_eq_some_iff.1 noticed
    rfl

namespace Progress

/-- The events agree with the error. -/
def Logged (p : Progress) : Prop := Event.Log p.events p.error? p.results.length

theorem logged_add {p : Progress} (ready : p.error? = none) (logged : p.Logged)
    (segment : Segment) : (p.add segment).Logged := by
  have quiet := logged.quiet ready
  cases segment with
  | placeholder text =>
    have noticed : Event.Quiet [.skippedSegment text] := by simp [Event.Quiet, Event.level]
    rw [Logged, add, ready]
    exact .of_quiet (quiet.append noticed)
  | malformed word => exact .of_report quiet (Event.reports_stopped word _)
  | statement s =>
    rw [Logged, add_statement, ready]
    exact .of_quiet (quiet.append s.quiet_events)

/-- One more part keeps the events in agreement with the error. -/
theorem logged_next {p : Progress} (logged : p.Logged) (part : String) : (p.next part).Logged := by
  rcases p.next_cases part with ⟨-, same⟩ | ⟨-, -, same⟩ | ⟨segment, ready, -, added⟩
  · rw [same]
    exact logged
  · rw [same]
    exact logged
  · rw [added]
    exact logged_add ready logged segment

theorem logged_run (parts : List String) : (run parts).Logged :=
  holds_run (motive := fun _ p => p.Logged) (.of_quiet nofun)
    (fun _ _ part logged => logged_next logged part) parts

end Progress

/-- The events of a body agree with its error. -/
theorem Body.log_ofParts (parts : List String) :
    Event.Log (ofParts parts).events (ofParts parts).error? (ofParts parts).results.length := by
  have logged := Progress.logged_run parts
  rwa [Progress.run_eq] at logged

/-! ### Headers -/

namespace Reading

theorem log_ofOpening (o : Opening) :
    Event.Log (ofOpening o).events (ofOpening o).header.error
      (ofOpening o).header.results.length := by
  unfold ofOpening
  split
  · rename_i version _
    have nothing : Event.Quiet [] := nofun
    exact .of_report nothing (Event.reports_rejected version 0)
  · exact Body.log_ofParts o.body

theorem header_ofText (s : String) : (ofText s).header = (ofOpening (.ofText s)).header := by
  simp only [ofText]

/-- A refused tag is noticed before anything else. -/
theorem events_ofText (s : String) :
    (ofText s).events =
      (if hasRefusedTag s then [.refusedTag (firstPart s)] else []) ++
        (ofOpening (.ofText s)).events := by
  simp only [ofText]

theorem log_ofText (s : String) :
    Event.Log (ofText s).events (ofText s).header.error (ofText s).header.results.length := by
  rw [header_ofText, events_ofText]
  refine (log_ofOpening (.ofText s)).append_front ?_
  split
  · simp [Event.Quiet, Event.level]
  · exact nofun

/-- The events report the error of a header: there is one exactly if there is an event of level
`debug`, which is then the only one and the last. Where there has to be an instance tag, the same is
noticed, and at the end, exactly if there is none, that the header is refused for it. -/
theorem events_report_error (s : String) :
    ((∃ e ∈ (ofText s).events, e.level = .debug) ↔ (ofText s).header.error ≠ none) ∧
      (∀ error, (ofText s).header.error = some error →
        ∃ passed last, (ofText s).events = passed ++ [last] ∧
          (∀ e ∈ passed, e.level = .trace) ∧
          last.Reports error (ofText s).header.results.length) ∧
      ((ofText s).header.arcInstance ≠ none → (ofArcText s).events = (ofText s).events) ∧
      ((ofText s).header.arcInstance = none →
        ∃ first last, (ofArcText s).header.error = some (.missingInstance first) ∧
          (ofArcText s).events = (ofText s).events ++ [last] ∧ last.level = .debug ∧
          last.message = "rejecting ARC-Authentication-Results header" ∧
          last.fields = [("err", .text (ReadError.missingInstance first).message)]) := by
  refine ⟨(log_ofText s).exists_debug_iff, (log_ofText s).told, fun tagged => ?_,
    fun untagged => ?_⟩
  · rw [ofArcText, if_pos (Option.isSome_iff_ne_none.2 tagged)]
  · have missing : ¬ (ofText s).header.arcInstance.isSome := by
      rw [untagged]
      decide
    rw [ofArcText, if_neg missing]
    exact ⟨firstPart s, _, rfl, rfl, rfl, rfl, rfl⟩

/-- A malformed segment is reported behind everything that was passed over, and before the missing
tag. A header with a tag is refused for its version only. -/
theorem events_report_error_malformed :
    (∃ passed last, (ofText "i=0; spf=pass x; none; dkim a; auth=pass").events = passed ++ [last] ∧
        (∀ e ∈ passed, e.level = .trace) ∧ last.Reports (.malformedMethod "dkim") 1) ∧
      (∃ first last, (ofArcText "i=0; spf=pass x; none; dkim a; auth=pass").events =
          (ofText "i=0; spf=pass x; none; dkim a; auth=pass").events ++ [last] ∧
        last.fields = [("err", .text (ReadError.missingInstance first).message)]) ∧
      (ofArcText "i=1; mx 2; spf=pass x").events = (ofText "i=1; mx 2; spf=pass x").events := by
  obtain ⟨-, told, -, untagged⟩ :=
    events_report_error "i=0; spf=pass x; none; dkim a; auth=pass"
  have error : (ofText "i=0; spf=pass x; none; dkim a; auth=pass").header.error =
      some (.malformedMethod "dkim") := by decide
  have kept : (ofText "i=0; spf=pass x; none; dkim a; auth=pass").header.results.length = 1 := by
    decide
  have reported := told _ error
  rw [kept] at reported
  obtain ⟨first, last, -, more, -, -, fields⟩ := untagged (by decide)
  obtain ⟨-, -, tagged, -⟩ := events_report_error "i=1; mx 2; spf=pass x"
  exact ⟨reported, ⟨first, last, more, fields⟩, tagged (by decide)⟩

end Reading

end MailAuth
