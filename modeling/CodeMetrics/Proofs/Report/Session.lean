import CodeMetrics.Report.Session
import CodeMetrics.Proofs.Report.Ending
import Mathlib.Data.List.DropRight

/-!
# The document over a session

What a session does to the document is a history of events: a new document is begun, or a
subroutine is forwarded.  `Settings.events` says which events a step brings about, steps that fail
half-way included, and the findings are at every moment those of the subroutines that were forwarded
since the last beginning (`perform_findings` for one step, `performAll_getElem?` for a run).
-/

namespace CodeMetrics

/-! ## Histories -/

/-- What can happen to the document. -/
inductive DocumentEvent where
  | begun
  | forwarded (s : Subroutine)

namespace DocumentEvent

/-- The subroutine that is forwarded. -/
def sub? : DocumentEvent → Option Subroutine
  | begun => none
  | forwarded s => some s

/-- The subroutines that were forwarded since the last beginning, in order. -/
def forwardedSince (events : List DocumentEvent) : List Subroutine :=
  (events.rtakeWhile fun e => e.sub?.isSome).filterMap sub?

theorem forwardedSince_concat_begun (events : List DocumentEvent) :
    forwardedSince (events ++ [begun]) = [] := by
  unfold forwardedSince
  rw [List.rtakeWhile_concat_neg]
  · rfl
  · exact Bool.false_ne_true

theorem forwardedSince_concat_forwarded (events : List DocumentEvent) (s : Subroutine) :
    forwardedSince (events ++ [forwarded s]) = forwardedSince events ++ [s] := by
  unfold forwardedSince
  rw [List.rtakeWhile_concat_pos _ _ _ rfl, List.filterMap_append]
  rfl

theorem forwardedSince_append_forwarded (events : List DocumentEvent) (subs : List Subroutine) :
    forwardedSince (events ++ subs.map forwarded) = forwardedSince events ++ subs := by
  induction subs generalizing events with
  | nil => simp
  | cons s rest ih =>
    have h := ih (events ++ [forwarded s])
    rw [forwardedSince_concat_forwarded] at h
    simpa using h

theorem forwardedSince_append_begun (events : List DocumentEvent) (subs : List Subroutine) :
    forwardedSince (events ++ begun :: subs.map forwarded) = subs := by
  have h := forwardedSince_append_forwarded (events ++ [begun]) subs
  rw [forwardedSince_concat_begun] at h
  simpa using h

end DocumentEvent

open DocumentEvent

/-! ## What a step brings about -/

/-- The analysis of records that are given as a value, if they can be read and analysed. -/
def analysisOf? (records : Value) : Option Analysis :=
  match readRecords records with
  | .error _ => none
  | .ok rs => (analyze rs).toOption

namespace Settings

/-- The events that a step brings about.  A report begins a new document before anything else, and
forwards no subroutine when it cannot print the table of files; of the files, subroutines are
forwarded up to the first that stops the section. -/
def events (c : Settings) : Step → List DocumentEvent
  | .report records =>
    match analysisOf? records with
    | none => []
    | some a =>
      .begun :: (if c.summarizes a.fileStats then c.forwardedOf a.subStats else []).map .forwarded
  | .subSection pairs asMapping =>
    match filesOf pairs asMapping with
    | .error _ => []
    | .ok files => (c.forwardedOf files).map .forwarded
  | .record sub =>
    match buildSub sub with
    | .error _ => []
    | .ok s => if s.recordable then [.forwarded s] else []
  | .beginDocument => [.begun]
  | .fileSummary _ | .isOk _ | .writeDocument | .serialize => []

/-- The findings that the document should hold after some steps on an empty one. -/
def held (c : Settings) (steps : List Step) : List Finding :=
  (forwardedSince (steps.flatMap c.events)).map Subroutine.finding

end Settings

/-- The warnings that a step logged. -/
def Outcome.warnings (o : Outcome) : List LogEntry := o.log.filter fun e => e.level = .warning

theorem filter_warning_of_details {log : List LogEntry} (h : ∀ e ∈ log, e.level = .debug) :
    log.filter (fun e => e.level = .warning) = [] := by
  rw [List.filter_eq_nil_iff]
  intro e he
  rw [h e he]
  decide

theorem filter_warning_beginEntries (findings : List Finding) :
    (Sarif.beginEntries findings).filter (fun e => e.level = .warning) =
      Sarif.beginEntries findings := by
  unfold Sarif.beginEntries
  split <;> rfl

/-! ## Steps on records -/

/-- Records that cannot be read or analysed leave the findings as they were; nothing is written and
nothing but details is logged.  Otherwise the step does what is to be done with the analysis. -/
theorem onRecords_spec (records : Value) (findings : List Finding) (next : Analysis → Run) :
    ∃ details, (∀ e ∈ details, e.level = .debug) ∧
      match analysisOf? records with
      | none =>
        ∃ f, Settings.onRecords records findings next = ⟨[], details, findings, none, some f⟩
      | some a => Settings.onRecords records findings next = .ofRun details (next a) := by
  have level : ∀ rs, ∀ e ∈ [recordsRead rs], e.level = .debug := by
    intro rs e he
    rw [List.mem_singleton.1 he]
    rfl
  unfold analysisOf? Settings.onRecords
  rcases readRecords records with f | rs
  · exact ⟨[], nofun, .fault f, rfl⟩
  · rcases ha : analyze rs with b | a
    · simp only [ha]
      exact ⟨[recordsRead rs], level rs, .breakdown b, rfl⟩
    · simp only [ha]
      refine ⟨[recordsRead rs, a.entry], ?_, rfl⟩
      intro e he
      rcases List.mem_cons.1 he with rfl | he
      · rfl
      · rw [List.mem_singleton.1 he]
        rfl

theorem onRecords_findings (records : Value) (findings : List Finding) (next : Analysis → Run) :
    (Settings.onRecords records findings next).findings =
      match analysisOf? records with
      | none => findings
      | some a => (next a).findings := by
  obtain ⟨details, -, h⟩ := onRecords_spec records findings next
  rcases hr : analysisOf? records with _ | a
  · rw [hr] at h
    obtain ⟨f, hf⟩ := h
    rw [hf]
  · rw [hr] at h
    have ha : Settings.onRecords records findings next = .ofRun details (next a) := h
    rw [ha]
    rfl

theorem onRecords_warnings (records : Value) (findings : List Finding) (next : Analysis → Run) :
    (Settings.onRecords records findings next).warnings =
      match analysisOf? records with
      | none => []
      | some a => (next a).log.filter fun e => e.level = .warning := by
  obtain ⟨details, hdetails, h⟩ := onRecords_spec records findings next
  rcases hr : analysisOf? records with _ | a
  · rw [hr] at h
    obtain ⟨f, hf⟩ := h
    rw [hf]
    exact filter_warning_of_details hdetails
  · rw [hr] at h
    have ha : Settings.onRecords records findings next = .ofRun details (next a) := h
    rw [ha]
    simp only [Outcome.warnings, Outcome.ofRun, List.filter_append,
      filter_warning_of_details hdetails, List.nil_append]

/-! ## One step -/

/-- What a step does to the findings, however it ends: the events are added to the history. -/
theorem perform_findings (c : Settings) (history : List DocumentEvent) (step : Step) :
    (c.perform step ((forwardedSince history).map Subroutine.finding)).findings =
      (forwardedSince (history ++ c.events step)).map Subroutine.finding := by
  cases step with
  | report records =>
    simp only [Settings.perform, Settings.events, onRecords_findings]
    rcases analysisOf? records with _ | a
    · rw [List.append_nil]
    · rw [forwardedSince_append_begun]
      show (report c a _).findings = _
      rw [report_findings]
      split <;> rfl
  | fileSummary records =>
    simp only [Settings.perform, Settings.events, onRecords_findings, List.append_nil]
    rcases analysisOf? records with _ | a
    · rfl
    · exact (reportSummary_findings c a.fileStats _).1
  | subSection pairs asMapping =>
    simp only [Settings.perform, Settings.onPairs, Settings.events]
    rcases filesOf pairs asMapping with b | files
    · rw [List.append_nil]
      rfl
    · rw [forwardedSince_append_forwarded, List.map_append]
      exact reportSection_findings c files _
  | isOk sub =>
    simp only [Settings.perform, Settings.events, List.append_nil]
    split <;> rfl
  | beginDocument =>
    simp only [Settings.perform, Settings.events, forwardedSince_concat_begun]
    rfl
  | record sub =>
    simp only [Settings.perform, Settings.events]
    rcases buildSub sub with b | s
    · rw [List.append_nil]
      rfl
    · simp only [recordFinding]
      by_cases hs : s.recordable
      · rw [Finding.ofSub_of_recordable hs, if_pos hs, forwardedSince_concat_forwarded]
        simp [Outcome.ofRun, Run.idle]
      · rw [Finding.ofSub_of_not_recordable (Bool.eq_false_iff.2 hs), if_neg hs, List.append_nil]
        rfl
  | writeDocument =>
    simp only [Settings.events, List.append_nil]
    exact (writeDocument_findings _).1
  | serialize =>
    simp only [Settings.perform, Settings.events, List.append_nil]
    split <;> rfl

/-- The document is given when all of it can be copied. -/
theorem perform_serialize (c : Settings) (findings : List Finding) :
    c.perform .serialize findings =
      if ∀ f ∈ findings, f.line.copiable then .answered findings (Sarif.document findings)
      else .failed findings (.breakdown .wrongKind) := by
  rw [Settings.perform, Sarif.copy_eq]
  by_cases h : ∀ f ∈ findings, f.line.copiable
  · rw [if_pos h, if_pos h]
  · rw [if_neg h, if_neg h]

/-- The step begins a new document: directly, or as a report that is reached. -/
def Step.begins : Step → Bool
  | .report records => (analysisOf? records).isSome
  | .beginDocument => true
  | .subSection .. | .record _ | .fileSummary _ | .isOk _ | .writeDocument | .serialize => false

/-- The step leaves the document as it is: it only looks at it or not even that, or it is a report
that is not reached. -/
def Step.leavesDocument : Step → Bool
  | .report records => (analysisOf? records).isNone
  | .fileSummary _ | .isOk _ | .writeDocument | .serialize => true
  | .beginDocument | .subSection .. | .record _ => false

theorem Settings.events_of_leavesDocument {c : Settings} {step : Step} (h : step.leavesDocument) :
    c.events step = [] := by
  cases step with
  | report records => simp [events, Option.isNone_iff_eq_none.1 h]
  | fileSummary records => rfl
  | isOk sub => rfl
  | writeDocument => rfl
  | serialize => rfl
  | beginDocument => cases h
  | subSection pairs asMapping => cases h
  | record sub => cases h

/-- A step warns of lost findings when it begins a new document, and never else. -/
theorem perform_warnings (c : Settings) (step : Step) (findings : List Finding) :
    (c.perform step findings).warnings =
      if step.begins then Sarif.beginEntries findings else [] := by
  cases step with
  | report records =>
    have hbegins : (Step.report records).begins = (analysisOf? records).isSome := rfl
    rw [Settings.perform, onRecords_warnings, hbegins]
    rcases analysisOf? records with _ | a
    · rfl
    · obtain ⟨details, hlog, hdetails⟩ := report_log c a findings
      simp only [hlog, List.filter_append, filter_warning_beginEntries,
        filter_warning_of_details hdetails, List.append_nil]
      rfl
  | fileSummary records =>
    rw [Settings.perform, onRecords_warnings]
    rcases analysisOf? records with _ | a
    · rfl
    · simp only [(reportSummary_findings c a.fileStats findings).2]
      rfl
  | subSection pairs asMapping =>
    simp only [Settings.perform, Settings.onPairs, Step.begins]
    rcases filesOf pairs asMapping with b | files
    · rfl
    · exact filter_warning_of_details (reportSection_log_level c files findings)
  | isOk sub =>
    simp only [Settings.perform, Step.begins]
    split <;> rfl
  | beginDocument => exact filter_warning_beginEntries findings
  | record sub =>
    simp only [Settings.perform, Step.begins]
    rcases buildSub sub with b | s
    · rfl
    · simp only [recordFinding]
      rcases Finding.ofSub s with b | f <;> rfl
  | writeDocument =>
    simp only [Outcome.warnings, Settings.perform, Outcome.ofRun,
      (writeDocument_findings findings).2]
    rfl
  | serialize =>
    simp only [Settings.perform]
    split <;> rfl

/-! ## A run -/

/-- Each step of a run meets the findings that the steps before it left. -/
theorem performAll_getElem? (c : Settings) (history : List DocumentEvent)
    (before after : List Step) (step : Step) :
    (c.performAll ((forwardedSince history).map Subroutine.finding)
      (before ++ step :: after))[before.length]? =
      some (c.perform step
        ((forwardedSince (history ++ before.flatMap c.events)).map Subroutine.finding)) := by
  induction before generalizing history with
  | nil => simp [Settings.performAll]
  | cons s rest ih =>
    have h := perform_findings c history s
    rw [List.cons_append, Settings.performAll]
    simp only [h, List.length_cons, List.getElem?_cons_succ]
    rw [ih, List.flatMap_cons, List.append_assoc]

/-- Take any step of any run that starts on an empty document.  After it, however it ended, the
document is the empty one with the results about the subroutines that were forwarded since the last
beginning.  Steps that only look at the document and reports that are not reached leave it as it
was; `serialize` gives a copy of it, or fails when a line number in it cannot be copied, and
`writeDocument` writes nothing else.  The step logs a warning, with the number of the findings that
are lost, exactly when it begins a new document and there are any. -/
theorem session_document (c : Settings) (before after : List Step) (step : Step) :
    ∃ o, (c.performAll [] (before ++ step :: after))[before.length]? = some o ∧
      o.findings = c.held (before ++ [step]) ∧
      Sarif.document o.findings =
        Sarif.withResults ((c.held (before ++ [step])).map Finding.toValue) (Sarif.document []) ∧
      (step.leavesDocument → o.findings = c.held before) ∧
      (step = .serialize → if ∀ f ∈ c.held before, f.line.copiable
        then o.answer = some (Sarif.document (c.held before)) ∧ o.failure = none
        else o.answer = none ∧ o.failure = some (.breakdown .wrongKind)) ∧
      (step = .writeDocument → ∀ line ∈ o.lines, Sarif.line (c.held before) = .ok line) ∧
      o.warnings =
        if step.begins && !(c.held before).isEmpty then
          [⟨.warning, sourceOf "formatters.sarif_formatter",
            "Diagnostics document re-initialized; discarding " ++
              toString (c.held before).length ++ " results"⟩]
        else [] := by
  have hrun := performAll_getElem? c [] before after step
  have hstep := perform_findings c (before.flatMap c.events) step
  have hheld : c.held (before ++ [step]) =
      (forwardedSince (before.flatMap c.events ++ c.events step)).map Subroutine.finding := by
    unfold Settings.held
    rw [List.flatMap_append, List.flatMap_singleton]
  rw [List.nil_append] at hrun
  refine ⟨_, hrun, ?_, ?_, fun hleaves => ?_, ?_, ?_, ?_⟩
  · rw [hstep, hheld]
  · rw [hstep, ← hheld]
    exact Sarif.document_eq_withResults _
  · rw [hstep, Settings.events_of_leavesDocument hleaves, List.append_nil]
    rfl
  · rintro rfl
    have hcopy := perform_serialize c (c.held before)
    unfold Settings.held at hcopy ⊢
    rw [hcopy]
    split
    · exact ⟨rfl, rfl⟩
    · exact ⟨rfl, rfl⟩
  · rintro rfl line hline
    change line ∈ (writeDocument (c.held before)).lines at hline
    unfold writeDocument at hline
    split at hline
    · next h =>
      rw [h, List.mem_singleton.1 hline]
    · cases hline
  · rw [perform_warnings]
    unfold Sarif.beginEntries
    cases step.begins with
    | false => rfl
    | true =>
      change (if (c.held before).isEmpty then [] else _) = _
      cases (c.held before).isEmpty <;> rfl

end CodeMetrics
