import CodeMetrics.Proofs.Command.Report
import CodeMetrics.Proofs.Markup.Literal
import CodeMetrics.Proofs.Text.Wrap

/-!
# How a fault is reported

A run whose settings or records cannot be loaded prints nothing but a line about it, and ends with
code 1.  The line is markup: it shows what the text of the fault renders as, and kills the run if
the text cannot be rendered (`error_line_breaks_down`).  Only a text that is literal is shown as it
is (`loading_failure_reported`).
-/

namespace CodeMetrics

/-- The text is shown as it is, up to line ends: it is literal markup, and drawing it moves to no
tab stop and joins no characters. -/
structure Showable (s : List Char) : Prop where
  literal : Markup.Literal s
  steady : Steady s
  tabs : '\t' ∉ s

instance (s : List Char) : Decidable (Showable s) :=
  decidable_of_iff (Markup.Literal s ∧ Steady s ∧ '\t' ∉ s)
    ⟨fun ⟨literal, steady, tabs⟩ => ⟨literal, steady, tabs⟩,
    fun ⟨literal, steady, tabs⟩ => ⟨literal, steady, tabs⟩⟩

/-- The text of a failure that is told in a line. -/
def Failure.text? : Failure → Option String
  | fault f => some f.text
  | breakdown _ => none

namespace Ending

variable {files : Files} {log : List LogEntry} {message : String}

theorem errorText_eq (message : String) :
    errorText message = (fun shown => unlines (wrap terminalWidth ("Error:".toList ++ shown))) <$>
      Markup.render (' ' :: message.toList) := by
  unfold errorText
  rw [String.toList_append, Markup.render_error]
  cases Markup.render (' ' :: message.toList) <;> rfl

theorem failed_of_render_error {m : Markup.Fault}
    (h : Markup.render (' ' :: message.toList) = .error m) :
    failed files log message = crashed "" files log (.markup m) := by
  unfold failed
  rw [errorText_eq, h]
  rfl

theorem failed_of_render_ok {shown : List Char}
    (h : Markup.render (' ' :: message.toList) = .ok shown) :
    failed files log message =
      ⟨1, "", unlines (wrap terminalWidth ("Error:".toList ++ shown)), none, files, log⟩ := by
  unfold failed
  rw [errorText_eq, h]
  rfl

theorem failed_exitCode (files : Files) (log : List LogEntry) (message : String) :
    (failed files log message).exitCode = 1 ∧ (failed files log message).stdout = "" := by
  unfold failed
  split <;> exact ⟨rfl, rfl⟩

/-- The lines that report an error with a showable text hold the text. -/
theorem failed_of_showable (h : Showable message.toList) :
    ∃ lines, failed files log message = ⟨1, "", unlines lines, none, files, log⟩ ∧
      Breaks ("Error: " ++ message).toList lines ∧ ∀ line ∈ lines, cells line ≤ terminalWidth := by
  refine ⟨_, failed_of_render_ok (Markup.render_of_literal h.literal.cons_blank), ?_⟩
  have htext : ("Error: " ++ message).toList = "Error:".toList ++ ' ' :: message.toList := by
    rw [String.toList_append]
    rfl
  rw [htext]
  refine breaks_wrap (by decide) ?_ ?_
  · exact steady_append_iff.2 ⟨by decide, List.forall_mem_cons.2 ⟨by decide, h.steady⟩⟩
  · rw [List.mem_append, List.mem_cons, not_or, not_or]
    exact ⟨by decide, by decide, h.tabs⟩

end Ending

namespace Command

/-! ## Runs that cannot load -/

/-- The request is accepted, but loading its settings or, after them, its records ends with a
fault. -/
inductive LoadingFails (s : Surroundings) : Request → Fault → Prop
  | settings {arguments : ReportArguments} {records : String} {r : ReportRequest}
      {j : Journal} {files : Files} {f : Fault}
      (accepted : Request.checkReport s.files.look arguments records = .ok r)
      (journal : Journal.setup r.verbose r.quiet ((r.logFile.map Path.tidy).getD "") s.files =
        .ok (j, files))
      (failed : Settings.load (sources s s.files r) = .error (.fault f)) :
      LoadingFails s (.report arguments records) f
  | records {arguments : ReportArguments} {records : String} {r : ReportRequest}
      {j : Journal} {files : Files} {c : Settings} {f : Fault}
      (accepted : Request.checkReport s.files.look arguments records = .ok r)
      (journal : Journal.setup r.verbose r.quiet ((r.logFile.map Path.tidy).getD "") s.files =
        .ok (j, files))
      (loaded : Settings.load (sources s s.files r) = .ok c)
      (failed : recordsAt s.files records = .error (.fault f)) :
      LoadingFails s (.report arguments records) f
  | summary {r : SummaryRequest} {f : Fault}
      (found : Request.requireFile s.files.look r.records = .ok ())
      (failed : recordsAt s.files r.records = .error (.fault f)) : LoadingFails s (.summary r) f

variable {s : Surroundings} {files : Files} {f : Fault}

theorem onRecords_of_error {path : String} (failed : recordsAt files path = .error (.fault f))
    (next : List LogEntry → Analysis → Ending) :
    onRecords files path next = .failed files [] f.text := by
  unfold recordsAt at failed
  unfold onRecords
  simp only [failed]
  rfl

/-- However loading fails, the run ends with the line about its fault; only the journal is written
besides. -/
theorem runRequest_of_loadingFails {request : Request} (h : LoadingFails s request f)
    (stamp : String) :
    ∃ j files, runRequest stamp s request = writeLog stamp j (.failed files [] f.text) := by
  cases h with
  | @settings _ _ _ j files _ accepted journal failed =>
    -- The journal may have made its file, but that is empty and gives nothing to what is read.
    have gives := look_setup journal
    refine ⟨j, files, ?_⟩
    rw [← load_sources_of_gives gives (of_checkReport accepted).2.2] at failed
    simp only [runRequest, accepted, runReport, journal, loadAndReport, failed]
    rfl
  | @records _ _ r j files _ _ accepted journal loaded failed =>
    have gives := look_setup journal
    obtain ⟨rfl, isFile, config⟩ := of_checkReport accepted
    refine ⟨j, files, ?_⟩
    have hrecords := (recordsAt_of_gives isFile gives).trans failed
    rw [← load_sources_of_gives gives config] at loaded
    simp only [runRequest, accepted, runReport, journal, loadAndReport, loaded,
      onRecords_of_error hrecords]
  | @summary r _ found failed =>
    refine ⟨⟨Journal.levelFor r.verbose false, [.terminal]⟩, s.files, ?_⟩
    simp only [runRequest, found, runSummary, Journal.setup, if_true, onRecords_of_error failed]

theorem run_of_loadingFails {args : List String} {request : Request}
    (asked : Request.read args = .ok request) (h : LoadingFails s request f) (stamp : String) :
    ∃ j files, run stamp s args = writeLog stamp j (.failed files [] f.text) := by
  unfold run
  rw [asked]
  exact runRequest_of_loadingFails h stamp

/-- Take a run in which loading the settings or the records ends with a fault.  The run ends with
code 1 and prints nothing to its output.  Let all tags in the text of the fault be settled.  If the
text cannot be rendered as markup, because it closes a style that is not open or one with parameters
that cannot be read, the run dies of that; otherwise it prints a line with what the text renders as.
A showable text, which has no tags, is printed as it is, broken into lines that fit the terminal. -/
theorem loading_failure_reported (stamp : String) {args : List String} {request : Request}
    (asked : Request.read args = .ok request) (h : LoadingFails s request f) :
    let ending := run stamp s args
    let rendered := Markup.render (' ' :: f.text.toList)
    ending.exitCode = 1 ∧ ending.stdout = "" ∧
      (Markup.Settled (' ' :: f.text.toList) →
        (∀ m, rendered = .error m → ending.crash = some (.markup m) ∧ ending.stderr = "") ∧
        ∀ shown, rendered = .ok shown → ending.crash = none ∧
          ending.stderr = unlines (wrap terminalWidth ("Error:".toList ++ shown))) ∧
      (Showable f.text.toList → ending.crash = none ∧
        ∃ lines, ending.stderr = unlines lines ∧ Breaks ("Error: " ++ f.text).toList lines ∧
          ∀ line ∈ lines, cells line ≤ terminalWidth) := by
  intro ending rendered
  obtain ⟨j, files, hends⟩ : ∃ j files, ending = writeLog stamp j (.failed files [] f.text) :=
    run_of_loadingFails asked h stamp
  have ⟨code, stdout⟩ := Ending.failed_exitCode files [] f.text
  refine ⟨hends ▸ code, hends ▸ stdout, fun _ => ⟨fun m hm => ?_, fun shown hshown => ?_⟩,
    fun hshow => ?_⟩
  · rw [hends, Ending.failed_of_render_error hm]
    exact ⟨rfl, rfl⟩
  · rw [hends, Ending.failed_of_render_ok hshown]
    exact ⟨rfl, rfl⟩
  · obtain ⟨lines, hlines, hbreaks, hwidth⟩ := Ending.failed_of_showable hshow
    rw [hends, hlines]
    exact ⟨rfl, lines, rfl, hbreaks, hwidth⟩

/-- A directory with a file of records, and one variable that is set. -/
def lineSurroundings (records value : String) : Surroundings where
  files := [(["records.json"], .file records.toUTF8.data.toList)]
  directory := "/work"
  environment := fun name => if name = "METRICS_LITE_SHOW_ONLY_ERRORS" then some value else none

theorem loading_failure_reported_sample :
    let s := lineSurroundings "\x7b\x7d" "yes"
    let args := ["summary", "records.json"]
    let request : Request := .summary ⟨"records.json", false⟩
    ∃ f lines, Request.read args = .ok request ∧ LoadingFails s request f ∧
      (run "now" s args).exitCode = 1 ∧ (run "now" s args).crash = none ∧
      (run "now" s args).stderr = unlines lines ∧
      Breaks ("Error: Invalid metric records (reason=expected a JSON array of file records, " ++
        "received=dict)").toList lines := by
  intro s args request
  have asked : Request.read args = .ok request := toOption_eq_some_iff.1 (by decide +kernel)
  have failed : recordsAt s.files "records.json" = .error (.fault (.input
      "expected a JSON array of file records" (.dict []) .null)) := by rfl
  have fails : LoadingFails s request _ := .summary rfl failed
  have text : (Fault.input "expected a JSON array of file records" (.dict []) .null).text =
      "Invalid metric records (reason=expected a JSON array of file records, received=dict)" := by
    decide +kernel
  have showable : Showable ("Invalid metric records " ++
      "(reason=expected a JSON array of file records, received=dict)").toList := by
    decide +kernel
  obtain ⟨code, -, -, shows⟩ := loading_failure_reported "now" asked fails
  obtain ⟨crash, lines, stderr, breaks, -⟩ := shows (text ▸ showable)
  rw [text] at breaks
  exact ⟨_, lines, asked, fails, code, crash, stderr, breaks⟩

/-- The value of a variable that looks like a closing tag kills the run. -/
theorem error_line_breaks_down :
    let s := lineSurroundings "[]" "[/x]"
    let args := ["report", "records.json"]
    ∃ request f, Request.read args = .ok request ∧ LoadingFails s request f ∧
      (run "now" s args).crash = some (.markup (.unopened "/x".toList)) := by
  intro s args
  let r : ReportRequest := ⟨"records.json", none, none, none, none, none, false, false, none⟩
  have asked : Request.read args = .ok (.report ⟨none, none, none, none, none, false, false, none⟩
      "records.json") :=
    toOption_eq_some_iff.1 (by decide +kernel)
  have accepted : Request.checkReport s.files.look
      ⟨none, none, none, none, none, false, false, none⟩ "records.json" = .ok r := rfl
  have told : (((errorOf? (Settings.load (sources s s.files r))).bind Failure.text?).bind
      fun text => errorOf? (Markup.render (' ' :: text.toList))) =
        some (.unopened "/x".toList) := by
    decide +kernel
  obtain ⟨text, htext, unopened⟩ := Option.bind_eq_some_iff.1 told
  obtain ⟨e, failed, htext⟩ := Option.bind_eq_some_iff.1 htext
  cases e with
  | breakdown b => cases htext
  | fault f =>
    obtain rfl := Option.some.inj htext
    have loading := LoadingFails.settings accepted rfl (errorOf?_eq_some_iff.1 failed)
    obtain ⟨j, files, hrun⟩ := run_of_loadingFails asked loading "now"
    refine ⟨_, f, asked, loading, ?_⟩
    rw [hrun, Ending.failed_of_render_error (errorOf?_eq_some_iff.1 unopened)]
    rfl

end Command

end CodeMetrics
