import CodeMetrics.Proofs.Command.Options
import CodeMetrics.Proofs.Command.Report
import CodeMetrics.Proofs.Journal.Basic

/-!
# The journal stays out of the output

How much the journal takes and whether it has a file decides nothing else.  Two runs whose requests
differ only in that end with the same code, print the same and fail alike (`runs_agree`); of the
files only that of the journal changes.
-/

namespace CodeMetrics

/-! ## What is apart from the journal -/

/-- The ending without what the journal took. -/
def Ending.withoutJournal (e : Ending) : Ending := { e with files := [], log := [] }

theorem Ending.withoutJournal_eq_iff {e e' : Ending} :
    e.withoutJournal = e'.withoutJournal ↔ e.exitCode = e'.exitCode ∧ e.stdout = e'.stdout ∧
      e.stderr = e'.stderr ∧ e.crash = e'.crash := by
  simp [withoutJournal]

/-- Nothing is different among the files but the one under a path. -/
def Files.SameBut (path? : Option String) (files files' : Files) : Prop :=
  ∀ t, (∀ path, path? = some path → t ≠ Path.directSteps path) → files'.lookup t = files.lookup t

/-- The request with what arguments ask of the journal. -/
def ReportRequest.withJournal (a : ReportArguments) (r : ReportRequest) : ReportRequest :=
  { r with verbose := a.verbose, quiet := a.quiet, logFile := a.logFile }

namespace Request

/-- The file that a request asks the journal to write to. -/
def journalFile? : Request → Option String
  | report a _ => a.logFile.map Path.tidy
  | version | summary _ => none

theorem pass_refuseDirectory {look : String → Node} {log? : Option String}
    (h : ∀ log, log? = some log → look log ≠ .directory) (r : ReportRequest) :
    (do
      if let some path := log? then refuseDirectory look path
      .ok r : Except Misuse ReportRequest) = .ok r := by
  cases log? with
  | none => rfl
  | some log =>
    dsimp only
    rw [refuseDirectory, if_neg (h log rfl)]
    rfl

/-- What a request asks of the journal is not looked at when it is checked, but for a directory that
stands in place of the file. -/
theorem checkReport_eq {look : String → Node} {a : ReportArguments}
    (h : ∀ log, a.logFile = some log → look log ≠ .directory) (records : String) :
    checkReport look a records = .withJournal a <$> checkReport look a.withoutJournal records := by
  unfold checkReport ReportArguments.withoutJournal
  simp only [map_bind]
  refine bind_congr fun _ => bind_congr fun maxLines => bind_congr fun maxComplexity => ?_
  cases a.config with
  | none => exact pass_refuseDirectory h _
  | some config =>
    simp only [map_bind]
    exact bind_congr fun _ => pass_refuseDirectory h _

/-- Arguments without those for the journal name no file for it. -/
theorem logFile_of_checkReport {look : String → Node} {a : ReportArguments} {records : String}
    {r : ReportRequest} (accepted : checkReport look a.withoutJournal records = .ok r) :
    r.logFile = none := by
  have same : checkReport look a.withoutJournal records =
      .withJournal a.withoutJournal <$> checkReport look a.withoutJournal records :=
    checkReport_eq (fun _ hlog => by cases hlog) records
  rw [accepted] at same
  exact congrArg ReportRequest.logFile (Except.ok.inj same)

end Request

namespace Command

variable {s : Surroundings} {files files' : Files} {path : String}

/-! ## The files of a run -/

theorem fail_withFiles (files files' : Files) (log : List LogEntry) (f : Failure) :
    fail files' log f = { fail files log f with files := files' } := by
  cases f with
  | breakdown b => rfl
  | fault f =>
    unfold fail Ending.failed
    dsimp only
    cases Ending.errorText f.text <;> rfl

theorem printReport_withFiles (c : Settings) (files files' : Files) (log : List LogEntry)
    (a : Analysis) :
    printReport c files' log a = { printReport c files log a with files := files' } := by
  unfold printReport
  dsimp only
  split
  · split <;> rfl
  · rfl

theorem printSummary_withFiles (files files' : Files) (log : List LogEntry) (a : Analysis) :
    printSummary files' log a = { printSummary files log a with files := files' } := by
  unfold printSummary
  by_cases printable : (Value.ofNumber a.mainLines).printable
  · rw [if_pos printable, if_pos printable]
    generalize unlines (wrap terminalWidth (totalsText a).toList) = totals
    cases summaryTable a <;> rfl
  · rw [if_neg printable, if_neg printable]
    rfl

theorem onRecords_withFiles {next next' : List LogEntry → Analysis → Ending}
    (records : recordsAt files' path = recordsAt files path)
    (h : ∀ log a, next' log a = { next log a with files := files' }) :
    onRecords files' path next' = { onRecords files path next with files := files' } := by
  unfold recordsAt at records
  unfold onRecords
  dsimp only
  rw [records]
  split
  · exact fail_withFiles ..
  · split
    · exact fail_withFiles ..
    · exact h _ _

theorem loadAndReport_withFiles {r : ReportRequest}
    (gives : ∀ p, (files.look p).Gives (files'.look p)) (records : (files.look r.records).isFile)
    (config : ∀ path, r.config = some path → (files.look path).isFile) :
    loadAndReport s files' r = { loadAndReport s files r with files := files' } := by
  have hrecords := recordsAt_of_gives records gives
  unfold loadAndReport
  rw [load_sources_of_gives gives config]
  split
  · exact fail_withFiles ..
  · exact onRecords_withFiles hrecords (printReport_withFiles _ files files')

/-- Writing the journal changes nothing that is apart from it. -/
theorem withoutJournal_writeLog (stamp : String) (j : Journal) (e : Ending) :
    (writeLog stamp j e).withoutJournal = e.withoutJournal := rfl

/-- A report for which the journal is set up ends as one without a journal does. -/
theorem runReport_spec (stamp : String) {r : ReportRequest}
    (opens : ∀ log, r.logFile.map Path.tidy = some log → s.files.opens log)
    (records : (s.files.look r.records).isFile)
    (config : ∀ path, r.config = some path → (s.files.look path).isFile) :
    (runReport stamp s r).withoutJournal = (loadAndReport s s.files r).withoutJournal ∧
      s.files.SameBut (r.logFile.map Path.tidy) (runReport stamp s r).files := by
  -- The empty path stands for no file: the journal is then set up without opening one.
  have opened : (r.logFile.map Path.tidy).getD "" = "" ∨
      s.files.opens ((r.logFile.map Path.tidy).getD "") := by
    cases hlog : r.logFile.map Path.tidy with
    | none => exact .inl rfl
    | some log => exact .inr (opens log hlog)
  obtain ⟨files, journal⟩ := Journal.setup_of_opens r.verbose r.quiet opened
  have hends := loadAndReport_withFiles (s := s) (look_setup journal) records config
  unfold runReport
  dsimp only
  rw [journal]
  dsimp only
  rw [hends]
  refine ⟨withoutJournal_writeLog .., fun t ht => ?_⟩
  have other : (r.logFile.map Path.tidy).getD "" = "" ∨
      t ≠ Path.directSteps ((r.logFile.map Path.tidy).getD "") := by
    cases hlog : r.logFile.map Path.tidy with
    | none => exact .inl rfl
    | some log => exact .inr (ht log hlog)
  exact (Journal.lookup_addAll stamp (Journal.writesTo_asked other) files _).trans
    (Journal.lookup_of_setup journal other)

theorem runSummary_eq (stamp : String) (files : Files) (r : SummaryRequest) :
    runSummary stamp files r = writeLog stamp (.asked r.verbose false "")
      (onRecords files r.records (printSummary files)) := by
  have journal : Journal.setup r.verbose false "" files = .ok (.asked r.verbose false "", files) :=
    Journal.setup_eq_ok_iff.2 ⟨rfl, by rw [if_pos rfl]⟩
  unfold runSummary
  rw [journal]

/-- A summary writes no journal to a file. -/
theorem runSummary_spec (stamp : String) (files : Files) (r : SummaryRequest) :
    (runSummary stamp files r).withoutJournal =
        (onRecords files r.records (printSummary files)).withoutJournal ∧
      files.SameBut none (runSummary stamp files r).files := by
  have kept : (onRecords files r.records (printSummary files)).files = files :=
    congrArg Ending.files (onRecords_withFiles rfl (printSummary_withFiles files files))
  rw [runSummary_eq]
  refine ⟨withoutJournal_writeLog .., fun t _ => ?_⟩
  unfold writeLog
  dsimp only
  rw [kept]
  exact Journal.lookup_addAll stamp (Journal.writesTo_asked (.inl rfl)) files _

/-- A request is met as it would be if it asked nothing of the journal. -/
theorem runRequest_spec (stamp : String) {request : Request}
    (opens : ∀ log, request.journalFile? = some log → s.files.opens log) :
    (runRequest stamp s request).withoutJournal =
        (runRequest "" s request.withoutJournal).withoutJournal ∧
      s.files.SameBut request.journalFile? (runRequest stamp s request).files := by
  cases request with
  | version => exact ⟨rfl, fun _ _ => rfl⟩
  | summary r =>
    unfold Request.withoutJournal runRequest
    dsimp only
    cases Request.requireFile s.files.look r.records with
    | error e => exact ⟨rfl, fun _ _ => rfl⟩
    | ok found =>
      obtain ⟨hends, hfiles⟩ := runSummary_spec stamp s.files r
      obtain ⟨hends', -⟩ := runSummary_spec "" s.files { r with verbose := false }
      exact ⟨hends.trans hends'.symm, hfiles⟩
  | report a records =>
    have noDirectory : ∀ log, a.logFile = some log → s.files.look log ≠ .directory := by
      intro log hlog
      apply Files.look_ne_directory
      exact opens _ (congrArg (Option.map Path.tidy) hlog)
    unfold Request.withoutJournal runRequest
    dsimp only
    rw [Request.checkReport_eq noDirectory]
    cases accepted : Request.checkReport s.files.look a.withoutJournal records with
    | error e => exact ⟨rfl, fun _ _ => rfl⟩
    | ok r =>
      obtain ⟨rfl, found, config⟩ := of_checkReport accepted
      obtain ⟨hends, hfiles⟩ := runReport_spec (r := r.withJournal a) stamp opens found config
      -- The bare request is run without a file, so there is nothing for it to open.
      obtain ⟨hends', -⟩ := runReport_spec (s := s) (r := r) ""
        (by rw [Request.logFile_of_checkReport accepted]; exact nofun) found config
      exact ⟨hends.trans hends'.symm, hfiles⟩

/-- The file that arguments ask the journal to write to. -/
def journalFile? (args : List String) : Option String :=
  (Request.read args).toOption.bind Request.journalFile?

/-- Take two command lines that ask for the same up to how much is logged and to which file, where
such a file can be opened.  Their runs end with the same code, print the same and fail alike, and
none of them touches a file but that of its journal. -/
theorem runs_agree (stamp stamp' : String) (s : Surroundings) {args args' : List String}
    (same : (Request.read args).map Request.withoutJournal =
      (Request.read args').map Request.withoutJournal)
    (opens : ∀ log, journalFile? args = some log → s.files.opens log)
    (opens' : ∀ log, journalFile? args' = some log → s.files.opens log) :
    let ending := run stamp s args
    let ending' := run stamp' s args'
    (ending.exitCode = ending'.exitCode ∧ ending.stdout = ending'.stdout ∧
        ending.stderr = ending'.stderr ∧ ending.crash = ending'.crash) ∧
      s.files.SameBut (journalFile? args) ending.files ∧
      s.files.SameBut (journalFile? args') ending'.files := by
  unfold journalFile? run at *
  cases hread : Request.read args with
  | error e =>
    cases hread' : Request.read args' with
    | error e' => exact ⟨⟨rfl, rfl, rfl, rfl⟩, fun _ _ => rfl, fun _ _ => rfl⟩
    | ok request' =>
      rw [hread, hread'] at same
      cases same
  | ok request =>
    cases hread' : Request.read args' with
    | error e' =>
      rw [hread, hread'] at same
      cases same
    | ok request' =>
      rw [hread, hread'] at same
      rw [hread] at opens
      rw [hread'] at opens'
      obtain ⟨hends, hfiles⟩ := runRequest_spec stamp opens
      obtain ⟨hends', hfiles'⟩ := runRequest_spec stamp' opens'
      have bare : request.withoutJournal = request'.withoutJournal := Except.ok.inj same
      rw [bare] at hends
      exact ⟨Ending.withoutJournal_eq_iff.1 (hends.trans hends'.symm), hfiles, hfiles'⟩

theorem runs_agree_sample :
    let s := sampleSurroundings
    let args := ["report", "records.json", "--only-json"]
    let args' := ["report", "-v", "--log-file", "run.log", "records.json", "--only-json"]
    (Request.read args).map Request.withoutJournal =
        (Request.read args').map Request.withoutJournal ∧
      journalFile? args' = some "run.log" ∧ s.files.opens "run.log" ∧
      (run "now" s args).exitCode = 0 ∧ (run "now" s args').exitCode = 0 ∧
      (run "now" s args').stdout = (run "now" s args).stdout ∧
      (run "now" s args').files.lookup ["records.json"] = s.files.lookup ["records.json"] := by
  intro s args args'
  have read : Request.read args =
      .ok (.report ⟨none, none, none, some true, none, false, false, none⟩ "records.json") :=
    toOption_eq_some_iff.1 (by decide +kernel)
  have read' : Request.read args' =
      .ok (.report ⟨none, none, none, some true, none, true, false, some "run.log"⟩
        "records.json") :=
    toOption_eq_some_iff.1 (by decide +kernel)
  have words : Request.JournalWords ["-v", "--log-file", "run.log"] :=
    .flag (by decide) (.file "run.log" .nil)
  have same : (Request.read args).map Request.withoutJournal =
      (Request.read args').map Request.withoutJournal :=
    (Request.read_journalWords words ["records.json", "--only-json"]).symm
  have file : journalFile? args = none := by
    rw [journalFile?, read]
    rfl
  have file' : journalFile? args' = some "run.log" := by
    rw [journalFile?, read']
    decide +kernel
  have opened : s.files.opens "run.log" := by decide +kernel
  have code : (run "now" s args).exitCode = 0 := by decide +kernel
  obtain ⟨⟨hcode, hstdout, -⟩, -, hfiles⟩ := runs_agree "now" "now" s same
    (by rw [file]; rintro _ ⟨⟩) (by rw [file']; rintro _ ⟨⟩; exact opened)
  refine ⟨same, file', opened, code, hcode.symm.trans code, hstdout.symm, hfiles _ ?_⟩
  rw [file']
  rintro _ ⟨⟩
  decide +kernel

end Command

end CodeMetrics
