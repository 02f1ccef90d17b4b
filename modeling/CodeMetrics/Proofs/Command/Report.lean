import CodeMetrics.Proofs.Command.Line
import CodeMetrics.Proofs.Record.Reader
import CodeMetrics.Proofs.Report.Results
import CodeMetrics.Proofs.Storage.Files

/-!
# All or nothing

A run of the report prints either the whole report or nothing (`report_all_or_nothing`): the report
on what stands in the records, under the settings that the command line and what lies around it say.
Once the settings are loaded and the records are read and analysed, nothing in the report can fail
any more: what was read from a file can be printed and written (`report_failure_of_loaded`).  Until
then nothing is printed.
-/

namespace CodeMetrics

/-! ## Reports on records of a file -/

section

variable {rs : List FileRecord} {a : Analysis} {path : String} {node : Node}

/-- The lengths of files, which are signed words, are short to write. -/
theorem file_size_lt_unwritable : 2 * 2 ^ 63 < Value.unwritable := by decide +kernel

theorem FileRecord.Bounded.printable_row {size : Nat} {r : FileRecord} (h : r.Bounded size)
    (hsize : size < Value.unwritable) : (FileStat.ofRecord r).row.all Value.printable := by
  obtain ⟨fields, subs, packages⟩ := h
  have hpath := Json.printable_of_isBounded r.path (fields r.path (by simp [FileRecord.fields]))
  have hmain := Json.printable_of_isBounded r.main.lines
    (fields r.main.lines (by simp [FileRecord.fields, MainCode.fields]))
  have count (n : Nat) (hn : n ≤ size) : (Value.int n).printable := by
    rw [Value.printable, decide_eq_true_eq, Int.natAbs_natCast]
    omega
  simp only [FileStat.row, FileStat.ofRecord, List.all_cons, List.all_nil, hpath, hmain,
    count _ subs, count _ packages, FileRecord.subCount, FileRecord.packageCount, Bool.and_true]

/-- Each field of a subroutine that was read can be printed. -/
theorem FileRecord.Bounded.printable_sub {size : Nat} {r : FileRecord} (h : r.Bounded size)
    {s : Subroutine} (hs : s ∈ r.subs) {v : Value} (hv : v ∈ s.fields) :
    v.printable ∧ Json.unwritable? v = none := by
  have hmem : v ∈ r.fields := by
    simp only [FileRecord.fields, List.mem_append, List.mem_flatMap]
    exact .inl (.inr ⟨s, hs, hv⟩)
  have hbounded := h.fields v hmem
  exact ⟨Json.printable_of_isBounded v hbounded, Json.unwritable?_of_isBounded v hbounded⟩

/-- What was read from a file is short enough to be printed, whatever the settings. -/
theorem Settings.prints_of_loadRecords (c : Settings) (loaded : loadRecords path node = .ok rs)
    (sized : ∀ octets, node = .file octets → octets.length < 2 ^ 63) : c.Prints rs := by
  obtain ⟨octets, hnode, bounded⟩ := bounded_of_loadRecords loaded
  have hsize : 2 * octets.length + 1 < Value.unwritable := by
    have := sized octets hnode
    have := file_size_lt_unwritable
    omega
  refine ⟨fun _ r hr => (bounded r hr).printable_row hsize, fun s hs => ?_⟩
  obtain ⟨⟨r, hr, hs⟩, -⟩ := mem_retained_iff.1 hs
  exact Subroutine.prints_of_fields fun v hv => ((bounded r hr).printable_sub hs hv).1

/-- A report on records of a file gets to its end if there are numbers to compare. -/
theorem report_failure_of_loaded (c : Settings) (loaded : loadRecords path node = .ok rs)
    (sized : ∀ octets, node = .file octets → octets.length < 2 ^ 63) (numeric : HasNumbers rs)
    (analysed : analyze rs = .ok a) (earlier : List Finding) :
    (report c a earlier).failure = none := by
  obtain ⟨hfiles, hsubs⟩ :=
    (Settings.prints_iff numeric analysed).1 (c.prints_of_loadRecords loaded sized)
  refine report_failure_eq_none_iff.2 ⟨hfiles, hsubs, fun s hs => ?_⟩
  rw [Settings.listed_of_analyze analysed] at hs
  obtain ⟨octets, -, bounded⟩ := bounded_of_loadRecords loaded
  obtain ⟨⟨r, hr, hs⟩, -⟩ := Settings.mem_retained_iff.1 hs
  exact ((bounded r hr).printable_sub hs (v := s.lineNumber) (by simp [Subroutine.fields])).2

end

/-! ## Endings -/

/-- The run failed and printed nothing. -/
def Ending.FailsSilently (e : Ending) : Prop := e.exitCode ≠ 0 ∧ e.stdout = ""

theorem Ending.failsSilently_crashed (files : Files) (log : List LogEntry) (c : Crash) :
    (crashed "" files log c).FailsSilently := ⟨Nat.one_ne_zero, rfl⟩

namespace Command

theorem failsSilently_fail (files : Files) (log : List LogEntry) (f : Failure) :
    (fail files log f).FailsSilently := by
  cases f with
  | fault f =>
    show (Ending.failed files log f.text).FailsSilently
    unfold Ending.failed
    split
    · exact ⟨Nat.one_ne_zero, rfl⟩
    · exact Ending.failsSilently_crashed ..
  | breakdown b => exact Ending.failsSilently_crashed ..

/-! ## The steps of a run -/

/-- The records under a path. -/
def recordsAt (files : Files) (path : String) : Except Failure (List FileRecord) :=
  loadRecords (Path.tidy path) (files.look (Path.tidy path))

variable {files : Files} {path : String}

theorem onRecords_of_analyze {rs : List FileRecord} {a : Analysis}
    (loaded : recordsAt files path = .ok rs) (analysed : analyze rs = .ok a)
    (next : List LogEntry → Analysis → Ending) :
    onRecords files path next = next [recordsRead rs, a.entry] a := by
  unfold recordsAt at loaded
  unfold onRecords
  simp only [loaded, analysed]

theorem onRecords_failsSilently
    (h : ¬ ∃ rs a, recordsAt files path = .ok rs ∧ analyze rs = .ok a)
    (next : List LogEntry → Analysis → Ending) : (onRecords files path next).FailsSilently := by
  unfold recordsAt at h
  unfold onRecords
  dsimp only
  split
  · exact failsSilently_fail ..
  · next rs loaded =>
    split
    · exact failsSilently_fail ..
    · next a analysed => exact absurd ⟨rs, a, loaded, analysed⟩ h

/-- The settings and the analysis that a report is made of. -/
structure Prepares (s : Surroundings) (files : Files) (r : ReportRequest) (c : Settings)
    (a : Analysis) : Prop where
  settings : Settings.load (sources s files r) = .ok c
  analysis : ∃ rs, recordsAt files r.records = .ok rs ∧ analyze rs = .ok a
  printable : c.printable

variable {s : Surroundings} {r : ReportRequest}

theorem loadAndReport_of_prepares {c : Settings} {a : Analysis} (h : Prepares s files r c a)
    (succeeds : (report c a []).failure = none) :
    (loadAndReport s files r).exitCode = 0 ∧
      (loadAndReport s files r).stdout = (report c a []).text := by
  obtain ⟨settings, ⟨rs, loaded, analysed⟩, printable⟩ := h
  unfold loadAndReport
  simp only [settings]
  rw [onRecords_of_analyze loaded analysed]
  unfold printReport
  simp only [printable, succeeds]
  exact ⟨rfl, rfl⟩

theorem loadAndReport_failsSilently (h : ¬ ∃ c a, Prepares s files r c a) :
    (loadAndReport s files r).FailsSilently := by
  unfold loadAndReport
  split
  · exact failsSilently_fail ..
  · next c settings =>
    by_cases hrecords : ∃ rs a, recordsAt files r.records = .ok rs ∧ analyze rs = .ok a
    · obtain ⟨rs, a, loaded, analysed⟩ := hrecords
      rw [onRecords_of_analyze loaded analysed]
      unfold printReport
      split
      · next printable => exact absurd ⟨c, a, settings, ⟨rs, loaded, analysed⟩, printable⟩ h
      · exact Ending.failsSilently_crashed ..
    · exact onRecords_failsSilently hrecords _

/-! ## The file of the journal -/

/-- Setting the journal up may make its file, and does nothing else to the files. -/
theorem look_setup {verbose quiet : Bool} {log : String} {j : Journal} {files' : Files}
    (h : Journal.setup verbose quiet log files = .ok (j, files')) (path : String) :
    (files.look path).Gives (files'.look path) := by
  unfold Journal.setup at h
  dsimp only at h
  split at h
  · obtain ⟨-, rfl⟩ := Prod.mk.inj (Except.ok.inj h)
    exact .inl rfl
  · obtain ⟨opened, hopen, h⟩ := bind_eq_ok_iff.1 h
    obtain ⟨-, rfl⟩ := Prod.mk.inj (Except.ok.inj h)
    exact Files.look_openForAppend hopen path

theorem readFile_empty (path : String) : Settings.readFile path (.file []) = .ok [] := rfl

/-- An empty settings file of the project says as much as none. -/
theorem readProject_of_gives {before after : Node} (h : before.Gives after) (directory : String) :
    Settings.readProject directory after = Settings.readProject directory before := by
  obtain h | ⟨rfl, rfl | rfl⟩ := h
  · rw [h]
  · simp only [Settings.readProject, Node.present, reduceIte, readFile_empty, Bool.false_eq_true]
  · simp only [Settings.readProject, Node.present, reduceIte, Bool.false_eq_true]

/-- A file that a request must find is still there when the journal has been set up. -/
theorem look_tidy_of_isFile {files' : Files} (h : (files.look path).isFile)
    (gives : ∀ p, (files.look p).Gives (files'.look p)) :
    files'.look (Path.tidy path) = files.look (Path.tidy path) :=
  (gives (Path.tidy path)).eq_of_ne_absent (Files.look_tidy_ne_absent h)

theorem recordsAt_of_gives {files' : Files} (h : (files.look path).isFile)
    (gives : ∀ p, (files.look p).Gives (files'.look p)) :
    recordsAt files' path = recordsAt files path := by
  unfold recordsAt
  rw [look_tidy_of_isFile h gives]

/-- The request that arguments make, whose files are there. -/
theorem of_checkReport {look : String → Node} {arguments : ReportArguments} {records : String}
    (h : Request.checkReport look arguments records = .ok r) :
    r.records = records ∧ (look records).isFile ∧
      ∀ config, r.config = some config → (look config).isFile := by
  obtain ⟨lines, complexity, -, -, hrecords, hconfig, -, rfl⟩ := Request.checkReport_eq_ok_iff.1 h
  exact ⟨rfl, hrecords, hconfig⟩

theorem load_sources_of_gives {files' : Files} (gives : ∀ p, (files.look p).Gives (files'.look p))
    (config : ∀ path, r.config = some path → (files.look path).isFile) :
    Settings.load (sources s files' r) = Settings.load (sources s files r) := by
  have hproject := readProject_of_gives (gives Settings.projectFile) s.directory
  have hnamed : (r.config.map fun path => (Path.tidy path, files'.look (Path.tidy path))) =
      r.config.map fun path => (Path.tidy path, files.look (Path.tidy path)) := by
    cases hr : r.config with
    | none => rw [Option.map_none, Option.map_none]
    | some path =>
      have hlook := look_tidy_of_isFile (config path hr) gives
      rw [Option.map_some, Option.map_some, hlook]
  unfold Settings.load Settings.merge sources
  simp only [hproject, hnamed]

/-- What a report is made of does not depend on whether the journal has been set up. -/
theorem prepares_iff_of_gives {files' : Files} (gives : ∀ p, (files.look p).Gives (files'.look p))
    (records : (files.look r.records).isFile)
    (config : ∀ path, r.config = some path → (files.look path).isFile) {c : Settings}
    {a : Analysis} : Prepares s files' r c a ↔ Prepares s files r c a := by
  have hload := load_sources_of_gives (s := s) gives config
  have hrecords := recordsAt_of_gives records gives
  constructor
  · rintro ⟨settings, analysis, printable⟩
    exact ⟨hload ▸ settings, hrecords ▸ analysis, printable⟩
  · rintro ⟨settings, analysis, printable⟩
    exact ⟨hload.symm ▸ settings, hrecords.symm ▸ analysis, printable⟩

/-- Once the journal is set up, a report is printed whole if there is what it is made of, and
otherwise nothing is printed. -/
theorem loadAndReport_cases {files' : Files} (gives : ∀ p, (files.look p).Gives (files'.look p))
    (isFile : (files.look r.records).isFile)
    (config : ∀ path, r.config = some path → (files.look path).isFile)
    (numeric : ∀ rs, recordsAt files r.records = .ok rs → HasNumbers rs)
    (sized : ∀ octets, files.look (Path.tidy r.records) = .file octets → octets.length < 2 ^ 63) :
    let ending := loadAndReport s files' r
    (∃ c a, Prepares s files r c a ∧ (report c a []).failure = none ∧ ending.exitCode = 0 ∧
        ending.stdout = (report c a []).text) ∨
      (¬ ∃ c a, Prepares s files r c a) ∧ ending.FailsSilently := by
  by_cases prepared : ∃ c a, Prepares s files r c a
  · obtain ⟨c, a, h⟩ := prepared
    obtain ⟨rs, loaded, analysed⟩ := h.analysis
    have succeeds := report_failure_of_loaded c loaded sized (numeric rs loaded) analysed []
    have h' := (prepares_iff_of_gives gives isFile config).2 h
    exact .inl ⟨c, a, h, succeeds, loadAndReport_of_prepares h' succeeds⟩
  · refine .inr ⟨prepared, loadAndReport_failsSilently fun ⟨c, a, h⟩ => prepared ⟨c, a, ?_⟩⟩
    exact (prepares_iff_of_gives gives isFile config).1 h

/-- How the run of a request ends whose files are there. -/
theorem runReport_all_or_nothing (stamp : String) (isFile : (s.files.look r.records).isFile)
    (config : ∀ path, r.config = some path → (s.files.look path).isFile)
    (numeric : ∀ rs, recordsAt s.files r.records = .ok rs → HasNumbers rs)
    (sized : ∀ octets, s.files.look (Path.tidy r.records) = .file octets →
      octets.length < 2 ^ 63) :
    let ending := runReport stamp s r
    let journal := Journal.setup r.verbose r.quiet ((r.logFile.map Path.tidy).getD "") s.files
    ((ending.exitCode = 0 ∧ ∃ c rs a, Settings.load (sources s s.files r) = .ok c ∧
          recordsAt s.files r.records = .ok rs ∧ analyze rs = .ok a ∧
          (report c a []).failure = none ∧ ending.stdout = (report c a []).text) ∨
        (ending.exitCode ≠ 0 ∧ ending.stdout = "")) ∧
      (ending.exitCode = 0 ↔ (∃ opened, journal = .ok opened) ∧
        ∃ c rs a, Settings.load (sources s s.files r) = .ok c ∧ c.printable ∧
          recordsAt s.files r.records = .ok rs ∧ analyze rs = .ok a) ∧
      ∀ j files f, journal = .ok (j, files) → Settings.load (sources s s.files r) = .error f →
        ending = writeLog stamp j (fail files [] f) := by
  unfold runReport
  cases journal : Journal.setup r.verbose r.quiet ((r.logFile.map Path.tidy).getD "") s.files with
  | error f =>
    simp only [journal]
    refine ⟨.inr (Ending.failsSilently_crashed ..), ?_, nofun⟩
    exact iff_of_false Nat.one_ne_zero fun h => nomatch h.1
  | ok opened =>
    obtain ⟨j, files⟩ := opened
    have gives := look_setup journal
    simp only [journal]
    obtain ⟨c, a, h, succeeds, code, stdout⟩ | ⟨unprepared, silent⟩ :=
      loadAndReport_cases (s := s) gives isFile config numeric sized
    · obtain ⟨settings, ⟨rs, loaded, analysed⟩, printable⟩ := h
      refine ⟨.inl ⟨code, c, rs, a, settings, loaded, analysed, succeeds, stdout⟩, ?_, ?_⟩
      · exact iff_of_true code ⟨⟨_, rfl⟩, c, rs, a, settings, printable, loaded, analysed⟩
      · intro _ _ f _ failed
        rw [settings] at failed
        cases failed
    · refine ⟨.inr silent, iff_of_false silent.1 ?_, ?_⟩
      · rintro ⟨-, c, rs, a, settings, printable, loaded, analysed⟩
        exact unprepared ⟨c, a, settings, ⟨rs, loaded, analysed⟩, printable⟩
      · rintro _ _ f ⟨⟩ failed
        rw [← load_sources_of_gives gives config] at failed
        unfold loadAndReport
        rw [failed]

end Command

open Command ReportOption in
/-- The command lines that the program accepts for a report on some records are those that ask for
one and say options (`AsksFor`), which give the settings a value for each option that is there and
nothing for the others (`Gives`), and that name files which are there (`Found`).

Take any of them.  Whenever the records can be read, let the fields that are compared be numbers; the
length of their file is a signed word.  The run then ends with code 0 and prints exactly the report
on the analysis of the records under the settings that are loaded from the project, the file that is
named, the environment and what the options give; or it ends with another code and prints nothing.
It ends with code 0 exactly when the file of the journal can be opened, the settings can be loaded
and shown, and the records can be read and analysed.  If the settings cannot be loaded, their failure
is the one that is reported, whatever the records are.  Texts are made of whole characters: an
escaped half of one in the records is read as U+FFFD (`Json.ofUnit`). -/
theorem report_all_or_nothing (stamp : String) (s : Surroundings) (args : List String)
    (records : String) :
    ((∃ arguments r, Request.read args = .ok (.report arguments records) ∧
        Request.checkReport s.files.look arguments records = .ok r) ↔
      ∃ said given, AsksFor args said records ∧ Gives said given ∧
        Found s.files.look said records) ∧
    ∀ said given, AsksFor args said records → Gives said given → Found s.files.look said records →
      (∀ rs, recordsAt s.files records = .ok rs → HasNumbers rs) →
      (∀ octets, s.files.look (Path.tidy records) = .file octets → octets.length < 2 ^ 63) →
      let ending := Command.run stamp s args
      let loaded := Settings.load (ReportOption.sources s said given)
      let journal := Journal.setup (decide (verbose ∈ said)) (decide (quiet ∈ said))
        (((last? logFile? said).map Path.tidy).getD "") s.files
      ((ending.exitCode = 0 ∧ ∃ c rs a, loaded = .ok c ∧
            recordsAt s.files records = .ok rs ∧ analyze rs = .ok a ∧
            (report c a []).failure = none ∧ ending.stdout = (report c a []).text) ∨
          (ending.exitCode ≠ 0 ∧ ending.stdout = "")) ∧
        (ending.exitCode = 0 ↔ (∃ opened, journal = .ok opened) ∧
          ∃ c rs a, loaded = .ok c ∧ c.printable ∧
            recordsAt s.files records = .ok rs ∧ analyze rs = .ok a) ∧
        ∀ j files f, journal = .ok (j, files) → loaded = .error f →
          ending = writeLog stamp j (fail files [] f) := by
  refine ⟨accepted_iff, fun said given asks gives found numeric sized => ?_⟩
  obtain ⟨r, hr, hrun⟩ := run_of_asksFor stamp asks gives found
  obtain rfl := hr.records
  have config : ∀ path, r.config = some path → (s.files.look path).isFile := by
    rw [hr.config]
    exact found.config
  rw [hrun, ← hr.sources_eq, ← hr.verbose, ← hr.quiet, ← hr.log]
  exact runReport_all_or_nothing stamp found.records config numeric sized

/-- A directory with a file that holds one record. -/
def sampleSurroundings : Surroundings where
  files :=
    let sub : Value := .dict [("name", .text "new"), ("path", .text "lib/A.pm"),
      ("line_number", .int 3), ("lines", .int 70), ("mccabe_complexity", .int 12)]
    let record : Value := .dict [("path", .text "lib/A.pm"), ("lines", .int 80),
      ("subs", .list [sub])]
    [(["records.json"], .file (String.ofList (Json.text (.list [record]))).toUTF8.data.toList)]
  directory := "/work"
  environment := fun _ => none

theorem report_all_or_nothing_sample :
    let s := sampleSurroundings
    let args := ["report", "--max-sub-lines=90", "-qv", "records.json", "--max-sub-lines", "7",
      "--only-json"]
    let said : List ReportOption :=
      [.maxLines "90", .quiet, .verbose, .maxLines "7", .machineOnly true]
    let given : List (String × Value) := [("max_sub_lines", .int 7), ("max_sub_complexity", .null),
      ("show_only_errors", .null), ("only_machine_output", .bool true)]
    ReportOption.AsksFor args said "records.json" ∧ ReportOption.Gives said given ∧
      ReportOption.Found s.files.look said "records.json" ∧
      (∀ rs, Command.recordsAt s.files "records.json" = .ok rs → HasNumbers rs) ∧
      (∀ octets, s.files.look (Path.tidy "records.json") = .file octets →
        octets.length < 2 ^ 63) ∧
      ∃ c rs a, Settings.load (ReportOption.sources s said given) = .ok c ∧ c.maxLines = 7 ∧
        Command.recordsAt s.files "records.json" = .ok rs ∧ analyze rs = .ok a ∧
        (Command.run "now" s args).stdout = (report c a []).text := by
  intro s args said given
  have maxLines : ("--max-sub-lines", OptionForm.valued .maxLines) ∈ ReportOption.forms := by
    simp [ReportOption.forms]
  have long : "--max-sub-lines".startsWith "--" := by decide +kernel
  have letters : ReportOption.Letters ['q', 'v'] [.quiet, .verbose] :=
    .bare (by simp [ReportOption.forms]) (.bare (by simp [ReportOption.forms]) .nil)
  have onlyJson : ReportOption.Word "--only-json" [.machineOnly true] :=
    .bare (by simp [ReportOption.forms]) (by decide +kernel)
  have asks : ReportOption.AsksFor args said "records.json" :=
    ⟨_, .inl rfl, .word (.valued maxLines long "90") (.word (.letters letters (List.cons_ne_nil _ _))
      (.other (.inr (by decide +kernel)) (.openWord (.valued maxLines long) "7"
        (.word onlyJson .nil))))⟩
  have gives : ReportOption.Gives said given :=
    .intro (.number (by decide +kernel)) .absent .absent (.given true)
  have found : ReportOption.Found s.files.look said "records.json" :=
    ⟨by decide +kernel, fun _ absent => (by cases absent), fun _ absent => (by cases absent)⟩
  have numbers : (Command.recordsAt s.files "records.json").toOption.map (fun rs =>
      decide (∀ r ∈ rs, ∀ s ∈ r.subs, s.lines.number?.isSome ∧ s.complexity.number?.isSome)) =
        some true := by
    decide +kernel
  have length : ((s.files.look (Path.tidy "records.json")).contents.toOption.map List.length).getD
      0 < 2 ^ 63 := by
    decide +kernel
  have ends : (Command.run "now" s args).exitCode = 0 := by decide +kernel
  have lines : (Settings.load (ReportOption.sources s said given)).toOption.map
      (fun c => c.maxLines) = some 7 := by
    decide +kernel
  have numeric : ∀ rs, Command.recordsAt s.files "records.json" = .ok rs → HasNumbers rs := by
    intro rs loaded
    rw [loaded] at numbers
    have decided := of_decide_eq_true (Option.some.inj numbers)
    exact decided
  have sized : ∀ octets, s.files.look (Path.tidy "records.json") = .file octets →
      octets.length < 2 ^ 63 := by
    intro octets found
    rwa [found] at length
  refine ⟨asks, gives, found, numeric, sized, ?_⟩
  obtain ⟨⟨-, c, rs, a, settings, loaded, analysed, -, stdout⟩ | ⟨code, -⟩, -⟩ :=
    (report_all_or_nothing "now" s args "records.json").2 said given asks gives found numeric sized
  · rw [settings] at lines
    exact ⟨c, rs, a, settings, Option.some.inj lines, loaded, analysed, stdout⟩
  · exact absurd ends code

end CodeMetrics
