import CodeMetrics.Proofs.Journal.Basic
import CodeMetrics.Proofs.Journal.Tree
import Mathlib.Data.List.Basic
import Mathlib.Data.List.Induction

/-!
# The journal over a session

In a session the journal is set up any number of times and entries are logged in between.  After any
run the journal is the one of the last set-up that succeeded, and each file holds what it held at the
start and then one line for each entry that was important enough and logged while the journal wrote
to that file (`perform_spec` for one step, `after_spec` for a run, `journal_session`).
-/

namespace CodeMetrics

/-! ## Runs -/

/-- What the steps of a run give, each seen after the steps before it. -/
def along {α β : Type} (f : List α → α → Option β) (run : List α) : List β :=
  (List.range run.length).filterMap fun i => run[i]?.bind (f (run.take i))

theorem along_concat {α β : Type} (f : List α → α → Option β) (run : List α) (x : α) :
    along f (run ++ [x]) = along f run ++ (f run x).toList := by
  have before : ∀ i ∈ List.range run.length,
      (run ++ [x])[i]?.bind (f ((run ++ [x]).take i)) = run[i]?.bind (f (run.take i)) := by
    intro i hi
    have hlt := List.mem_range.1 hi
    rw [List.getElem?_append_left hlt, List.take_append_of_le_length (Nat.le_of_lt hlt)]
  unfold along
  rw [List.length_append, List.length_singleton, List.range_succ, List.filterMap_append,
    List.filterMap_congr before]
  cases h : f run x <;> simp [h]

/-- The journal that a step sets up: it is a set-up without a file, or its file can be opened. -/
def JournalStep.sets? (files : Files) : JournalStep → Option Journal
  | .setup verbose quiet path =>
    if path = "" ∨ files.opens path then some (.asked verbose quiet path) else none
  | .log .. | .read _ => none

/-- The line that a step adds to the file under some steps: it logs an entry that gets to the
journal, and the journal in force writes to this file. -/
def JournalStep.line? (passes : String → Level → Bool) (j : Journal) (t : List String)
    (stamp : String) : JournalStep → Option String
  | .log name? level text =>
    if passes (sourceNamed name?) level && j.writesTo t then
      some (LogEntry.line stamp ⟨level, sourceNamed name?, text⟩)
    else none
  | .setup .. | .read _ => none

/-- What a session keeps is in order: the file of the journal is there, and what was decided on a
source with a place in the tree is what the journal decides. -/
structure JournalState.Sound (s : JournalState) (files : Files) : Prop where
  ready : s.journal.Ready files
  judged : ∀ source level important, s.judged.lookup (source, level) = some important →
    IsPlaced source → important = decide (s.journal.level.rank ≤ level.rank)

namespace JournalState

variable {s : JournalState} {files : Files} {source : String}

/-- Entries of a source with a place in the tree are important enough if the journal says so. -/
theorem admits_of_isPlaced (sound : s.Sound files) (placed : IsPlaced source) (level : Level) :
    (s.learn source).admits source level = decide (s.journal.level.rank ≤ level.rank) := by
  have there : inTree (s.learn source).known source := inTree_of_isPlaced _ placed
  have same : (s.learn source).judged = s.judged := rfl
  unfold admits
  rw [there, same]
  cases h : s.judged.lookup (source, level) with
  | none => rfl
  | some important => exact sound.judged source level important h placed

/-- Entries of a source with a place in the tree get to the journal by their importance alone. -/
theorem passes_of_isPlaced (sound : s.Sound files) (placed : IsPlaced source) (level : Level) :
    s.passes source level = decide (s.journal.level.rank ≤ level.rank) := by
  have there : inTree (s.learn source).known source := inTree_of_isPlaced _ placed
  rw [passes, admits_of_isPlaced sound placed, there, Bool.and_true]

/-- What is outside the tree gets to no journal. -/
theorem passes_of_not_isBelow (h : ¬ IsBelow source) (s : JournalState) (level : Level) :
    s.passes source level = false := by
  have outside : inTree (s.learn source).known source = false :=
    Bool.eq_false_iff.2 (mt isBelow_of_inTree h)
  unfold passes
  rw [outside, Bool.and_false]

end JournalState

namespace Journal

/-- The state and the files after some steps, each performed at a time of its own; some sources are
known from the start. -/
def after (known : List String) (files : Files) (run : List (String × JournalStep)) :
    JournalState × Files :=
  run.foldl (fun (s, files) (stamp, step) => (perform stamp s files step).2)
    ({ JournalState.initial with known := known }, files)

/-- The journals of the set-ups that succeed in a run. -/
def setups (known : List String) (files : Files) (run : List (String × JournalStep)) :
    List Journal :=
  along (fun before (_, step) => step.sets? (after known files before).2) run

/-- The journal of the last set-up that succeeds in a run. -/
def inForce (known : List String) (files : Files) (run : List (String × JournalStep)) : Journal :=
  (setups known files run).getLastD initial

/-- The lines that a run adds to the file under some steps. -/
def linesTo (known : List String) (files : Files) (t : List String)
    (run : List (String × JournalStep)) : List String :=
  along (fun before (stamp, step) =>
    step.line? (after known files before).1.passes (inForce known files before) t stamp) run

variable {known : List String} {files : Files} {s : JournalState}

/-! ## One step -/

theorem perform_setup_of_opens (stamp : String) (s : JournalState) (verbose quiet : Bool)
    {path : String} (h : path = "" ∨ files.opens path) :
    ∃ files', perform stamp s files (.setup verbose quiet path) =
        (.isSetUp (asked verbose quiet path), ⟨asked verbose quiet path, s.known, []⟩, files') ∧
      (asked verbose quiet path).Ready files' ∧ ∀ t, files'.text t = files.text t := by
  obtain ⟨files', hsetup⟩ := setup_of_opens verbose quiet h
  refine ⟨files', ?_, ready_of_setup hsetup, text_of_setup hsetup⟩
  simp only [perform, hsetup]

theorem perform_setup_of_not_opens (stamp : String) (s : JournalState) (verbose quiet : Bool)
    {path : String} (h : ¬ (path = "" ∨ files.opens path)) :
    ∃ f, perform stamp s files (.setup verbose quiet path) = (.notSetUp f, s, files) := by
  obtain ⟨f, hsetup⟩ := setup_of_not_opens verbose quiet h
  refine ⟨f, ?_⟩
  simp only [perform, hsetup]

theorem perform_read (stamp : String) (s : JournalState) (files : Files) (path : String) :
    (perform stamp s files (.read path)).2 = (s, files) := by
  unfold perform
  dsimp only
  cases files.look path <;> rfl

/-- Logging leaves what a session keeps in order. -/
theorem sound_log (stamp : String) (sound : s.Sound files) (name? : Option String) (level : Level)
    (text : String) :
    (perform stamp s files (.log name? level text)).2.1.Sound
      (perform stamp s files (.log name? level text)).2.2 where
  ready := by
    unfold perform
    dsimp only
    split
    · exact ready_write stamp sound.ready _
    · exact sound.ready
  judged := by
    intro source level' important hlookup placed
    have judged : (perform stamp s files (.log name? level text)).2.1.judged =
      ((sourceNamed name?, level), (s.learn (sourceNamed name?)).admits (sourceNamed name?) level) ::
        s.judged := rfl
    rw [judged, List.lookup_cons] at hlookup
    split at hlookup
    · next same =>
      obtain ⟨rfl, rfl⟩ := Prod.mk.inj (eq_of_beq same)
      obtain rfl := Option.some.inj hlookup
      exact JournalState.admits_of_isPlaced sound placed level'
    · exact sound.judged source level' important hlookup placed

/-- A step of a session puts another journal in force only if it is a set-up that succeeds, and adds
at most one line, to the file of the journal. -/
theorem perform_spec (stamp : String) (sound : s.Sound files) (step : JournalStep) :
    (perform stamp s files step).2.1.journal = (step.sets? files).getD s.journal ∧
      (perform stamp s files step).2.1.Sound (perform stamp s files step).2.2 ∧
      ∀ t, (perform stamp s files step).2.2.text t =
        files.text t ++ (step.line? s.passes s.journal t stamp).toList.flatMap octetsOf := by
  cases step with
  | setup verbose quiet path =>
    unfold JournalStep.sets? JournalStep.line?
    dsimp only
    by_cases hopen : path = "" ∨ files.opens path
    · obtain ⟨files', hperform, hready, htext⟩ :=
        perform_setup_of_opens stamp s verbose quiet hopen
      rw [hperform, if_pos hopen]
      exact ⟨rfl, ⟨hready, fun _ _ _ h => by cases h⟩, fun t => by simp [htext]⟩
    · obtain ⟨f, hperform⟩ := perform_setup_of_not_opens stamp s verbose quiet hopen
      rw [hperform, if_neg hopen]
      exact ⟨rfl, sound, fun t => by simp⟩
  | log name? level text =>
    refine ⟨rfl, sound_log stamp sound name? level text, fun t => ?_⟩
    have hwrite := text_write stamp sound.ready ⟨level, sourceNamed name?, text⟩ t
    unfold perform JournalStep.line?
    dsimp only
    cases s.passes (sourceNamed name?) level with
    | false => simp
    | true =>
      rw [if_pos rfl, hwrite, Bool.true_and]
      congr 1
      split <;> simp only [Option.toList_some, Option.toList_none, List.flatMap_singleton,
        List.flatMap_nil]
  | read path =>
    rw [perform_read]
    exact ⟨rfl, sound, fun t => by simp [JournalStep.line?]⟩

/-! ## A run -/

theorem after_concat (known : List String) (files : Files) (run : List (String × JournalStep))
    (stamp : String) (step : JournalStep) :
    after known files (run ++ [(stamp, step)]) =
      (perform stamp (after known files run).1 (after known files run).2 step).2 := by
  unfold after
  rw [List.foldl_append]
  rfl

theorem after_spec (known : List String) (files : Files) (run : List (String × JournalStep)) :
    (after known files run).1.journal = inForce known files run ∧
      (after known files run).1.Sound (after known files run).2 ∧
      ∀ t, (after known files run).2.text t =
        files.text t ++ (linesTo known files t run).flatMap octetsOf := by
  -- A step is judged by what the steps before it leave, so the run grows at its end.
  induction run using List.reverseRecOn with
  | nil =>
    exact ⟨rfl, ⟨ready_initial files, fun _ _ _ h => by cases h⟩, fun t => (List.append_nil _).symm⟩
  | append_singleton run last ih =>
    obtain ⟨stamp, step⟩ := last
    obtain ⟨hforce, hsound, htext⟩ := ih
    obtain ⟨hforce', hsound', htext'⟩ := perform_spec stamp hsound step
    rw [after_concat]
    refine ⟨?_, hsound', fun t => ?_⟩
    · rw [hforce', hforce, inForce, inForce, setups, setups, along_concat]
      cases hsets : step.sets? (after known files run).2 with
      | none => simp [hsets]
      | some j => simp [hsets]
    · rw [htext', htext, hforce, linesTo, linesTo, along_concat, List.flatMap_append,
        List.append_assoc]

/-- A session shows for its last step what this gives after the steps before it. -/
theorem performAll_concat (known : List String) (files : Files) (stamp : String)
    (steps : List JournalStep) (step : JournalStep) :
    let shown := performAll stamp { JournalState.initial with known := known } files
    let state := after known files (steps.map (stamp, ·))
    shown (steps ++ [step]) = shown steps ++ [(perform stamp state.1 state.2 step).1] := by
  dsimp only
  unfold after
  generalize ({ JournalState.initial with known := known } : JournalState) = s
  induction steps generalizing s files with
  | nil => rfl
  | cons first rest ih =>
    have hrest := ih (perform stamp s files first).2.2 (perform stamp s files first).2.1
    exact congrArg ((perform stamp s files first).1 :: ·) hrest

/-- After any steps the journal is the one that the last successful set-up asked for, a set-up
succeeds exactly if its file can be opened and otherwise leaves everything as it was, and each file
has got one line for each entry that got to the journal while it wrote to that file.  Under a name
whose first part is not empty, entries get there by their importance alone.  What a session shows
for a step is what this gives after the steps before it. -/
theorem journal_session (known : List String) (files : Files)
    (run : List (String × JournalStep)) :
    (after known files run).1.journal = inForce known files run ∧
      (∀ stamp verbose quiet path,
        let set := perform stamp (after known files run).1 (after known files run).2
          (.setup verbose quiet path)
        if path = "" ∨ (after known files run).2.opens path then
          set.1 = .isSetUp (asked verbose quiet path)
        else ∃ f, set = (.notSetUp f, after known files run)) ∧
      (∀ t, (after known files run).2.text t =
        files.text t ++ (linesTo known files t run).flatMap octetsOf) ∧
      (∀ name? level, HasPlace name? →
        ((after known files run).1.passes (sourceNamed name?) level ↔
          (inForce known files run).level.rank ≤ level.rank)) ∧
      ∀ stamp steps step, run = steps.map (stamp, ·) →
        let shown := performAll stamp { JournalState.initial with known := known } files
        shown (steps ++ [step]) = shown steps ++
          [(perform stamp (after known files run).1 (after known files run).2 step).1] := by
  obtain ⟨hforce, hsound, htext⟩ := after_spec known files run
  refine ⟨hforce, fun stamp verbose quiet path => ?_, htext, fun name? level hplace => ?_, ?_⟩
  · split
    · next hopen =>
      obtain ⟨files', hperform, -⟩ :=
        perform_setup_of_opens stamp (after known files run).1 verbose quiet hopen
      rw [hperform]
    · next hclosed => exact perform_setup_of_not_opens stamp _ verbose quiet hclosed
  · rw [JournalState.passes_of_isPlaced hsound (isPlaced_sourceNamed hplace), hforce,
      decide_eq_true_eq]
  · rintro stamp steps step rfl
    exact performAll_concat known files stamp steps step

def sampleRun : List (String × JournalStep) :=
  [("1", .log none .error "early"), ("2", .setup false false "run.log"),
    ("3", .log (some "engine") .warning "kept"), ("4", .log none .info "unimportant"),
    ("5", .setup false true "missing/run.log"), ("6", .log (some "metrics_lite.cli") .warning "still"),
    ("7", .setup true false "run.log"), ("8", .log (some "metrics_lite") .debug "twice"),
    ("9", .setup false true ""), ("10", .log none .critical "elsewhere")]

def sampleFiles : Files := [(["run.log"], .file (octetsOf "old\n"))]

theorem journal_session_sample :
    HasPlace (some "engine") ∧
      (after [] sampleFiles sampleRun).1.journal.level = .error ∧
      (after [] sampleFiles sampleRun).1.journal.handlers = [.terminal] ∧
      (after [] sampleFiles sampleRun).2.text ["run.log"] = octetsOf ("old\n" ++
        "3 - metrics_lite.engine - WARNING - kept\n" ++
        "6 - metrics_lite.cli - WARNING - still\n" ++ "8 - metrics_lite - DEBUG - twice\n") ∧
      ((after [] sampleFiles sampleRun).1.passes (sourceNamed (some "engine")) .critical ↔
        (inForce [] sampleFiles sampleRun).level.rank ≤ Level.critical.rank) := by
  have placed : HasPlace (some "engine") := by decide +kernel
  obtain ⟨hforce, -, htext, hplaced, -⟩ := journal_session [] sampleFiles sampleRun
  rw [hforce, htext]
  exact ⟨placed, by decide +kernel, by decide +kernel, by decide +kernel,
    hplaced (some "engine") .critical placed⟩

/-- Under a name that begins with a point an entry is lost: its source has an empty part behind the
root, and nothing was logged under a source that it could hang below. -/
theorem entry_of_empty_part_lost :
    ¬ ".x".startsWith rootSource ∧
      (after [] [] [("1", .setup false false "run.log")]).1.journal.level = .warning ∧
      (after [] [] [("1", .setup false false "run.log")]).1.journal.handlers =
        [.terminal, .file "run.log"] ∧
      (after [] [] [("1", .setup false false "run.log"),
        ("2", .log (some ".x") .error "lost")]).2.text ["run.log"] = [] := by
  decide +kernel

end Journal

end CodeMetrics
