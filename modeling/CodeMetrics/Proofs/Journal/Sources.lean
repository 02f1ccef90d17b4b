import CodeMetrics.Proofs.Journal.Session

/-!
# What becomes of an entry

A name stands for a source below the root unless it merely begins like the root, and a source stands
for itself.  Once the journal writes to a file, the entries of a name get there if they are important
enough and no part of the name in front is empty, whatever was done before and is done in between;
those of a name that merely begins like the root get nowhere (`entry_reaches_file`).  For a name with
an empty part in front it plays a role which other sources are known.
-/

namespace CodeMetrics

namespace Journal

variable {known : List String} {files : Files} {s : JournalState}

/-! ## Sessions with any names -/

/-- The step is no set-up. -/
def KeepsJournal : JournalStep → Prop
  | .setup .. => False
  | .log .. | .read _ => True

instance : DecidablePred KeepsJournal
  | .setup .. => isFalse id
  | .log .. => isTrue trivial
  | .read _ => isTrue trivial

theorem perform_of_keepsJournal (stamp : String) (s : JournalState) (files : Files)
    {step : JournalStep} (h : KeepsJournal step) :
    (perform stamp s files step).2.1.journal = s.journal := by
  cases step with
  | setup verbose quiet path => exact h.elim
  | log name? level text => rfl
  | read path => rw [perform_read]

/-- A set-up stays in force while there is no other. -/
theorem journal_after_setup {run : List (String × JournalStep)} {verbose quiet : Bool}
    {path : String} (hopen : path = "" ∨ (after known files run).2.opens path) (stamp : String)
    {more : List (String × JournalStep)} (hmore : ∀ s ∈ more, KeepsJournal s.2) :
    (after known files (run ++ (stamp, .setup verbose quiet path) :: more)).1.journal =
      asked verbose quiet path := by
  induction more using List.reverseRecOn with
  | nil =>
    obtain ⟨files', hperform, -⟩ :=
      perform_setup_of_opens stamp (after known files run).1 verbose quiet hopen
    rw [after_concat, hperform]
  | append_singleton more s ih =>
    obtain ⟨stamp', step⟩ := s
    obtain ⟨hmore, hstep⟩ := List.forall_mem_append.1 hmore
    rw [← List.cons_append, ← List.append_assoc, after_concat]
    rw [perform_of_keepsJournal stamp' _ _ (hstep (stamp', step) (List.mem_singleton_self _))]
    exact ih hmore

theorem writesTo_asked_self {path : String} (hpath : path ≠ "") (verbose quiet : Bool) :
    (asked verbose quiet path).writesTo (Path.directSteps path) := by
  unfold writesTo
  rw [paths_asked, if_neg hpath]
  simp

/-- A name stands for the root or a source below it unless it only begins like the root, and its
source stands for itself.  Let the journal be set up with a file after any session, and let no other
set-up follow.  Then each entry that is logged under the name adds its line to this file if it gets
to the journal, and otherwise adds nothing.  It gets there by its importance alone if the name has no
empty part in front, and never if the name only begins like the root. -/
theorem entry_reaches_file (name : String) :
    (IsBelow (sourceNamed (some name)) ↔ ¬ OnlyBeginsLikeRoot name) ∧
      sourceNamed (some (sourceNamed (some name))) = sourceNamed (some name) ∧
      ∀ known files run verbose quiet path, path ≠ "" → (after known files run).2.opens path →
        ∀ start more, (∀ s ∈ more, KeepsJournal s.2) → ∀ stamp level text,
          let session := run ++ (start, .setup verbose quiet path) :: more
          let arrives := (after known files session).1.passes (sourceNamed (some name)) level
          (after known files (session ++ [(stamp, .log (some name) level text)])).2.text
              (Path.directSteps path) =
            (after known files session).2.text (Path.directSteps path) ++
              (if arrives then
                octetsOf (LogEntry.line stamp ⟨level, sourceNamed (some name), text⟩)
              else []) ∧
          (HasPlace (some name) → (arrives ↔ (levelFor verbose quiet).rank ≤ level.rank)) ∧
          (OnlyBeginsLikeRoot name → arrives = false) := by
  refine ⟨isBelow_sourceNamed_iff name, sourceNamed_sourceNamed (some name), ?_⟩
  intro known files run verbose quiet path hpath hopen start more hmore stamp level text session
    arrives
  have inForce : (after known files session).1.journal = asked verbose quiet path :=
    journal_after_setup (.inr hopen) start hmore
  obtain ⟨-, sound, -⟩ := after_spec known files session
  refine ⟨?_, fun hplace => ?_, fun begins => ?_⟩
  · obtain ⟨-, -, added⟩ := perform_spec stamp sound (.log (some name) level text)
    rw [after_concat, added, inForce, JournalStep.line?, writesTo_asked_self hpath, Bool.and_true]
    congr 1
    split <;> simp
  · have important : arrives = decide ((asked verbose quiet path).level.rank ≤ level.rank) :=
      inForce ▸ JournalState.passes_of_isPlaced sound (isPlaced_sourceNamed hplace) level
    rw [important, decide_eq_true_eq]
    rfl
  · exact JournalState.passes_of_not_isBelow
      (fun below => (isBelow_sourceNamed_iff name).1 below begins) _ level

theorem entry_reaches_file_sample :
    HasPlace (some "") ∧ sourceNamed (some "") = "metrics_lite." ∧
      (after [] sampleFiles [("1", .setup false false "run.log"), ("2", .read "run.log"),
        ("3", .log (some "") .warning "kept")]).2.text ["run.log"] =
      octetsOf "old\n3 - metrics_lite. - WARNING - kept\n" := by
  have placed : HasPlace (some "") := by decide +kernel
  obtain ⟨logged, arrives, -⟩ := (entry_reaches_file "").2.2 [] sampleFiles [] false false "run.log"
    (by decide) (by decide +kernel) "1" [("2", .read "run.log")] (by decide) "3" .warning "kept"
  refine ⟨placed, by decide +kernel, logged.trans ?_⟩
  rw [if_pos ((arrives placed).2 (by decide))]
  decide +kernel

/-- A name that continues the root without a point stands for a source outside the tree, and what is
logged under it is lost without notice. -/
theorem entry_lost :
    ¬ IsBelow (sourceNamed (some "metrics_litefoo")) ∧
      (after [] [] [("1", .setup false false "run.log"),
        ("2", .log (some "metrics_litefoo") .error "lost")]).2.text ["run.log"] = [] := by
  decide +kernel

end Journal

end CodeMetrics
