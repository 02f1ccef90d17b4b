import CodeMetrics.Proofs.Report.Run
import CodeMetrics.Proofs.Report.Selection

/-!
# What the subroutine section does

The section treats one file after the other and stops at the first that it cannot complete
(`Settings.completes`).  This file says what the section leaves behind in either case: the findings
it adds to the document (`reportSection_findings`), that all its entries are details
(`reportSection_log_level`), when it gets to its end (`reportSection_failure_eq_none_iff`), and
everything that it writes and logs when it does (`reportSection_of_completes`).
-/

namespace CodeMetrics

/-! ## Tables -/

/-- The fields of the subroutine that its row shows are short enough to be written. -/
def Subroutine.tabulates (s : Subroutine) : Bool := s.row.all Value.printable

/-- The table of the subroutines that are listed for a file. -/
def subTable (kept : List Subroutine) : List String :=
  Table.draw subColumns ((kept.map Subroutine.row).map fun row => row.map Value.display)

theorem valueTable_of_printable {columns : List Column} {rows : List (List Value)}
    (h : ∀ row ∈ rows, row.all Value.printable) :
    valueTable columns rows = .ok (Table.draw columns (rows.map fun row => row.map Value.display)) :=
  if_pos (List.all_eq_true.2 h)

theorem valueTable_of_not_printable {columns : List Column} {rows : List (List Value)}
    (h : ¬ ∀ row ∈ rows, row.all Value.printable) : valueTable columns rows = .error .badValue :=
  if_neg fun ha => h (List.all_eq_true.1 ha)

/-! ## One file -/

/-- What is written for a file: nothing if none of its subroutines is listed, and otherwise a blank
line, its path and its table. -/
def fileBlock (path : Value) (kept : List Subroutine) : List String :=
  if kept.isEmpty then [] else "" :: (pathLines path ++ subTable kept)

/-- What is logged for a file: how many subroutines were forwarded, if there are any. -/
def forwardEntries (kept : List Subroutine) : List LogEntry :=
  if kept.isEmpty then []
  else [⟨.debug, sourceOf "formatters.text_formatter",
    "Forwarded " ++ toString kept.length ++ " subroutine rows"⟩]

namespace Settings

/-- The report gets past a file: past each of its subroutines, and what it shows of them and of the
path is short enough to be written.  The path is shown above a table that can be seen. -/
def completes (c : Settings) (path : Value) (subs : List Subroutine) : Bool :=
  subs.all c.clears && (subs.filter c.retains).all Subroutine.tabulates &&
    (c.machineOnly.truthy || (subs.filter c.retains).isEmpty || path.printable)

variable {c : Settings} {path : Value} {subs : List Subroutine}

theorem completes_iff :
    c.completes path subs ↔ (∀ s ∈ subs, c.clears s) ∧
      (∀ s ∈ subs.filter c.retains, s.tabulates) ∧
      (c.machineOnly.truthy ∨ (subs.filter c.retains).isEmpty ∨ path.printable) := by
  unfold completes
  rw [Bool.and_eq_true, Bool.and_eq_true, Bool.or_eq_true, Bool.or_eq_true, List.all_eq_true,
    List.all_eq_true, and_assoc, or_assoc]

end Settings

section

variable {c : Settings} {path : Value} {subs : List Subroutine}

theorem printBlock_eq (c : Settings) (path : Value) (table : List String)
    (findings : List Finding) :
    printBlock c path table findings =
      if c.machineOnly.truthy ∨ path.printable then
        .write findings (c.shown ("" :: (pathLines path ++ table)))
      else ⟨[""], [], findings, some .badValue⟩ := by
  unfold printBlock Settings.shown
  rcases c.machineOnly.truthy with _ | _
  · rcases path.printable with _ | _ <;> rfl
  · rfl

/-- A file of which every subroutine can be judged and recorded. -/
theorem reportFile_of_clears (h : ∀ s ∈ subs, c.clears s) (findings : List Finding) :
    reportFile c path subs findings =
      if (subs.filter c.retains).isEmpty then
        .idle (findings ++ (subs.filter c.retains).map Subroutine.finding)
      else
        (Run.mk [] (forwardEntries (subs.filter c.retains))
          (findings ++ (subs.filter c.retains).map Subroutine.finding) none).andThen fun findings =>
          match valueTable subColumns ((subs.filter c.retains).map Subroutine.row) with
          | .error b => .fail findings b
          | .ok table => printBlock c path table findings := by
  have hs : (select c findings subs).failure = none := select_failure_eq_none_iff.2 h
  have hf := select_findings c findings subs
  rw [Settings.forwarded_of_clears h] at hf
  unfold reportFile
  simp only [hs, hf, select_kept findings h]
  split
  · rfl
  · next hk =>
    have hentries : forwardEntries (subs.filter c.retains) =
        [⟨.debug, sourceOf "formatters.text_formatter",
          "Forwarded " ++ toString (subs.filter c.retains).length ++ " subroutine rows"⟩] :=
      if_neg hk
    exact congrArg (fun log => (Run.mk [] log
      (findings ++ (subs.filter c.retains).map Subroutine.finding) none).andThen _) hentries.symm

theorem reportFile_of_not_clears (path : Value) (h : ¬ ∀ s ∈ subs, c.clears s)
    (findings : List Finding) :
    ∃ b, reportFile c path subs findings =
      .fail (findings ++ (c.forwarded subs).map Subroutine.finding) b := by
  rcases hs : (select c findings subs).failure with _ | b
  · exact absurd (select_failure_eq_none_iff.1 hs) h
  · refine ⟨b, ?_⟩
    unfold reportFile
    simp only [hs]
    rw [select_findings]

/-- What a completed file writes, logs and adds. -/
theorem reportFile_of_completes (h : c.completes path subs) (findings : List Finding) :
    reportFile c path subs findings =
      ⟨c.shown (fileBlock path (subs.filter c.retains)), forwardEntries (subs.filter c.retains),
        findings ++ (subs.filter c.retains).map Subroutine.finding, none⟩ := by
  obtain ⟨hc, ht, hp⟩ := Settings.completes_iff.1 h
  rw [reportFile_of_clears hc]
  split
  · next hk =>
    rw [fileBlock, if_pos hk, Settings.shown_nil, forwardEntries, if_pos hk]
    rfl
  · next hk =>
    have hrows : ∀ row ∈ (subs.filter c.retains).map Subroutine.row, row.all Value.printable := by
      rintro _ hrow
      obtain ⟨s, hs, rfl⟩ := List.mem_map.1 hrow
      exact ht s hs
    rw [valueTable_of_printable hrows, Run.andThen_of_end rfl]
    simp only
    rw [printBlock_eq, if_pos (hp.imp_right fun hp => hp.resolve_left hk), fileBlock, if_neg hk]
    simp [Run.write, subTable]

/-- However far a file gets, its lines are a front of those of the completed file. -/
theorem reportFile_lines_isPrefix (c : Settings) (path : Value) (subs : List Subroutine)
    (findings : List Finding) :
    (reportFile c path subs findings).lines <+:
      c.shown (fileBlock path (subs.filter c.retains)) := by
  by_cases h : ∀ s ∈ subs, c.clears s
  · rw [reportFile_of_clears h]
    split
    · exact List.nil_prefix
    · next hkept =>
      rw [Run.andThen_of_end rfl, List.nil_append, fileBlock, if_neg hkept]
      by_cases hrows : ∀ row ∈ (subs.filter c.retains).map Subroutine.row, row.all Value.printable
      · rw [valueTable_of_printable hrows]
        dsimp only
        rw [printBlock_eq]
        split
        · exact List.prefix_refl _
        · next hpath =>
          rw [Settings.shown, if_neg fun hm => hpath (.inl hm)]
          exact ⟨_, rfl⟩
      · rw [valueTable_of_not_printable hrows]
        exact List.nil_prefix
  · obtain ⟨b, hb⟩ := reportFile_of_not_clears path h findings
    rw [hb]
    exact List.nil_prefix

theorem reportFile_findings (c : Settings) (path : Value) (subs : List Subroutine)
    (findings : List Finding) :
    (reportFile c path subs findings).findings =
      findings ++ (c.forwarded subs).map Subroutine.finding := by
  by_cases h : ∀ s ∈ subs, c.clears s
  · rw [reportFile_of_clears h, Settings.forwarded_of_clears h]
    split
    · rfl
    · rw [Run.andThen_of_end rfl]
      split
      · rfl
      · rw [printBlock_eq]
        split <;> rfl
  · obtain ⟨b, hb⟩ := reportFile_of_not_clears path h findings
    rw [hb]
    rfl

theorem reportFile_failure_eq_none_iff {findings : List Finding} :
    (reportFile c path subs findings).failure = none ↔ c.completes path subs := by
  refine ⟨fun hn => ?_, fun h => by rw [reportFile_of_completes h]⟩
  by_cases h : ∀ s ∈ subs, c.clears s
  · rw [reportFile_of_clears h] at hn
    split at hn
    · next hk =>
      have hnil : subs.filter c.retains = [] := List.isEmpty_iff.1 hk
      exact Settings.completes_iff.2 ⟨h, by rw [hnil]; exact nofun, .inr (.inl hk)⟩
    · rw [Run.failure_andThen_eq_none_iff] at hn
      by_cases hr : ∀ row ∈ (subs.filter c.retains).map Subroutine.row, row.all Value.printable
      · rw [valueTable_of_printable hr] at hn
        simp only [printBlock_eq] at hn
        split at hn
        · next hp =>
          exact Settings.completes_iff.2
            ⟨h, fun s hs => hr _ (List.mem_map_of_mem hs), hp.imp_right .inr⟩
        · exact absurd hn.2 nofun
      · rw [valueTable_of_not_printable hr] at hn
        exact absurd hn.2 nofun
  · obtain ⟨b, hb⟩ := reportFile_of_not_clears path h findings
    rw [hb] at hn
    exact absurd hn nofun

/-- Whatever becomes of a file, its entries are details. -/
theorem reportFile_log_level (c : Settings) (path : Value) (subs : List Subroutine)
    (findings : List Finding) :
    ∀ e ∈ (reportFile c path subs findings).log, e.level = .debug := by
  by_cases h : ∀ s ∈ subs, c.clears s
  · rw [reportFile_of_clears h]
    split
    · exact nofun
    · next hk =>
      refine Run.forall_log_andThen ?_ fun fs => ?_
      · rw [forwardEntries, if_neg hk]
        intro e he
        rw [List.mem_singleton.1 he]
      · split
        · exact nofun
        · rw [printBlock_eq]
          split <;> exact nofun
  · obtain ⟨b, hb⟩ := reportFile_of_not_clears path h findings
    rw [hb]
    exact nofun

end

/-! ## All files -/

/-- The subroutines that get into the document, file by file: those of each file up to and including
the first that is not completed. -/
def Settings.forwardedOf (c : Settings) : List (Value × List Subroutine) → List Subroutine
  | [] => []
  | (path, subs) :: rest =>
    c.forwarded subs ++ if c.completes path subs then c.forwardedOf rest else []

section

variable {c : Settings} {files : List (Value × List Subroutine)}

theorem Settings.forwardedOf_of_completes (h : ∀ f ∈ files, c.completes f.1 f.2) :
    c.forwardedOf files = files.flatMap fun f => f.2.filter c.retains := by
  induction files with
  | nil => rfl
  | cons f rest ih =>
    obtain ⟨hf, h⟩ := List.forall_mem_cons.1 h
    rw [forwardedOf, if_pos hf, ih h, forwarded_of_clears (completes_iff.1 hf).1,
      List.flatMap_cons]

theorem reportFiles_findings (c : Settings) (files : List (Value × List Subroutine))
    (findings : List Finding) :
    (reportFiles c files findings).findings =
      findings ++ (c.forwardedOf files).map Subroutine.finding := by
  induction files generalizing findings with
  | nil => exact (List.append_nil findings).symm
  | cons f rest ih =>
    obtain ⟨path, subs⟩ := f
    have hf := reportFile_findings c path subs findings
    rw [reportFiles, Settings.forwardedOf, List.map_append, ← List.append_assoc, ← hf]
    rcases hc : c.completes path subs with _ | _
    · rcases hr : (reportFile c path subs findings).failure with _ | b
      · rw [reportFile_failure_eq_none_iff.1 hr] at hc
        cases hc
      · rw [Run.andThen_of_failure hr]
        exact (List.append_nil _).symm
    · rw [Run.andThen_of_end (reportFile_failure_eq_none_iff.2 hc)]
      exact ih _

theorem reportFiles_failure_eq_none_iff {findings : List Finding} :
    (reportFiles c files findings).failure = none ↔ ∀ f ∈ files, c.completes f.1 f.2 := by
  induction files generalizing findings with
  | nil => exact ⟨fun _ => nofun, fun _ => rfl⟩
  | cons f rest ih =>
    obtain ⟨path, subs⟩ := f
    rw [reportFiles, Run.failure_andThen_eq_none_iff, reportFile_failure_eq_none_iff, ih,
      List.forall_mem_cons]

theorem reportFiles_log_level (c : Settings) (files : List (Value × List Subroutine))
    (findings : List Finding) :
    ∀ e ∈ (reportFiles c files findings).log, e.level = .debug := by
  induction files generalizing findings with
  | nil => exact nofun
  | cons f rest ih =>
    obtain ⟨path, subs⟩ := f
    exact Run.forall_log_andThen (reportFile_log_level c path subs findings) ih

theorem reportFiles_of_completes (h : ∀ f ∈ files, c.completes f.1 f.2)
    (findings : List Finding) :
    reportFiles c files findings =
      ⟨c.shown (files.flatMap fun f => fileBlock f.1 (f.2.filter c.retains)),
        files.flatMap fun f => forwardEntries (f.2.filter c.retains),
        findings ++ (files.flatMap fun f => f.2.filter c.retains).map Subroutine.finding, none⟩ := by
  induction files generalizing findings with
  | nil =>
    rw [List.flatMap_nil, List.flatMap_nil, List.flatMap_nil, Settings.shown_nil, List.map_nil,
      List.append_nil]
    rfl
  | cons f rest ih =>
    obtain ⟨path, subs⟩ := f
    obtain ⟨hf, h⟩ := List.forall_mem_cons.1 h
    rw [reportFiles, reportFile_of_completes hf, Run.andThen_of_end rfl]
    simp only
    rw [ih h]
    simp only [List.flatMap_cons, Settings.shown_append, List.map_append, List.append_assoc]

theorem reportFiles_lines_isPrefix (c : Settings) (files : List (Value × List Subroutine))
    (findings : List Finding) :
    (reportFiles c files findings).lines <+:
      c.shown (files.flatMap fun f => fileBlock f.1 (f.2.filter c.retains)) := by
  induction files generalizing findings with
  | nil => exact List.nil_prefix
  | cons f rest ih =>
    obtain ⟨path, subs⟩ := f
    rw [reportFiles, List.flatMap_cons]
    cases hf : (reportFile c path subs findings).failure with
    | none =>
      rw [reportFile_of_completes (reportFile_failure_eq_none_iff.1 hf), Run.andThen_of_end rfl,
        Settings.shown_append]
      exact (List.prefix_append_right_inj _).2 (ih _)
    | some b =>
      rw [Run.andThen_of_failure hf]
      exact (reportFile_lines_isPrefix c path subs findings).trans
        (c.shown_mono (List.prefix_append _ _))

/-! ## The section -/

theorem reportSection_eq (c : Settings) (files : List (Value × List Subroutine))
    (findings : List Finding) :
    reportSection c files findings =
      { reportFiles c files findings with
        lines := c.shown subHeading ++ (reportFiles c files findings).lines } := by
  rw [reportSection, Settings.print_eq]
  rfl

theorem reportSection_findings (c : Settings) (files : List (Value × List Subroutine))
    (findings : List Finding) :
    (reportSection c files findings).findings =
      findings ++ (c.forwardedOf files).map Subroutine.finding := by
  rw [reportSection_eq]
  exact reportFiles_findings c files findings

theorem reportSection_failure_eq_none_iff {findings : List Finding} :
    (reportSection c files findings).failure = none ↔ ∀ f ∈ files, c.completes f.1 f.2 := by
  rw [reportSection_eq]
  exact reportFiles_failure_eq_none_iff

theorem reportSection_log_level (c : Settings) (files : List (Value × List Subroutine))
    (findings : List Finding) :
    ∀ e ∈ (reportSection c files findings).log, e.level = .debug := by
  rw [reportSection_eq]
  exact reportFiles_log_level c files findings

/-- The lines of a section that gets to its end: its heading and the blocks of its files. -/
def Settings.sectionLines (c : Settings) (files : List (Value × List Subroutine)) : List String :=
  subHeading ++ files.flatMap fun f => fileBlock f.1 (f.2.filter c.retains)

/-- The section as a whole when every file is completed. -/
theorem reportSection_of_completes (h : ∀ f ∈ files, c.completes f.1 f.2)
    (findings : List Finding) :
    reportSection c files findings =
      ⟨c.shown (c.sectionLines files), files.flatMap fun f => forwardEntries (f.2.filter c.retains),
        findings ++ (files.flatMap fun f => f.2.filter c.retains).map Subroutine.finding, none⟩ := by
  rw [reportSection_eq, reportFiles_of_completes h, Settings.sectionLines, Settings.shown_append]

theorem reportSection_lines_isPrefix (c : Settings) (files : List (Value × List Subroutine))
    (findings : List Finding) :
    (reportSection c files findings).lines <+: c.shown (c.sectionLines files) := by
  rw [reportSection_eq, Settings.sectionLines, Settings.shown_append]
  exact (List.prefix_append_right_inj _).2 (reportFiles_lines_isPrefix c files findings)

end

end CodeMetrics
