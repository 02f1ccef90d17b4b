import CodeMetrics.Proofs.Json.RoundTrip
import CodeMetrics.Proofs.Report.Composition
import CodeMetrics.Proofs.Report.Results

/-!
# Where the subroutine section stops

With subroutines whose fields are values of JSON, only a comparison can stop the section: that of a
field that is no number with its threshold (`Settings.incomparable`).  Findings are added subroutine
by subroutine and tables are printed file by file.  So when the section stops, the subroutines in
front of the place where it does are in the document, but nothing is printed for their file
(`reportSection_stops`).
-/

namespace CodeMetrics

/-! ## Values of JSON -/

/-- The value is held by some document. -/
def Value.InJson (v : Value) : Prop := ∃ s, Json.read s = .ok v

theorem Value.InJson.printable {v : Value} (h : v.InJson) : v.printable := by
  obtain ⟨s, hs⟩ := h
  exact Json.printable_of_isBounded v (Json.isBounded_of_read le_rfl hs)

theorem Value.inJson_of_isExact {v : Value} (h : Json.isExact v) : v.InJson :=
  ⟨Json.text v, Json.read_text h⟩

/-! ## Comparisons that fail -/

namespace Settings

/-- A field of the subroutine that has to be compared with a threshold is no number: its lines, or
its complexity when the lines are not below their threshold. -/
def incomparable (c : Settings) (s : Subroutine) : Bool :=
  s.lines.number?.isNone || (!s.lines.isBelow c.maxLines && s.complexity.number?.isNone)

variable {c : Settings} {s : Subroutine}

/-- With the filter, those subroutines are judged whose fields can be compared. -/
theorem judges_of_onlyErrors (h : c.onlyErrors.truthy) : c.judges s = !c.incomparable s := by
  unfold judges incomparable
  rw [h, Bool.not_true, Bool.false_or, Bool.not_or, Bool.not_and, Bool.not_not, Option.not_isNone,
    Option.not_isNone]

theorem judges_of_all (h : c.onlyErrors.truthy = false) : c.judges s := by
  unfold judges
  rw [h]
  rfl

/-- Only a comparison stops the report at a subroutine whose fields can be printed. -/
theorem clears_of_printable (h : ∀ v ∈ s.fields, v.printable) : c.clears s = c.judges s := by
  rw [clears, (Subroutine.prints_of_fields h).1, Bool.or_true, Bool.and_true]

theorem completes_iff_of_printable {path : Value} {subs : List Subroutine}
    (hpath : path.printable) (h : ∀ s ∈ subs, ∀ v ∈ s.fields, v.printable) :
    c.completes path subs ↔ ∀ s ∈ subs, c.judges s := by
  have hclears : (∀ s ∈ subs, c.clears s) ↔ ∀ s ∈ subs, c.judges s :=
    forall₂_congr fun s hs => by rw [clears_of_printable (h s hs)]
  have htabulates : ∀ s ∈ subs.filter c.retains, s.tabulates :=
    fun s hs => (Subroutine.prints_of_fields (h s (List.mem_of_mem_filter hs))).2
  rw [completes_iff, hclears]
  exact and_iff_left ⟨htabulates, .inr (.inr hpath)⟩

end Settings

/-! ## A section that stops -/

/-- What a section has done when it stops behind the files `before`, at a subroutine with `pre` in
front of it in its file: the findings of `pre` were added, but nothing is printed or logged for the
file itself. -/
def Settings.interrupted (c : Settings) (before : List (Value × List Subroutine))
    (pre : List Subroutine) (findings : List Finding) : Run :=
  ⟨c.shown (c.sectionLines before), before.flatMap fun f => forwardEntries (f.2.filter c.retains),
    findings ++ ((before.flatMap Prod.snd ++ pre).filter c.retains).map Subroutine.finding,
    some .wrongKind⟩

section

variable {c : Settings} {s : Subroutine} {pre post : List Subroutine}

/-- The selection of a file up to a subroutine that cannot be judged. -/
theorem select_of_not_judges (hpre : ∀ t ∈ pre, c.clears t) (hs : c.judges s = false)
    (findings : List Finding) :
    select c findings (pre ++ s :: post) =
      ⟨pre.filter c.retains, findings ++ (pre.filter c.retains).map Subroutine.finding,
        some .wrongKind⟩ := by
  induction pre generalizing findings with
  | nil =>
    rw [List.nil_append, select, Settings.leavesOut_of_not_judges hs, List.filter_nil, List.map_nil,
      List.append_nil]
  | cons t rest ih =>
    obtain ⟨ht, hpre⟩ := List.forall_mem_cons.1 hpre
    rw [List.cons_append]
    rcases hr : c.retains t with _ | _
    · rw [select_cons_of_not_retains ht hr, ih hpre,
        List.filter_cons_of_neg (Bool.eq_false_iff.1 hr)]
    · rw [select_cons_of_retains ht hr, ih hpre, List.filter_cons_of_pos hr, List.map_cons,
        List.append_assoc]
      rfl

theorem reportFile_of_not_judges (path : Value) (hpre : ∀ t ∈ pre, c.clears t)
    (hs : c.judges s = false) (findings : List Finding) :
    reportFile c path (pre ++ s :: post) findings =
      .fail (findings ++ (pre.filter c.retains).map Subroutine.finding) .wrongKind := by
  unfold reportFile
  rw [select_of_not_judges hpre hs]

theorem reportSection_of_not_judges {before after : List (Value × List Subroutine)} (path : Value)
    (hbefore : ∀ f ∈ before, c.completes f.1 f.2) (hpre : ∀ t ∈ pre, c.clears t)
    (hs : c.judges s = false) (findings : List Finding) :
    reportSection c (before ++ (path, pre ++ s :: post) :: after) findings =
      c.interrupted before pre findings := by
  rw [reportSection_append, reportSection_of_completes hbefore, Run.andThen_of_end rfl,
    Settings.interrupted]
  dsimp only
  rw [reportFiles, reportFile_of_not_judges path hpre hs, Run.andThen_of_failure rfl,
    List.filter_append, List.filter_flatMap, List.map_append]
  simp only [Run.fail, List.append_nil, List.append_assoc]

end

/-! ## The first comparison that fails -/

/-- Of the members of a list with a property, one is the first. -/
theorem exists_first {α : Type} {p : α → Bool} {as : List α} (h : ∃ a ∈ as, p a) :
    ∃ before a after, as = before ++ a :: after ∧ (∀ b ∈ before, p b = false) ∧ p a := by
  obtain ⟨a, ha⟩ := Option.isSome_iff_exists.1 (List.find?_isSome.2 h)
  obtain ⟨hp, before, after, has, hbefore⟩ := List.find?_eq_some_iff_append.1 ha
  exact ⟨before, a, after, has, fun b hb => by simpa using hbefore b hb, hp⟩

section

variable {c : Settings} {files : List (Value × List Subroutine)}

/-- Of the subroutines of all files that cannot be compared, one is the first. -/
theorem Settings.exists_first_incomparable (h : ∃ f ∈ files, ∃ s ∈ f.2, c.incomparable s) :
    ∃ before path pre s post after, files = before ++ (path, pre ++ s :: post) :: after ∧
      (∀ t ∈ before.flatMap Prod.snd ++ pre, c.incomparable t = false) ∧ c.incomparable s := by
  have hany : ∃ f ∈ files, f.2.any c.incomparable := by
    obtain ⟨f, hf, hs⟩ := h
    exact ⟨f, hf, List.any_eq_true.2 hs⟩
  obtain ⟨before, ⟨path, subs⟩, after, rfl, hbefore, hsubs⟩ := exists_first hany
  obtain ⟨pre, s, post, rfl, hpre, hs⟩ := exists_first (List.any_eq_true.1 hsubs)
  refine ⟨before, path, pre, s, post, after, rfl, fun t ht => ?_, hs⟩
  rcases List.mem_append.1 ht with ht | ht
  · obtain ⟨f, hf, ht⟩ := List.mem_flatMap.1 ht
    exact Bool.eq_false_iff.2 (List.any_eq_false.1 (hbefore f hf) t ht)
  · exact hpre t ht

/-- With the filter, the section gets to its end exactly when all subroutines can be compared. -/
theorem reportSection_failure_eq_none_iff_of_printable (hon : c.onlyErrors.truthy)
    (paths : ∀ f ∈ files, f.1.printable)
    (fields : ∀ f ∈ files, ∀ s ∈ f.2, ∀ v ∈ s.fields, v.printable) {findings : List Finding} :
    (reportSection c files findings).failure = none ↔
      ∀ f ∈ files, ∀ s ∈ f.2, c.incomparable s = false := by
  rw [reportSection_failure_eq_none_iff]
  refine forall₂_congr fun f hf => ?_
  rw [Settings.completes_iff_of_printable (paths f hf) (fields f hf)]
  simp only [Settings.judges_of_onlyErrors hon, Bool.not_eq_true']

/-- The section stops at the first subroutine that cannot be compared. -/
theorem reportSection_of_incomparable (hon : c.onlyErrors.truthy)
    {before after : List (Value × List Subroutine)} {path : Value} {pre post : List Subroutine}
    {s : Subroutine}
    (paths : ∀ f ∈ before ++ (path, pre ++ s :: post) :: after, f.1.printable)
    (fields : ∀ f ∈ before ++ (path, pre ++ s :: post) :: after,
      ∀ s ∈ f.2, ∀ v ∈ s.fields, v.printable)
    (hfirst : ∀ t ∈ before.flatMap Prod.snd ++ pre, c.incomparable t = false)
    (hs : c.incomparable s) (findings : List Finding) :
    reportSection c (before ++ (path, pre ++ s :: post) :: after) findings =
      c.interrupted before pre findings := by
  have judges : ∀ t, c.judges t = !c.incomparable t := fun t => Settings.judges_of_onlyErrors hon
  rw [List.forall_mem_append, List.forall_mem_flatMap] at hfirst
  obtain ⟨hbefore, hpre⟩ := hfirst
  refine reportSection_of_not_judges path (fun f hf => ?_) (fun t ht => ?_) ?_ findings
  · have hmem : f ∈ before ++ (path, pre ++ s :: post) :: after := List.mem_append_left _ hf
    refine (Settings.completes_iff_of_printable (paths f hmem) (fields f hmem)).2 fun t ht => ?_
    rw [judges, hbefore f hf t ht]
    rfl
  · have hfields := fields (path, pre ++ s :: post) (by simp) t (by simp [ht])
    rw [Settings.clears_of_printable hfields, judges, hpre t ht]
    rfl
  · rw [judges, hs]
    rfl

/-- Without the filter, the section gets to its end and forwards every subroutine. -/
theorem reportSection_of_all (hall : c.onlyErrors.truthy = false)
    (paths : ∀ f ∈ files, f.1.printable)
    (fields : ∀ f ∈ files, ∀ s ∈ f.2, ∀ v ∈ s.fields, v.printable) (findings : List Finding) :
    (reportSection c files findings).failure = none ∧
      (reportSection c files findings).findings =
        findings ++ (files.flatMap Prod.snd).map Subroutine.finding := by
  have completes : ∀ f ∈ files, c.completes f.1 f.2 := fun f hf =>
    (Settings.completes_iff_of_printable (paths f hf) (fields f hf)).2 fun _ _ =>
      Settings.judges_of_all hall
  have hretains : ∀ f ∈ files, f.2.filter c.retains = f.2 := fun f _ =>
    List.filter_eq_self.2 fun _ _ => Settings.retains_of_all hall
  rw [reportSection_of_completes completes, List.flatMap_congr hretains]
  exact ⟨rfl, rfl⟩

/-- Take files whose paths can be printed and whose subroutines have values of JSON in all fields.
Without the filter the section gets to its end and forwards every subroutine.  With it, the section
breaks down for a value of the wrong kind, and for nothing else, exactly when some subroutine cannot
be compared with the thresholds.  Let `s`, after `pre` in its file and behind the files `before`, be
the first of these.  The findings are then those from earlier and those of the retained subroutines
in front of `s`, in order; what is written, as far as it can be seen, is the heading and the block
of each file in `before` that has a retained subroutine. -/
theorem reportSection_stops (c : Settings) (earlier : List Finding)
    (paths : ∀ f ∈ files, f.1.printable)
    (json : ∀ f ∈ files, ∀ s ∈ f.2, ∀ v ∈ s.fields, v.InJson) :
    let run := reportSection c files earlier
    (c.onlyErrors.truthy = false → run.failure = none ∧
      run.findings = earlier ++ (files.flatMap Prod.snd).map Subroutine.finding) ∧
    (c.onlyErrors.truthy →
      (∀ b, run.failure = some b → b = .wrongKind) ∧
      (run.failure = some .wrongKind ↔ ∃ f ∈ files, ∃ s ∈ f.2, c.incomparable s) ∧
      ∀ before path pre s post after, files = before ++ (path, pre ++ s :: post) :: after →
        (∀ t ∈ before.flatMap Prod.snd ++ pre, c.incomparable t = false) → c.incomparable s →
          run = c.interrupted before pre earlier) := by
  intro run
  have fields : ∀ f ∈ files, ∀ s ∈ f.2, ∀ v ∈ s.fields, v.printable :=
    fun f hf s hs v hv => (json f hf s hs v hv).printable
  refine ⟨fun hall => reportSection_of_all hall paths fields earlier, fun hon => ?_⟩
  have ended : run.failure = none ↔ ∀ f ∈ files, ∀ s ∈ f.2, c.incomparable s = false :=
    reportSection_failure_eq_none_iff_of_printable hon paths fields
  have stopped : ∀ before path pre s post after,
      files = before ++ (path, pre ++ s :: post) :: after →
      (∀ t ∈ before.flatMap Prod.snd ++ pre, c.incomparable t = false) → c.incomparable s →
        run = c.interrupted before pre earlier := by
    rintro before path pre s post after rfl hfirst hs
    exact reportSection_of_incomparable hon paths fields hfirst hs earlier
  have broken : (∃ f ∈ files, ∃ s ∈ f.2, c.incomparable s) → run.failure = some .wrongKind := by
    intro h
    obtain ⟨before, path, pre, s, post, after, hfiles, hfirst, hs⟩ :=
      Settings.exists_first_incomparable h
    rw [stopped before path pre s post after hfiles hfirst hs]
    rfl
  have incomparable {b : Breakdown} (hb : run.failure = some b) :
      ∃ f ∈ files, ∃ s ∈ f.2, c.incomparable s := by
    by_contra hnone
    rw [ended.2 fun f hf s hs => Bool.eq_false_iff.2 fun h => hnone ⟨f, hf, s, hs, h⟩] at hb
    cases hb
  refine ⟨fun b hb => ?_, ⟨incomparable, broken⟩, stopped⟩
  rw [broken (incomparable hb)] at hb
  exact (Option.some.inj hb).symm

end

/-- A subroutine with some lines and complexity. -/
def measured (name : String) (lines complexity : Value) : Subroutine :=
  ⟨.text name, .text "lib/A.pm", .int 7, lines, complexity⟩

/-- Two files.  The complexity of `short` is no number, but nothing compares it. -/
def countedFiles : List (Value × List Subroutine) :=
  [(.text "a.pl", [measured "long" (.int 70) (.int 12), measured "short" (.int 5) .null]),
    (.text "b.pl", [measured "brief" (.int 1) (.int 1)])]

/-- The two files and one at which the section stops, after the first two of its subroutines. -/
def mixedFiles : List (Value × List Subroutine) :=
  countedFiles ++ [(.text "c.pl",
    [measured "true" (.bool true) (.int 41), measured "wide" (.int 90) (.int 41)] ++
      measured "odd" (.int 90) (.text "many") :: [measured "later" (.int 90) (.int 41)])]

theorem reportSection_stops_sample :
    let c : Settings := { Settings.standard with onlyErrors := .bool true }
    let run := reportSection c mixedFiles [⟨"99", "old", "file://old", .int 1⟩]
    (∀ f ∈ mixedFiles, f.1.printable) ∧
      (∀ f ∈ mixedFiles, ∀ s ∈ f.2, ∀ v ∈ s.fields, v.InJson) ∧ c.onlyErrors.truthy ∧
      run.failure = some .wrongKind ∧ run.findings.map Finding.name = ["old", "long", "wide"] ∧
      run.lines = c.sectionLines countedFiles ∧ run.lines.length = 10 := by
  intro c run
  have paths : ∀ f ∈ mixedFiles, f.1.printable := by decide
  have exact : ∀ f ∈ mixedFiles, ∀ s ∈ f.2, ∀ v ∈ s.fields, Json.isExact v := by decide +kernel
  have json : ∀ f ∈ mixedFiles, ∀ s ∈ f.2, ∀ v ∈ s.fields, v.InJson :=
    fun f hf s hs v hv => Value.inJson_of_isExact (exact f hf s hs v hv)
  obtain ⟨-, hon⟩ := reportSection_stops c [⟨"99", "old", "file://old", .int 1⟩] paths json
  obtain ⟨-, -, stopped⟩ := hon rfl
  have hrun : run = _ :=
    stopped countedFiles (.text "c.pl") _ (measured "odd" (.int 90) (.text "many")) _ [] rfl
      (by decide +kernel) (by decide +kernel)
  refine ⟨paths, json, rfl, ?_⟩
  rw [hrun]
  exact ⟨rfl, by decide +kernel, rfl, by decide +kernel⟩

end CodeMetrics
