import CodeMetrics.Proofs.Except
import CodeMetrics.Proofs.Report.Mapping
import CodeMetrics.Proofs.Report.Section
import CodeMetrics.Report.Session

/-!
# Sections in parts

A section on two lists of files, one after the other, is the section on the first followed by what
the section on the second does below its heading (`reportSection_append`).  Files that are given as
a mapping are the list of these files with each repeated path reduced to one file
(`filesOf_mapping`), and the section does not tell the two apart (`reportSection_composes`).
-/

namespace CodeMetrics

variable (c : Settings)

/-! ## Files one after the other -/

theorem reportFiles_append (xs ys : List (Value × List Subroutine)) (findings : List Finding) :
    reportFiles c (xs ++ ys) findings = (reportFiles c xs findings).andThen (reportFiles c ys) := by
  induction xs generalizing findings with
  | nil => exact (Run.idle_andThen findings _).symm
  | cons f rest ih =>
    obtain ⟨path, subs⟩ := f
    rw [List.cons_append, reportFiles, reportFiles, Run.andThen_assoc]
    exact congrArg _ (funext ih)

theorem reportSection_append (xs ys : List (Value × List Subroutine)) (findings : List Finding) :
    reportSection c (xs ++ ys) findings =
      (reportSection c xs findings).andThen (reportFiles c ys) := by
  unfold reportSection
  rw [Run.andThen_assoc]
  exact congrArg _ (funext (reportFiles_append c xs ys))

/-! ## Files as a mapping -/

/-- The subroutines whose fields some values give; none unless all of the values give some. -/
def subsOf (values : List Value) : List Subroutine := (values.mapM buildSub).toOption.getD []

section

variable {pairs : List (Value × List Value)} {files : List (Value × List Subroutine)}

theorem filesOf_eq_ok_iff :
    filesOf pairs false = .ok files ↔
      (∀ p ∈ pairs, ∃ subs, p.2.mapM buildSub = .ok subs) ∧
        files = pairs.map fun p => (p.1, subsOf p.2) := by
  have hfile : ∀ (p : Value × List Value) (f : Value × List Subroutine),
      (do .ok (p.1, ← p.2.mapM buildSub) : Except Breakdown (Value × List Subroutine)) = .ok f ↔
        (∃ subs, p.2.mapM buildSub = .ok subs) ∧ f = (p.1, subsOf p.2) := by
    intro p f
    rw [bind_eq_ok_iff, subsOf]
    constructor
    · rintro ⟨subs, hsubs, hf⟩
      rw [hsubs, ← Except.ok.inj hf]
      exact ⟨⟨subs, rfl⟩, rfl⟩
    · rintro ⟨⟨subs, hsubs⟩, rfl⟩
      rw [hsubs]
      exact ⟨subs, rfl, rfl⟩
  have hlist : filesOf pairs false =
      pairs.mapM fun p => (do .ok (p.1, ← p.2.mapM buildSub) : Except Breakdown _) :=
    bind_pure _
  rw [hlist]
  exact mapM_eq_ok_iff hfile

/-- The pairs without repetitions make up the files without repetitions. -/
theorem filesOf_lastOfEach (h : filesOf pairs false = .ok files) :
    filesOf (lastOfEach pairs) false = .ok (lastOfEach files) := by
  obtain ⟨hsubs, rfl⟩ := filesOf_eq_ok_iff.1 h
  have hleft : ∀ p ∈ lastOfEach pairs, ∃ subs, p.2.mapM buildSub = .ok subs :=
    forall_mem_lastOfEach
      (P := fun values : List Value => ∃ subs, values.mapM buildSub = .ok subs) hsubs
  exact filesOf_eq_ok_iff.2 ⟨hleft, lastOfEach_map subsOf pairs⟩

theorem filesOf_mapping (h : filesOf pairs false = .ok files) (keys : ∀ p ∈ pairs, p.1.isKey) :
    filesOf pairs true = .ok (lastOfEach files) := by
  obtain ⟨_, hread, hfiles⟩ := bind_eq_ok_iff.1 h
  obtain rfl := Except.ok.inj hfiles
  obtain ⟨-, hmap⟩ := filesOf_eq_ok_iff.1 h
  refine bind_eq_ok_iff.2 ⟨_, hread, mappingOf_eq ?_⟩
  rw [hmap, List.forall_mem_map]
  exact keys

theorem Settings.perform_subSection {asMapping : Bool} (h : filesOf pairs asMapping = .ok files)
    (findings : List Finding) :
    c.perform (.subSection pairs asMapping) findings =
      .ofRun [] (reportSection c files findings) := by
  show c.onPairs pairs asMapping findings = _
  rw [onPairs, h]

end

/-! ## Composition -/

/-- Let the section on `xs` be made, then the one on `ys`, and the one on both lists at once.  If
the first breaks down, so does the last, with the same done.  Otherwise the last leaves behind the
findings of the second, logs what the two log, ends as the second does, and writes what the two
write without the second heading.  Files in a mapping, whose paths can be keys, make the section
that their list makes when each repeated path keeps its first place and takes its last subroutines,
and thus the section of the list itself when no path is repeated. -/
theorem reportSection_composes (findings : List Finding) :
    (∀ xs ys : List (Value × List Subroutine),
      let first := reportSection c xs findings
      let second := reportSection c ys first.findings
      let whole := reportSection c (xs ++ ys) findings
      (∀ b, first.failure = some b → whole = first) ∧
      (first.failure = none →
        whole.findings = second.findings ∧ whole.log = first.log ++ second.log ∧
        whole.failure = second.failure ∧
        (∃ tables, second.lines = c.shown subHeading ++ tables ∧
          whole.lines = first.lines ++ tables) ∧
        (c.machineOnly.truthy → whole.lines = first.lines ++ second.lines))) ∧
    ∀ pairs files, filesOf pairs false = .ok files → (∀ p ∈ pairs, p.1.isKey) →
      let mapping := c.perform (.subSection pairs true) findings
      mapping = c.perform (.subSection (lastOfEach pairs) false) findings ∧
      mapping = .ofRun [] (reportSection c (lastOfEach files) findings) ∧
      (pairs.Pairwise (fun p q => Value.same false p.1 q.1 = false) →
        mapping = c.perform (.subSection pairs false) findings) := by
  constructor
  · intro xs ys first second whole
    have hsecond : second = { reportFiles c ys first.findings with
        lines := c.shown subHeading ++ (reportFiles c ys first.findings).lines } :=
      reportSection_eq c ys first.findings
    have hwhole : whole = first.andThen (reportFiles c ys) := reportSection_append c xs ys findings
    refine ⟨fun b h => ?_, fun h => ?_⟩
    · rw [hwhole, Run.andThen_of_failure h]
    · rw [hwhole, Run.andThen_of_end h, hsecond]
      refine ⟨rfl, rfl, rfl, ⟨_, rfl, rfl⟩, fun hm => ?_⟩
      have hheading : c.shown subHeading = [] := if_pos hm
      rw [hheading, List.nil_append]
  · intro pairs files hfiles keys mapping
    have hmapping : mapping = .ofRun [] (reportSection c (lastOfEach files) findings) :=
      c.perform_subSection (filesOf_mapping hfiles keys) findings
    have hreduced := c.perform_subSection (filesOf_lastOfEach hfiles) findings
    refine ⟨hmapping.trans hreduced.symm, hmapping, fun distinct => ?_⟩
    rw [hmapping, ← hreduced, lastOfEach_of_pairwise distinct]

/-- A file that is given twice, as a mapping, is listed once, with its last subroutines. -/
theorem reportSection_composes_sample :
    let sub (name : String) : Value :=
      .dict [("name", .text name), ("path", .text "a.pl"), ("line_number", .int 1),
        ("lines", .int 70), ("mccabe_complexity", .int 12)]
    let pairs : List (Value × List Value) :=
      [(.text "a.pl", [sub "old"]), (.text "b.pl", [sub "other"]), (.text "a.pl", [sub "new"])]
    let mapping := Settings.standard.perform (.subSection pairs true) []
    (∃ files, filesOf pairs false = .ok files) ∧ (∀ p ∈ pairs, p.1.isKey) ∧
      mapping = Settings.standard.perform (.subSection (lastOfEach pairs) false) [] ∧
      mapping.findings.map Finding.name = ["new", "other"] := by
  intro sub pairs mapping
  obtain ⟨files, hfiles⟩ : ∃ files, filesOf pairs false = .ok files := ⟨_, rfl⟩
  have keys : ∀ p ∈ pairs, p.1.isKey := by decide
  obtain ⟨reduced, -, -⟩ := (reportSection_composes .standard []).2 pairs files hfiles keys
  exact ⟨⟨files, hfiles⟩, keys, reduced, by decide +kernel⟩

end CodeMetrics
