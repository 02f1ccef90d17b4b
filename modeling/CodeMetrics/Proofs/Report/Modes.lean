import CodeMetrics.Proofs.Except
import CodeMetrics.Proofs.Report.Ending

/-!
# The two ways to print a report

With or without its tables, a report does the same to the document and to the journal, and its last
line is the document.  The tables stand before that line as a text of whole lines, which does not
depend on findings from before the report (`report_modes_agree`).
-/

namespace CodeMetrics

/-! ## Settings that differ in the switch alone -/

section

variable {c : Settings} {on off : Value}

/-- A file that is completed with its table is completed without it. -/
theorem Settings.completes_of_tables (hon : on.truthy) {path : Value} {subs : List Subroutine}
    (h : ({ c with machineOnly := off } : Settings).completes path subs) :
    ({ c with machineOnly := on } : Settings).completes path subs := by
  obtain ⟨hc, ht, -⟩ := completes_iff.1 h
  exact completes_iff.2 ⟨hc, ht, .inl hon⟩

/-- A report that gets to its end with its tables gets there without them. -/
theorem Settings.Completes.of_tables (hon : on.truthy) {a : Analysis}
    (h : ({ c with machineOnly := off } : Settings).Completes a) :
    ({ c with machineOnly := on } : Settings).Completes a where
  files := summarizes_iff.2 (.inl hon)
  subs f hf := completes_of_tables hon (h.subs f hf)
  lineNumbers := h.lineNumbers

theorem Settings.shown_of_on (hon : on.truthy) (lines : List String) :
    ({ c with machineOnly := on } : Settings).shown lines = [] := if_pos hon

theorem Settings.shown_of_off (hoff : off.truthy = false) (lines : List String) :
    ({ c with machineOnly := off } : Settings).shown lines = lines :=
  if_neg (by rw [hoff]; exact Bool.false_ne_true)

end

/-! ## Texts of lines -/

theorem Run.text_singleton (line : String) :
    String.join ([line].map (· ++ "\n")) = line ++ "\n" := by
  rw [List.map_singleton, String.join_cons, String.join_nil, String.append_empty]

/-- A text of one line or more ends with a line end. -/
theorem Run.exists_text_eq_append {lines : List String} (h : lines ≠ []) :
    ∃ t, String.join (lines.map (· ++ "\n")) = t ++ "\n" := by
  refine ⟨String.join (lines.dropLast.map (· ++ "\n")) ++ lines.getLast h, ?_⟩
  conv => lhs; rw [← List.dropLast_concat_getLast h]
  rw [text_append, text_singleton, String.append_assoc]

theorem Settings.tableLines_ne_nil (c : Settings) (a : Analysis) : c.tableLines a ≠ [] := nofun

/-! ## Agreement -/

/-- Let `on` ask for the document alone and `off` for the tables too.  When the report with tables
gets to its end, there are a text `tables` of whole lines and a line `document` such that, whatever
was found before, both reports get to their end with the same findings and entries, the one writes
the line `document`, which holds these findings, and the other `tables` and then that line. -/
theorem report_modes_agree (c : Settings) (a : Analysis) {on off : Value} (hon : on.truthy)
    (hoff : off.truthy = false) {start : List Finding}
    (succeeds : (report { c with machineOnly := off } a start).failure = none) :
    ∃ tables document : String, (∃ t, tables = t ++ "\n") ∧ '\n' ∉ document.toList ∧
      ∀ earlier : List Finding,
        let alone := report { c with machineOnly := on } a earlier
        let full := report { c with machineOnly := off } a earlier
        alone.failure = none ∧ full.failure = none ∧
          alone.findings = full.findings ∧ alone.log = full.log ∧
          Sarif.line full.findings = .ok document ∧
          alone.text = document ++ "\n" ∧ full.text = tables ++ (document ++ "\n") := by
  have hf : ({ c with machineOnly := off } : Settings).Completes a :=
    report_failure_eq_none_iff.1 succeeds
  have ha := hf.of_tables hon
  let results := (c.listed a).map Subroutine.finding
  refine ⟨String.join ((c.tableLines a).map (· ++ "\n")), Sarif.text results,
    Run.exists_text_eq_append (c.tableLines_ne_nil a), Sarif.newline_not_mem_text results,
    fun earlier => ?_⟩
  dsimp only
  rw [report_of_completes ha, report_of_completes hf, Settings.shown_of_on hon,
    Settings.shown_of_off hoff]
  refine ⟨rfl, rfl, rfl, rfl, ?_, ?_, ?_⟩
  · exact Sarif.line_of_writable (forall_listed_iff.2 hf.lineNumbers)
  · exact Run.text_singleton _
  · unfold Run.text
    rw [Run.text_append, Run.text_singleton]
    rfl

/-- A record with one subroutine. -/
def plainRecord : FileRecord :=
  ⟨.text "lib/A.pm", .int 80, [.text "A"],
    [⟨.text "new", .text "lib/A.pm", .int 3, .int 70, .int 12⟩], .ofLines (.int 10)⟩

theorem report_modes_agree_sample :
    ∃ a, analyze [plainRecord] = .ok a ∧ (Value.bool true).truthy ∧
      (Value.bool false).truthy = false ∧
      (report { Settings.standard with machineOnly := .bool false } a []).failure = none ∧
      ∃ tables document : String, (∃ t, tables = t ++ "\n") ∧ '\n' ∉ document.toList ∧
        let earlier : List Finding := [⟨"99", "old", "file://old.pl", .int 1⟩]
        let alone := report { Settings.standard with machineOnly := .bool true } a earlier
        let full := report { Settings.standard with machineOnly := .bool false } a earlier
        alone.text = document ++ "\n" ∧ full.text = tables ++ (document ++ "\n") := by
  have ending : (analyze [plainRecord]).toOption.map (fun a =>
      (report { Settings.standard with machineOnly := .bool false } a []).failure) =
        some none := by
    decide +kernel
  obtain ⟨a, ha, succeeds⟩ := exists_of_toOption_map_eq_some ending
  have hon : (Value.bool true).truthy := rfl
  have hoff : (Value.bool false).truthy = false := rfl
  obtain ⟨tables, document, whole, single, agree⟩ :=
    report_modes_agree .standard a hon hoff succeeds
  obtain ⟨-, -, -, -, -, alone, full⟩ := agree [⟨"99", "old", "file://old.pl", .int 1⟩]
  exact ⟨a, ha, hon, hoff, succeeds, tables, document, whole, single, alone, full⟩

end CodeMetrics
