import CodeMetrics.Diagnostics.Sarif
import CodeMetrics.Proofs.Json.Plain

/-!
# The diagnostics document as a value and as a line

Documents differ in their results only (`document_eq_withResults`).  A document can be written or
copied exactly when the line number of each finding can, since all its other parts are texts
(`line_of_writable`, `line_of_not_writable`, `copy_eq`), and the line has no line end in it.
-/

namespace CodeMetrics

namespace Sarif

/-! ## Results -/

/-- The value with other results in its first run. -/
def withResults (results : List Value) : Value → Value
  | .dict entries =>
    match entries.lookup "runs" with
    | some (.list (.dict run :: runs)) =>
      let run := Value.setEntry "results" (.list results) run
      .dict (Value.setEntry "runs" (.list (.dict run :: runs)) entries)
    | _ => .dict entries
  | v => v

/-- Every document is the empty one with other results. -/
theorem document_eq_withResults (findings : List Finding) :
    document findings = withResults (findings.map Finding.toValue) (document []) := rfl

/-! ## The line -/

/-- The document as text. -/
def text (findings : List Finding) : String := String.ofList (Json.text (document findings))

theorem unwritable?_finding (f : Finding) :
    Json.unwritable? f.toValue = Json.unwritable? f.line := by
  simp [Json.unwritable_pos, Finding.toValue, Json.unwritable?, Json.unwritableIn?, Json.unwritableOf?]

theorem unwritableOf?_findings_eq_none_iff {findings : List Finding} :
    Json.unwritableOf? (findings.map Finding.toValue) = none ↔
      ∀ f ∈ findings, Json.unwritable? f.line = none := by
  rw [Json.unwritableOf?_eq_none_iff, List.forall_mem_map]
  simp only [unwritable?_finding]

theorem unwritable?_document (findings : List Finding) :
    Json.unwritable? (document findings) =
      Json.unwritableOf? (findings.map Finding.toValue) := by
  simp [document, tool, Json.unwritable?, Json.unwritableIn?, Json.unwritableOf?]

theorem line_of_writable {findings : List Finding}
    (h : ∀ f ∈ findings, Json.unwritable? f.line = none) : line findings = .ok (text findings) := by
  have hd : Json.unwritable? (document findings) = none := by
    rw [unwritable?_document]
    exact unwritableOf?_findings_eq_none_iff.2 h
  unfold line Json.write
  rw [hd]
  rfl

theorem line_of_not_writable {findings : List Finding}
    (h : ¬ ∀ f ∈ findings, Json.unwritable? f.line = none) : ∃ b, line findings = .error b := by
  rcases hd : Json.unwritable? (document findings) with _ | u
  · rw [unwritable?_document] at hd
    exact absurd (unwritableOf?_findings_eq_none_iff.1 hd) h
  · unfold line Json.write
    rw [hd]
    cases u with
    | kind => exact ⟨_, rfl⟩
    | longNumber => exact ⟨_, rfl⟩

theorem copiable_finding (f : Finding) : f.toValue.copiable = f.line.copiable := by
  simp [Finding.toValue, Value.copiable, Value.copiableAll, Value.copiableEntries]

theorem copiable_document (findings : List Finding) :
    (document findings).copiable = findings.all fun f => f.line.copiable := by
  have results : Value.copiableAll (findings.map Finding.toValue) =
      findings.all fun f => f.line.copiable := by
    induction findings with
    | nil => rfl
    | cons f rest ih =>
      rw [List.map_cons, Value.copiableAll, copiable_finding, ih, List.all_cons]
  simp [document, tool, Value.copiable, Value.copiableAll, Value.copiableEntries, results]

/-- The document can be copied exactly when every line number can. -/
theorem copy_eq (findings : List Finding) :
    copy findings = if ∀ f ∈ findings, f.line.copiable then .ok (document findings)
      else .error .wrongKind := by
  unfold copy
  simp only [copiable_document, List.all_eq_true]

theorem newline_not_mem_text (findings : List Finding) : '\n' ∉ (text findings).toList := by
  rw [text, String.toList_ofList]
  exact (Json.plain_text _).newline_not_mem

end Sarif

end CodeMetrics
