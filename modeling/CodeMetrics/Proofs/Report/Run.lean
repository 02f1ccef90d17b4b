import CodeMetrics.Report.Section

/-!
# The algebra of runs

What a run does is settled by how it is put together with `andThen`.  This file gives the fields of
a joined run, both for a first run that gets to its end and for one that breaks down, and says that
a run of two parts gets to its end exactly when both parts do.
-/

namespace CodeMetrics

namespace Run

theorem idle_andThen (findings : List Finding) (next : List Finding → Run) :
    (idle findings).andThen next = next findings := rfl

theorem write_andThen (findings : List Finding) (lines : List String)
    (next : List Finding → Run) :
    (write findings lines).andThen next =
      { next findings with lines := lines ++ (next findings).lines } := rfl

theorem andThen_of_failure {r : Run} {b : Breakdown} (h : r.failure = some b)
    (next : List Finding → Run) : r.andThen next = r := by
  unfold andThen
  rw [h]

theorem andThen_of_end {r : Run} (h : r.failure = none) (next : List Finding → Run) :
    r.andThen next =
      ⟨r.lines ++ (next r.findings).lines, r.log ++ (next r.findings).log,
        (next r.findings).findings, (next r.findings).failure⟩ := by
  unfold andThen
  rw [h]

theorem andThen_assoc (r : Run) (next last : List Finding → Run) :
    (r.andThen next).andThen last = r.andThen fun findings => (next findings).andThen last := by
  rcases h : r.failure with _ | b
  · rcases hn : (next r.findings).failure with _ | b
    · have hend : (r.andThen next).failure = none := by rw [andThen_of_end h, hn]
      rw [andThen_of_end hend, andThen_of_end h, andThen_of_end h, andThen_of_end hn]
      simp only [List.append_assoc]
    · have hbreak : (r.andThen next).failure = some b := by rw [andThen_of_end h, hn]
      rw [andThen_of_failure hbreak, andThen_of_end h, andThen_of_end h, andThen_of_failure hn]
  · rw [andThen_of_failure h, andThen_of_failure h, andThen_of_failure h]

theorem failure_andThen_eq_none_iff {r : Run} {next : List Finding → Run} :
    (r.andThen next).failure = none ↔ r.failure = none ∧ (next r.findings).failure = none := by
  rcases h : r.failure with _ | b
  · rw [andThen_of_end h]
    exact ⟨fun hn => ⟨rfl, hn⟩, And.right⟩
  · rw [andThen_of_failure h, h]
    exact ⟨fun hn => (by cases hn), fun hn => (by cases hn.1)⟩

/-- A property of entries that both parts have holds of all entries of a joined run. -/
theorem forall_log_andThen {p : LogEntry → Prop} {r : Run} {next : List Finding → Run}
    (hr : ∀ e ∈ r.log, p e) (hn : ∀ fs, ∀ e ∈ (next fs).log, p e) :
    ∀ e ∈ (r.andThen next).log, p e := by
  rcases h : r.failure with _ | b
  · rw [andThen_of_end h]
    intro e he
    rcases List.mem_append.1 he with he | he
    · exact hr e he
    · exact hn _ e he
  · rw [andThen_of_failure h]
    exact hr

/-! ## Text -/

theorem text_append (ks ls : List String) :
    String.join ((ks ++ ls).map (· ++ "\n")) =
      String.join (ks.map (· ++ "\n")) ++ String.join (ls.map (· ++ "\n")) := by
  rw [List.map_append]
  exact String.join_append

end Run

/-! ## Printing -/

/-- The lines as far as the settings let them be seen: none when they ask for the document alone. -/
def Settings.shown (c : Settings) (lines : List String) : List String :=
  if c.machineOnly.truthy then [] else lines

theorem Settings.print_eq (c : Settings) (findings : List Finding) (lines : List String) :
    c.print findings lines = .write findings (c.shown lines) := by
  unfold print shown
  split <;> rfl

theorem Settings.shown_append (c : Settings) (ks ls : List String) :
    c.shown (ks ++ ls) = c.shown ks ++ c.shown ls := by
  unfold shown
  split <;> rfl

theorem Settings.shown_nil (c : Settings) : c.shown [] = [] := by
  unfold shown
  split <;> rfl

theorem Settings.shown_mono (c : Settings) {ks ls : List String} (h : ks <+: ls) :
    c.shown ks <+: c.shown ls := by
  obtain ⟨rest, rfl⟩ := h
  rw [shown_append]
  exact List.prefix_append _ _

end CodeMetrics
