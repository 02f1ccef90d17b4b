import CodeMetrics.Report.Section
import CodeMetrics.Proofs.Binary64.Place
import Mathlib.Data.List.TakeWhile

/-!
# Which subroutines a report lists

`Settings.retains` says when a subroutine is listed: always when all are asked for, and otherwise
when it lies below neither threshold.  To find out, the report compares fields that may be no
numbers (`judges`) and then writes fields that may be too long (`recordable`); it can go on past a
subroutine exactly when neither stops it (`clears`).  The selection of a file is then a matter of
lists: the findings of the subroutines before the first that stops it, in order, without those that
are left out.
-/

namespace CodeMetrics

/-! ## Thresholds -/

/-- The value is a number that lies below a threshold. -/
def Value.isBelow (v : Value) (limit : Nat) : Bool :=
  match v.number? with
  | some n => n.place.before (Number.int limit).place
  | none => false

theorem Value.isBelow_int (n : Int) (limit : Nat) :
    (Value.int n).isBelow limit = decide (n < limit) :=
  Number.before_int_iff n limit

theorem belowThreshold_of_number {v : Value} (h : v.number?.isSome) (limit : Nat) :
    belowThreshold v limit = .ok (v.isBelow limit) := by
  obtain ⟨n, hn⟩ := Option.isSome_iff_exists.1 h
  unfold belowThreshold Value.isBelow
  rw [hn]

theorem belowThreshold_of_not_number {v : Value} (h : v.number? = none) (limit : Nat) :
    belowThreshold v limit = .error .wrongKind := by
  unfold belowThreshold
  rw [h]

/-! ## Judging a subroutine -/

namespace Settings

variable (c : Settings)

/-- The report lists the subroutine: it lists all, or the subroutine is below neither threshold. -/
def retains (s : Subroutine) : Bool :=
  !c.onlyErrors.truthy || (!s.lines.isBelow c.maxLines && !s.complexity.isBelow c.maxComplexity)

/-- Whether the subroutine is listed can be told: the fields that are compared are numbers, and the
complexity is not compared when the lines are below their threshold. -/
def judges (s : Subroutine) : Bool :=
  !c.onlyErrors.truthy ||
    (s.lines.number?.isSome && (s.lines.isBelow c.maxLines || s.complexity.number?.isSome))

variable {c}

theorem retains_of_all {s : Subroutine} (h : c.onlyErrors.truthy = false) : c.retains s := by
  unfold retains
  rw [h]
  rfl

/-- A subroutine that can be judged is left out exactly when it is not retained. -/
theorem leavesOut_of_judges {s : Subroutine} (h : c.judges s) :
    c.leavesOut s = .ok !c.retains s := by
  unfold leavesOut
  unfold judges at h
  unfold retains
  rcases ho : c.onlyErrors.truthy with _ | _
  · rfl
  · rw [ho, Bool.not_true, Bool.false_or, Bool.and_eq_true, Bool.or_eq_true] at h
    obtain ⟨hl, hc⟩ := h
    rw [if_pos rfl, passes, belowThreshold_of_number hl]
    rcases hb : s.lines.isBelow c.maxLines with _ | _
    · rw [hb] at hc
      have hc := hc.resolve_left Bool.false_ne_true
      show belowThreshold s.complexity c.maxComplexity = _
      rw [belowThreshold_of_number hc]
      simp
    · rfl

theorem leavesOut_of_not_judges {s : Subroutine} (h : c.judges s = false) :
    c.leavesOut s = .error .wrongKind := by
  unfold leavesOut
  unfold judges at h
  rw [Bool.or_eq_false_iff, Bool.not_eq_false'] at h
  obtain ⟨ho, h⟩ := h
  rw [if_pos ho, passes]
  rcases hl : s.lines.number? with _ | n
  · rw [belowThreshold_of_not_number hl]
    rfl
  · have hn : s.lines.number?.isSome := by rw [hl]; rfl
    rw [hn, Bool.true_and, Bool.or_eq_false_iff] at h
    rw [belowThreshold_of_number hn, h.1]
    have hc : s.complexity.number? = none :=
      Option.isNone_iff_eq_none.1 (Option.isSome_eq_false_iff.1 h.2)
    show belowThreshold s.complexity c.maxComplexity = _
    exact belowThreshold_of_not_number hc _

theorem judges_of_numbers {s : Subroutine} (hl : s.lines.number?.isSome)
    (hc : s.complexity.number?.isSome) : c.judges s := by
  simp [judges, hl, hc]

end Settings

/-! ## Findings -/

namespace Subroutine

/-- The result about a subroutine: its complexity and name as texts, its path as an address, and
its line number as it is. -/
def finding (s : Subroutine) : Finding :=
  ⟨s.complexity.display, s.name.display, "file://" ++ s.path.display, s.lineNumber⟩

/-- The texts of the result are short enough to be written. -/
def recordable (s : Subroutine) : Bool :=
  s.complexity.printable && s.name.printable && s.path.printable

end Subroutine

theorem Finding.ofSub_of_recordable {s : Subroutine} (h : s.recordable) :
    ofSub s = .ok s.finding := if_pos h

theorem Finding.ofSub_of_not_recordable {s : Subroutine} (h : s.recordable = false) :
    ofSub s = .error .badValue :=
  if_neg (Bool.eq_false_iff.1 h)

/-! ## The selection of a file -/

namespace Settings

/-- The report goes on past the subroutine: it can be judged, and recorded if it is listed. -/
def clears (c : Settings) (s : Subroutine) : Bool := c.judges s && (!c.retains s || s.recordable)

/-- The subroutines of a file that get into the document: those that are retained among the ones
before the first that stops the report. -/
def forwarded (c : Settings) (subs : List Subroutine) : List Subroutine :=
  (subs.takeWhile c.clears).filter c.retains

variable {c : Settings}

theorem forwarded_of_clears {subs : List Subroutine} (h : ∀ s ∈ subs, c.clears s) :
    c.forwarded subs = subs.filter c.retains := by
  unfold forwarded
  rw [List.takeWhile_eq_self_iff.2 h]

theorem forwarded_cons_of_not_clears {s : Subroutine} (h : c.clears s = false)
    (rest : List Subroutine) : c.forwarded (s :: rest) = [] := by
  unfold forwarded
  rw [List.takeWhile_cons_of_neg (Bool.eq_false_iff.1 h)]
  rfl

theorem forwarded_cons_of_retains {s : Subroutine} (h : c.clears s) (hr : c.retains s)
    (rest : List Subroutine) : c.forwarded (s :: rest) = s :: c.forwarded rest := by
  unfold forwarded
  rw [List.takeWhile_cons_of_pos h, List.filter_cons_of_pos hr]

theorem forwarded_cons_of_not_retains {s : Subroutine} (h : c.clears s) (hr : c.retains s = false)
    (rest : List Subroutine) : c.forwarded (s :: rest) = c.forwarded rest := by
  unfold forwarded
  rw [List.takeWhile_cons_of_pos h, List.filter_cons_of_neg (Bool.eq_false_iff.1 hr)]

end Settings

section

variable {c : Settings} {s : Subroutine}

/-! One step of the selection, in the three ways it can go. -/

theorem select_cons_of_not_clears (h : c.clears s = false) (findings : List Finding)
    (rest : List Subroutine) :
    (select c findings (s :: rest)).findings = findings ∧
      (select c findings (s :: rest)).failure ≠ none := by
  unfold select
  rcases hj : c.judges s with _ | _
  · rw [Settings.leavesOut_of_not_judges hj]
    exact ⟨rfl, nofun⟩
  · unfold Settings.clears at h
    rw [hj, Bool.true_and, Bool.or_eq_false_iff, Bool.not_eq_false'] at h
    rw [Settings.leavesOut_of_judges hj, h.1]
    simp only [Bool.not_true]
    rw [Finding.ofSub_of_not_recordable h.2]
    exact ⟨rfl, nofun⟩

theorem select_cons_of_retains (h : c.clears s) (hr : c.retains s) (findings : List Finding)
    (rest : List Subroutine) :
    select c findings (s :: rest) =
      ⟨s :: (select c (findings ++ [s.finding]) rest).kept,
        (select c (findings ++ [s.finding]) rest).findings,
        (select c (findings ++ [s.finding]) rest).failure⟩ := by
  unfold Settings.clears at h
  rw [hr, Bool.not_true, Bool.false_or, Bool.and_eq_true] at h
  rw [select, Settings.leavesOut_of_judges h.1, hr]
  simp only [Bool.not_true]
  rw [Finding.ofSub_of_recordable h.2]

theorem select_cons_of_not_retains (h : c.clears s) (hr : c.retains s = false)
    (findings : List Finding) (rest : List Subroutine) :
    select c findings (s :: rest) = select c findings rest := by
  have hj : c.judges s := (Bool.and_eq_true _ _ ▸ h).1
  rw [select, Settings.leavesOut_of_judges hj, hr]
  rfl

end

/-- The findings of a file are added in order, as far as the report gets. -/
theorem select_findings (c : Settings) (findings : List Finding) (subs : List Subroutine) :
    (select c findings subs).findings =
      findings ++ (c.forwarded subs).map Subroutine.finding := by
  induction subs generalizing findings with
  | nil => exact (List.append_nil findings).symm
  | cons s rest ih =>
    rcases hc : c.clears s with _ | _
    · rw [(select_cons_of_not_clears hc findings rest).1, Settings.forwarded_cons_of_not_clears hc]
      exact (List.append_nil findings).symm
    · rcases hr : c.retains s with _ | _
      · rw [select_cons_of_not_retains hc hr, ih, Settings.forwarded_cons_of_not_retains hc hr]
      · rw [select_cons_of_retains hc hr, Settings.forwarded_cons_of_retains hc hr, List.map_cons]
        show (select c (findings ++ [s.finding]) rest).findings = _
        rw [ih, List.append_assoc]
        rfl

theorem select_failure_eq_none_iff {c : Settings} {findings : List Finding}
    {subs : List Subroutine} :
    (select c findings subs).failure = none ↔ ∀ s ∈ subs, c.clears s := by
  induction subs generalizing findings with
  | nil => exact ⟨fun _ => nofun, fun _ => rfl⟩
  | cons s rest ih =>
    rw [List.forall_mem_cons]
    rcases hc : c.clears s with _ | _
    · exact iff_of_false (select_cons_of_not_clears hc findings rest).2 (fun h => nomatch h.1)
    · rcases hr : c.retains s with _ | _
      · rw [select_cons_of_not_retains hc hr, ih]
        exact (and_iff_right rfl).symm
      · rw [select_cons_of_retains hc hr]
        exact ih.trans (and_iff_right rfl).symm

theorem select_kept {c : Settings} (findings : List Finding) {subs : List Subroutine}
    (h : ∀ s ∈ subs, c.clears s) : (select c findings subs).kept = subs.filter c.retains := by
  induction subs generalizing findings with
  | nil => rfl
  | cons s rest ih =>
    obtain ⟨hc, h⟩ := List.forall_mem_cons.1 h
    rcases hr : c.retains s with _ | _
    · rw [select_cons_of_not_retains hc hr, ih findings h,
        List.filter_cons_of_neg (Bool.eq_false_iff.1 hr)]
    · rw [select_cons_of_retains hc hr, List.filter_cons_of_pos hr, ← ih (findings ++ [s.finding]) h]

end CodeMetrics
