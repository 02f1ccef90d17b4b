import CodeMetrics.Statistics.Arrange
import CodeMetrics.Proofs.Except

/-!
# Sorting only rearranges

Whatever the values are and however they are compared, sorting them loses none, adds none and
changes none (`perm_of_sortValues`).  For numbers with a place that is a fact about the merge sort;
all other values are moved one at a time, from the front into a first run and then by insertion.
-/

namespace CodeMetrics

namespace Arrange

variable {vs ws : List Value}

theorem append_of_runAfter {down : Bool} {last : Value} {run rest : List Value}
    (h : runAfter down last vs = .ok (run, rest)) : run ++ rest = vs := by
  induction vs generalizing last run with
  | nil =>
    obtain ⟨rfl, rfl⟩ := Prod.mk.inj (Except.ok.inj h)
    rfl
  | cons v vs ih =>
    rw [runAfter] at h
    obtain ⟨steps, -, h⟩ := bind_eq_ok_iff.1 h
    split at h
    · obtain ⟨⟨run', rest'⟩, hrun, h⟩ := bind_eq_ok_iff.1 h
      obtain ⟨rfl, rfl⟩ := Prod.mk.inj (Except.ok.inj h)
      rw [List.cons_append, ih hrun]
    · obtain ⟨rfl, rfl⟩ := Prod.mk.inj (Except.ok.inj h)
      rfl

/-- The first run and what is left of it are the values, the run perhaps turned around. -/
theorem perm_of_firstRun {run rest : List Value} (h : firstRun vs = .ok (run, rest)) :
    (run ++ rest).Perm vs := by
  match vs with
  | [] =>
    obtain ⟨rfl, rfl⟩ := Prod.mk.inj (Except.ok.inj h)
    exact List.Perm.refl []
  | [v] =>
    obtain ⟨rfl, rfl⟩ := Prod.mk.inj (Except.ok.inj h)
    exact List.Perm.refl [v]
  | v :: w :: vs =>
    rw [firstRun] at h
    obtain ⟨down, -, h⟩ := bind_eq_ok_iff.1 h
    obtain ⟨⟨run', rest'⟩, hrun, h⟩ := bind_eq_ok_iff.1 h
    rw [← append_of_runAfter hrun]
    have turned := Except.ok.inj h
    cases down with
    | false =>
      obtain ⟨rfl, rfl⟩ := Prod.mk.inj turned
      exact List.Perm.refl _
    | true =>
      obtain ⟨rfl, rfl⟩ := Prod.mk.inj turned
      exact (List.reverse_perm _).append_right rest'

theorem perm_of_insertAll {sorted : List Value} (h : insertAll sorted vs = .ok ws) :
    ws.Perm (sorted ++ vs) := by
  induction vs generalizing sorted with
  | nil =>
    obtain rfl := Except.ok.inj h
    rw [List.append_nil]
  | cons v vs ih =>
    rw [insertAll] at h
    obtain ⟨i, -, h⟩ := bind_eq_ok_iff.1 h
    -- wherever the value is put, the values around it are the sorted ones
    have inserted : (sorted.take i ++ v :: sorted.drop i).Perm (v :: sorted) := by
      have middle : (sorted.take i ++ v :: sorted.drop i).Perm
          (v :: (sorted.take i ++ sorted.drop i)) := List.perm_middle
      rwa [List.take_append_drop] at middle
    calc ws.Perm (sorted.take i ++ v :: sorted.drop i ++ vs) := ih h
      _ |>.Perm (v :: sorted ++ vs) := inserted.append_right vs
      _ |>.Perm (sorted ++ v :: vs) := List.perm_middle.symm

end Arrange

open Arrange in
/-- The sorted values are the values, each as often as it was given. -/
theorem perm_of_sortValues {vs ws : List Value} (h : sortValues vs = .ok ws) : ws.Perm vs := by
  unfold sortValues at h
  split at h
  · obtain rfl := Except.ok.inj h
    exact List.mergeSort_perm vs mayPrecede
  · obtain ⟨⟨run, rest⟩, hrun, h⟩ := bind_eq_ok_iff.1 h
    exact (perm_of_insertAll h).trans (perm_of_firstRun hrun)

end CodeMetrics
