import CodeMetrics.Text.Width
import CodeMetrics.Text.Wrap
import Mathlib.Algebra.GroupWithZero.Nat
import Mathlib.Data.List.DropRight

/-!
# The cells of a part of a text

A text never takes fewer cells than its front, although two kinds of character act on their
neighbours: what follows can only widen a character, not take cells away from it.
-/

namespace CodeMetrics

theorem cellsFrom_le_append (last? : Option Char) (s t : List Char) :
    cellsFrom last? s ≤ cellsFrom last? (s ++ t) := by
  fun_induction cellsFrom last? s with
  | case1 => exact Nat.zero_le _
  | case2 => exact Nat.zero_le _
  | case3 last? d rest ih =>
    rw [List.cons_append, List.cons_append, cellsFrom.eq_def last? (joiner :: d :: _)]
    exact ih
  | case4 last? rest hjoiner ih =>
    rw [List.cons_append, cellsFrom.eq_def last? (emojiSelector :: _)]
    exact Nat.add_le_add_left ih _
  | case5 last? c rest hjoiner hselector w ih =>
    rw [List.cons_append, cellsFrom.eq_def last? (c :: _)]
    simp only [if_neg hjoiner, if_neg hselector]
    exact Nat.add_le_add_left ih _

theorem cells_le_of_prefix {s t : List Char} (h : s <+: t) : cells s ≤ cells t := by
  obtain ⟨rest, rfl⟩ := h
  exact cellsFrom_le_append none s rest

theorem cells_dropEndWhile_le (p : Char → Bool) (s : List Char) :
    cells (dropEndWhile p s) ≤ cells s :=
  cells_le_of_prefix (List.rdropWhile_prefix p s)

theorem trimEnd_isPrefix (width : Nat) (s : List Char) : Wrap.trimEnd width s <+: s :=
  List.take_prefix _ s

/-- White space at the end of a text stays if there is none or all of it has room. -/
theorem trimEnd_eq_self {s : List Char} {width : Nat}
    (h : dropEndWhile isBlank s = s ∨ s.length ≤ width) : Wrap.trimEnd width s = s := by
  refine List.take_of_length_le ?_
  obtain h | h := h
  · have hlength := congrArg List.length h
    have hsplit := congrArg List.length
      (List.takeWhile_append_dropWhile (p := isBlank) (l := s.reverse))
    rw [dropEndWhile, List.length_reverse] at hlength
    rw [List.length_append, List.length_reverse] at hsplit
    omega
  · omega

/-- A text that fits is not cut. -/
theorem cut_of_le {s : List Char} {room : Nat} (h : cells s ≤ room) : cut s room = s := if_pos h

end CodeMetrics
