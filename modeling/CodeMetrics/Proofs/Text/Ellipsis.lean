import CodeMetrics.Proofs.Text.Glyphs
import CodeMetrics.Proofs.Text.Lines

/-!
# Ellipses in texts

Cutting a text into lines, drawing its tabs and leaving out what steers the terminal takes no
ellipsis away and adds none.  A text that is cut gets one at its end (`ellipses_cut_of_lt`).
-/

namespace CodeMetrics

/-- How many ellipses a text has. -/
def ellipses (s : List Char) : Nat := s.count '…'

variable {s t : List Char}

@[simp] theorem ellipses_nil : ellipses [] = 0 := rfl

@[simp] theorem ellipses_append (s t : List Char) : ellipses (s ++ t) = ellipses s + ellipses t :=
  List.count_append

theorem ellipses_cons (c : Char) (s : List Char) : ellipses (c :: s) = ellipses [c] + ellipses s :=
  ellipses_append [c] s

@[simp] theorem ellipses_blanks (n : Nat) : ellipses (List.replicate n ' ') = 0 := by
  rw [ellipses, List.count_replicate]
  rfl

theorem ellipses_eq_zero_iff : ellipses s = 0 ↔ '…' ∉ s := List.count_eq_zero

theorem ellipses_intercalate {between : List Char} (h : ellipses between = 0)
    (pieces : List (List Char)) :
    ellipses (between.intercalate pieces) = (pieces.map ellipses).sum := by
  induction pieces with
  | nil => rfl
  | cons p rest ih =>
    by_cases hrest : rest = []
    · rw [hrest, List.intercalate_singleton, List.map_singleton, List.sum_singleton]
    · rw [List.intercalate_cons_of_ne_nil hrest, ellipses_append, ellipses_append, h, ih,
        List.map_cons, List.sum_cons, Nat.add_zero]

/-- What is told apart from an ellipsis is none. -/
theorem ellipses_cons_of_pos {p : Char → Bool} (h : p '…' = false) {c : Char} (hc : p c)
    (s : List Char) : ellipses (c :: s) = ellipses s := by
  refine List.count_cons_of_ne ?_
  rintro rfl
  rw [h] at hc
  cases hc

/-! ## Parts of a text -/

theorem ellipses_splitWhere {p : Char → Bool} (h : p '…' = false) (s : List Char) :
    ((splitWhere p s).map ellipses).sum = ellipses s := by
  fun_induction splitWhere p s with
  | case1 => rfl
  | case2 c rest hc ih =>
    rw [List.map_cons, List.sum_cons, ih, ellipses_nil, ellipses_cons_of_pos h hc, Nat.zero_add]
  | case3 c rest hc hpieces ih =>
    rw [hpieces] at ih
    rw [List.map_singleton, List.sum_singleton, ellipses_cons c rest, ← ih]
    rfl
  | case4 c rest hc piece pieces hpieces ih =>
    rw [hpieces, List.map_cons, List.sum_cons] at ih
    rw [List.map_cons, List.sum_cons, ellipses_cons c piece, ellipses_cons c rest, ← ih,
      Nat.add_assoc]

theorem ellipses_expandPieces (column : Nat) (pieces : List (List Char)) :
    ellipses (expandPieces column pieces) = (pieces.map ellipses).sum := by
  fun_induction expandPieces column pieces with
  | case1 => rfl
  | case2 column last => rw [List.map_singleton, List.sum_singleton]
  | case3 column piece rest hrest wide column' filler ih =>
    have hwide : ellipses wide = ellipses piece := ellipses_append piece [' ']
    rw [ellipses_append, ellipses_append, ellipses_blanks, ih, hwide, List.map_cons, List.sum_cons,
      Nat.add_zero]

theorem ellipses_expandTabs (line : List Char) : ellipses (expandTabs line) = ellipses line := by
  rw [expandTabs, ellipses_expandPieces, ellipses_splitWhere (by decide)]

theorem ellipses_dropWhile {p : Char → Bool} (h : p '…' = false) (s : List Char) :
    ellipses (s.dropWhile p) = ellipses s := by
  induction s with
  | nil => rfl
  | cons c rest ih =>
    rw [List.dropWhile_cons]
    split
    · next hc => rw [ih, ellipses_cons_of_pos h hc]
    · rfl

theorem ellipses_dropEndWhile {p : Char → Bool} (h : p '…' = false) (s : List Char) :
    ellipses (dropEndWhile p s) = ellipses s := by
  have hfront := ellipses_dropWhile h s.reverse
  unfold ellipses at hfront ⊢
  rwa [List.count_reverse, ← List.count_reverse (l := s.reverse.dropWhile p)] at hfront

theorem ellipses_dropSteering (s : List Char) : ellipses (dropSteering s) = ellipses s :=
  List.count_filter (by decide)

theorem isBlank_ellipsis : isBlank '…' = false := by decide +kernel

/-! ## Cutting -/

theorem ellipses_takeCells_le (room : Nat) (gs : List Glyph) :
    ellipses (takeCells room gs) ≤ ellipses (gs.flatMap Glyph.text) := by
  induction gs generalizing room with
  | nil => exact Nat.le_refl _
  | cons g rest ih =>
    rw [takeCells, List.flatMap_cons, ellipses_append]
    split
    · exact Nat.zero_le _
    · split
      · rw [ellipses_append]
        exact Nat.add_le_add_left (ih _) _
      · exact Nat.zero_le _

/-- A text that is cut ends in an ellipsis that it did not have. -/
theorem ellipses_cut_of_lt {room : Nat} (h : room < cells s) :
    1 ≤ ellipses (cut s room) ∧ ellipses (cut s room) ≤ ellipses s + 1 := by
  have hshown := ellipses_takeCells_le (room - 1) (glyphs s)
  have hellipsis : ellipses ['…'] = 1 := rfl
  rw [flatMap_glyphs] at hshown
  rw [cut_of_lt h, ellipses_append, hellipsis]
  omega

end CodeMetrics
