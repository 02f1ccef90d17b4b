import CodeMetrics.Proofs.Text.Glyphs
import CodeMetrics.Proofs.Text.Lines
import CodeMetrics.Text.Wrap

/-!
# Wrapped lines

Wrapping a text moves nothing: the lines hold the text, part by part, and only blanks at the end of
a line are lost or changed (`breaks_wrap`).  The parts are words as long as they fit on a line, and
glyphs of a word that is too long.
-/

namespace CodeMetrics

/-! ## Broken texts -/

/-- All characters are blanks. -/
def Blank (s : List Char) : Prop := ∀ c ∈ s, isBlank c

/-- The lines hold a text part by part.  Where one ends, blanks of the text may be left out and
other blanks may stand instead. -/
inductive Breaks : List Char → List (List Char) → Prop
  | nil : Breaks [] []
  | cons {part gap blanks rest : List Char} {lines : List (List Char)} (hgap : Blank gap)
      (hblanks : Blank blanks) (hrest : Breaks rest lines) :
      Breaks (part ++ gap ++ rest) ((part ++ blanks) :: lines)

/-- A line is shown as another one that differs in the blanks at its end. -/
def ShownAs (line shown : List Char) : Prop :=
  ∃ part gap blanks, line = part ++ gap ∧ shown = part ++ blanks ∧ Blank gap ∧ Blank blanks

theorem blank_nil : Blank [] := List.forall_mem_nil _

theorem Blank.append {s t : List Char} (hs : Blank s) (ht : Blank t) : Blank (s ++ t) :=
  List.forall_mem_append.2 ⟨hs, ht⟩

theorem breaks_flatten {lines : List (List Char)} {f : List Char → List Char}
    (h : ∀ line ∈ lines, ShownAs line (f line)) : Breaks lines.flatten (lines.map f) := by
  induction lines with
  | nil => exact .nil
  | cons line rest ih =>
    obtain ⟨⟨part, gap, blanks, hline, hshown, hgap, hblanks⟩, hrest⟩ := List.forall_mem_cons.1 h
    rw [List.flatten_cons, List.map_cons, hshown, hline]
    exact .cons hgap hblanks (ih hrest)

/-- Where a text was broken already, blanks may be left out. -/
theorem Breaks.append {s t gap : List Char} {first second : List (List Char)} (hs : Breaks s first)
    (hne : first ≠ []) (hgap : Blank gap) (ht : Breaks t second) :
    Breaks (s ++ gap ++ t) (first ++ second) := by
  induction hs with
  | nil => exact absurd rfl hne
  | @cons part own blanks rest lines hown hblanks hrest ih =>
    rw [List.cons_append]
    by_cases hlines : lines = []
    · subst hlines
      cases hrest
      have hjoin := @Breaks.cons part _ _ _ _ (hown.append hgap) hblanks ht
      simpa [List.append_assoc] using hjoin
    · have hlater := @Breaks.cons part _ _ _ _ hown hblanks (ih hlines)
      simpa [List.append_assoc] using hlater

theorem breaks_intercalate (sep : Char) (hsep : isBlank sep) {pieces : List (List Char)}
    {f : List Char → List (List Char)}
    (h : ∀ piece ∈ pieces, Breaks piece (f piece) ∧ f piece ≠ []) :
    Breaks ([sep].intercalate pieces) (pieces.flatMap f) := by
  induction pieces with
  | nil => exact .nil
  | cons piece rest ih =>
    obtain ⟨⟨hpiece, hne⟩, hrest⟩ := List.forall_mem_cons.1 h
    cases rest with
    | nil => simpa using hpiece
    | cons next others =>
      have hgap : Blank [sep] := List.forall_mem_singleton.2 hsep
      have hjoin := hpiece.append hne hgap (ih hrest)
      simpa [List.intercalate, List.append_assoc] using hjoin

namespace Wrap

/-! ## Words -/

theorem flatten_wordsFrom (word : List Char) (ended : Bool) (s : List Char) :
    (wordsFrom word ended s).flatten = word ++ s := by
  fun_induction wordsFrom word ended s <;> simp_all

/-- The words of a text make up the text. -/
theorem flatten_words (s : List Char) : (words s).flatten = s := by
  have h := flatten_wordsFrom [] false (s.dropWhile isBlank)
  unfold words
  split
  · simp
  · next first rest hwords =>
    rw [hwords, List.flatten_cons, List.nil_append] at h
    rw [List.flatten_cons, List.append_assoc, h, List.takeWhile_append_dropWhile]

/-! ## Long words -/

theorem flatten_foldGlyphs (width used : Nat) (line : List Char) (gs : List Glyph) :
    (foldGlyphs width used line gs).flatten = line ++ gs.flatMap Glyph.text := by
  fun_induction foldGlyphs width used line gs <;> simp_all

/-- The parts of a long word make up the word. -/
theorem flatten_foldWord (width : Nat) (word : List Char) :
    (foldWord width word).flatten = word := by
  rw [foldWord, flatten_foldGlyphs, List.nil_append, flatMap_glyphs]

theorem foldGlyphs_ne_nil (width used : Nat) (line : List Char) (gs : List Glyph) :
    foldGlyphs width used line gs ≠ [] := by
  fun_induction foldGlyphs width used line gs <;> simp_all

theorem foldWord_ne_nil (width : Nat) (word : List Char) : foldWord width word ≠ [] :=
  foldGlyphs_ne_nil width 0 [] (glyphs word)

theorem dropLast_append_getLastD {parts : List (List Char)} (h : parts ≠ []) :
    parts.dropLast ++ [parts.getLastD []] = parts := by
  rw [List.getLastD_eq_getLast?, List.getLast?_eq_some_getLast h, Option.getD_some,
    List.dropLast_concat_getLast]

/-- The parts fit on a line, as each glyph does. -/
theorem sum_foldGlyphs_le {width used : Nat} {line : List Char} {gs : List Glyph}
    (hsolid : ∀ g ∈ gs, g.IsSolid) (hgs : ∀ g ∈ gs, g.width ≤ width)
    (hline : (line.map charWidth).sum = used) (hused : used ≤ width) :
    ∀ part ∈ foldGlyphs width used line gs, (part.map charWidth).sum ≤ width := by
  induction gs generalizing used line with
  | nil => exact List.forall_mem_singleton.2 (hline.trans_le hused)
  | cons g rest ih =>
    obtain ⟨hg, hrest⟩ := List.forall_mem_cons.1 hsolid
    obtain ⟨hwidth, hwidths⟩ := List.forall_mem_cons.1 hgs
    rw [foldGlyphs]
    split
    · exact List.forall_mem_cons.2 ⟨hline.trans_le hused, ih hrest hwidths hg.sum_text hwidth⟩
    · refine ih hrest hwidths ?_ (by omega)
      rw [List.map_append, List.sum_append, hline, hg.sum_text]

/-- Each part of a long word fits on a line. -/
theorem cells_foldWord_le {width : Nat} (hwidth : 2 ≤ width) {word : List Char}
    (hword : Steady word) : ∀ part ∈ foldWord width word, Steady part ∧ cells part ≤ width := by
  have hsolid := (solid_glyphs hword).1
  have hgs : ∀ g ∈ glyphs word, g.width ≤ width := by
    intro g hg
    obtain ⟨c, marks, -, hc, -⟩ := hsolid g hg
    exact (hc ▸ charWidth_le c).trans hwidth
  intro part hpart
  have hsteady : Steady part := by
    refine hword.sublist ?_
    rw [← flatten_foldWord width word]
    exact List.sublist_flatten_of_mem hpart
  rw [cells_of_steady hsteady]
  have hempty : (([] : List Char).map charWidth).sum = 0 := rfl
  exact ⟨hsteady, sum_foldGlyphs_le hsolid hgs hempty (Nat.zero_le width) part hpart⟩

/-! ## Lines -/

theorem flatten_flush (line : List Char) (lines : List (List Char)) :
    (flush line lines).flatten = line ++ lines.flatten := by
  cases line <;> simp [flush]

theorem linesFrom_ne_nil (overflow : Overflow) (width used : Nat) (line : List Char)
    (words : List (List Char)) : linesFrom overflow width used line words ≠ [] := by
  induction words generalizing used line with
  | nil => exact List.cons_ne_nil line []
  | cons word rest ih =>
    have hflush (lines : List (List Char)) (h : lines ≠ []) : flush line lines ≠ [] := by
      unfold flush
      split
      · exact h
      · exact List.cons_ne_nil line lines
    rw [linesFrom]
    dsimp only
    split
    · exact ih _ _
    · split
      · exact hflush _ (List.append_ne_nil_of_right_ne_nil _ (ih _ _))
      · exact hflush _ (ih _ _)

/-- The lines of some words make up the words. -/
theorem flatten_linesFrom (overflow : Overflow) (width used : Nat) (line : List Char)
    (words : List (List Char)) :
    (linesFrom overflow width used line words).flatten = line ++ words.flatten := by
  induction words generalizing used line with
  | nil => simp [linesFrom]
  | cons word rest ih =>
    rw [linesFrom]
    dsimp only
    split
    · rw [ih, List.flatten_cons, List.append_assoc]
    · split
      · have hparts := flatten_foldWord width word
        have hlast := congrArg List.flatten (dropLast_append_getLastD (foldWord_ne_nil width word))
        rw [List.flatten_append, List.flatten_singleton, hparts] at hlast
        rw [flatten_flush, List.flatten_append, ih, List.flatten_cons,
          ← List.append_assoc _ _ rest.flatten, hlast]
      · rw [flatten_flush, ih, List.flatten_cons]

/-- The line fits when the blanks at its end do not count. -/
def Fits (width : Nat) (line : List Char) : Prop := cells (dropEndWhile isBlank line) ≤ width

theorem prefix_of_dropEndWhile_append (p : Char → Bool) (s t : List Char) :
    dropEndWhile p (s ++ t) <+: s ++ dropEndWhile p t := by
  unfold dropEndWhile
  rw [List.reverse_append, List.dropWhile_append]
  split
  · exact (List.rdropWhile_prefix p s).trans (List.prefix_append _ _)
  · simp only [List.reverse_append, List.reverse_reverse, List.prefix_refl]

theorem dropEndWhile_sublist (p : Char → Bool) (s : List Char) : (dropEndWhile p s).Sublist s :=
  (List.rdropWhile_prefix p s).sublist

theorem getLastD_mem {parts : List (List Char)} (h : parts ≠ []) : parts.getLastD [] ∈ parts := by
  rw [List.getLastD_eq_getLast?, List.getLast?_eq_some_getLast h]
  exact List.getLast_mem h

/-- Each line of a steady text fits, if the line that is begun does. -/
theorem fits_linesFrom {width used : Nat} (hwidth : 2 ≤ width) {line : List Char}
    {words : List (List Char)} (hline : Steady line) (hwords : ∀ word ∈ words, Steady word)
    (hused : cells line ≤ used) (hfits : Fits width line) :
    ∀ l ∈ linesFrom .fold width used line words, Fits width l := by
  induction words generalizing used line with
  | nil => exact List.forall_mem_singleton.2 hfits
  | cons word rest ih =>
    obtain ⟨hword, hrest⟩ := List.forall_mem_cons.1 hwords
    have hflush {lines : List (List Char)} (h : ∀ l ∈ lines, Fits width l) :
        ∀ l ∈ flush line lines, Fits width l := by
      unfold flush
      split
      · exact h
      · exact List.forall_mem_cons.2 ⟨hfits, h⟩
    rw [linesFrom]
    dsimp only
    split
    · next hneeded =>
      refine ih (steady_append_iff.2 ⟨hline, hword⟩) hrest ?_ ?_
      · rw [cells_append_of_steady hline hword]
        omega
      · have hprefix := cells_le_of_prefix (prefix_of_dropEndWhile_append isBlank line word)
        -- The blanks behind the word do not count, so the line still fits with it.
        have hshort := hword.sublist (dropEndWhile_sublist isBlank word)
        rw [cells_append_of_steady hline hshort] at hprefix
        unfold Fits
        omega
    · split
      · -- The last part of a long word begins the next line.
        have hparts := cells_foldWord_le hwidth hword
        have hlast := hparts _ (getLastD_mem (foldWord_ne_nil width word))
        refine hflush (List.forall_mem_append.2 ⟨fun part hpart => ?_, ?_⟩)
        · have hwidest := (hparts part (List.dropLast_subset _ hpart)).2
          exact (cells_dropEndWhile_le isBlank part).trans hwidest
        · exact ih hlast.1 hrest (Nat.le_refl _) ((cells_dropEndWhile_le isBlank _).trans hlast.2)
      · next hneeded hfold =>
        refine hflush (ih hword hrest (Nat.le_refl _) ?_)
        exact Nat.le_of_not_lt fun h => hfold ⟨h, rfl⟩

/-! ## Blanks at the end of a line -/

theorem exists_take_append (front tail : List Char) (room : Nat) :
    ∃ left, left <+: tail ∧
      (front ++ tail).take ((front ++ tail).length - min tail.length room) = front ++ left := by
  refine ⟨_, List.take_prefix (tail.length - min tail.length room) tail, ?_⟩
  rw [List.length_append, List.take_append, List.take_of_length_le (by omega)]
  congr 2
  omega

/-- A line is its text and the blanks at its end, of which `trimEnd` leaves some. -/
theorem exists_trimEnd_eq (width : Nat) (line : List Char) :
    ∃ tail left, line = dropEndWhile isBlank line ++ tail ∧ Blank tail ∧ left <+: tail ∧
      trimEnd width line = dropEndWhile isBlank line ++ left := by
  have hline : line = dropEndWhile isBlank line ++ (line.reverse.takeWhile isBlank).reverse := by
    unfold dropEndWhile
    rw [← List.reverse_append, List.takeWhile_append_dropWhile, List.reverse_reverse]
  obtain ⟨left, hleft, htake⟩ := exists_take_append (dropEndWhile isBlank line)
    (line.reverse.takeWhile isBlank).reverse (line.length - width)
  rw [← hline, List.length_reverse] at htake
  exact ⟨_, left, hline, fun c hc => List.mem_takeWhile_imp (List.mem_reverse.1 hc), hleft, htake⟩

/-- A line that fits is shown with nothing but blanks lost at its end. -/
theorem shownAs_limit {width : Nat} (hwidth : 2 ≤ width) {line : List Char} (hline : Steady line)
    (hfits : Fits width line) :
    ShownAs line (limit .fold width (trimEnd width line)) ∧
      cells (limit .fold width (trimEnd width line)) ≤ width := by
  obtain ⟨tail, left, hsplit, htail, hleft, htrim⟩ := exists_trimEnd_eq width line
  have hblank : Blank left := fun c hc => htail c (hleft.subset hc)
  have hsteady : Steady (trimEnd width line) := hline.sublist (List.take_sublist _ line)
  unfold limit
  dsimp only
  split
  · next hcells => exact ⟨⟨_, tail, left, hsplit, htrim, htail, hblank⟩, hcells⟩
  · next hcells =>
    have hfit : fitCells (trimEnd width line) width =
        takeCells width (glyphs (trimEnd width line)) := by
      unfold fitCells
      dsimp only
      rw [if_neg (by omega), if_neg (by omega)]
    rw [hfit]
    -- The text of the line fits, so the cut takes place among the blanks behind it.
    obtain ⟨shown, blank, htake, ⟨more, rfl⟩, hshown, hends⟩ :=
      front_of_takeCells hsteady (by omega) (htrim ▸ List.prefix_append _ left) hfits
    rw [flatMap_glyphs] at hshown
    have hsteady' := hsteady.sublist hshown.sublist
    rw [htrim, List.prefix_append_right_inj] at hshown
    have hmore : Blank more := fun c hc => hblank c (hshown.subset hc)
    have hend : Blank blank ∧ Steady blank := by
      rcases hends with rfl | rfl
      · exact ⟨blank_nil, List.forall_mem_nil _⟩
      · exact ⟨List.forall_mem_singleton.2 (by decide +kernel), by decide⟩
    refine ⟨⟨_, tail, more ++ blank, hsplit, ?_, htail, hmore.append hend.1⟩, ?_⟩
    · rw [htake, List.append_assoc]
    · have hsum := sum_takeCells_le (solid_glyphs hsteady).1 width
      rwa [← cells_of_steady (htake ▸ steady_append_iff.2 ⟨hsteady', hend.2⟩)] at hsum

end Wrap

/-! ## Wrapping -/

/-- The lines that one line of a text is wrapped into. -/
def wrapLine (width : Nat) (line : List Char) : List (List Char) :=
  ((Wrap.linesFrom .fold width 0 [] (Wrap.words line)).map (Wrap.trimEnd width)).map
    (Wrap.limit .fold width)

theorem breaks_wrapLine {width : Nat} (hwidth : 2 ≤ width) {line : List Char}
    (hline : Steady line) :
    Breaks line (wrapLine width line) ∧ ∀ l ∈ wrapLine width line, cells l ≤ width := by
  have hwords : ∀ word ∈ Wrap.words line, Steady word := by
    intro word hword
    refine hline.sublist ?_
    rw [← Wrap.flatten_words line]
    exact List.sublist_flatten_of_mem hword
  have hflatten := Wrap.flatten_linesFrom .fold width 0 [] (Wrap.words line)
  rw [List.nil_append, Wrap.flatten_words] at hflatten
  have hfits : ∀ l ∈ Wrap.linesFrom .fold width 0 [] (Wrap.words line), Wrap.Fits width l :=
    Wrap.fits_linesFrom hwidth (List.forall_mem_nil _) hwords (Nat.zero_le 0) (Nat.zero_le width)
  have hshown : ∀ l ∈ Wrap.linesFrom .fold width 0 [] (Wrap.words line),
      ShownAs l (Wrap.limit .fold width (Wrap.trimEnd width l)) ∧
        cells (Wrap.limit .fold width (Wrap.trimEnd width l)) ≤ width := by
    intro l hl
    refine Wrap.shownAs_limit hwidth (hline.sublist ?_) (hfits l hl)
    rw [← hflatten]
    exact List.sublist_flatten_of_mem hl
  unfold wrapLine
  rw [List.map_map]
  constructor
  · have hbreaks := breaks_flatten fun l hl => (hshown l hl).1
    rwa [hflatten] at hbreaks
  · exact List.forall_mem_map.2 fun l hl => (hshown l hl).2

theorem wrapLine_ne_nil (width : Nat) (line : List Char) : wrapLine width line ≠ [] := by
  unfold wrapLine
  rw [ne_eq, List.map_eq_nil_iff, List.map_eq_nil_iff]
  exact Wrap.linesFrom_ne_nil _ _ _ _ _

theorem wrap_eq_flatMap {s : List Char} (htab : '\t' ∉ s) (width : Nat) :
    wrap width s = (splitWhere (· = '\n') s).flatMap (wrapLine width) := by
  unfold wrap wrapLines
  rw [List.map_flatMap]
  refine List.flatMap_congr fun piece hpiece => ?_
  rw [expandTabs_of_notMem fun h => htab (mem_of_mem_splitWhere hpiece h), wrapLine]

/-- Wrapping breaks a text into lines that fit, and loses nothing but blanks at line ends.  The text
must be steady and free of tabs, which are drawn as blanks. -/
theorem breaks_wrap {width : Nat} (hwidth : 2 ≤ width) {s : List Char} (hs : Steady s)
    (htab : '\t' ∉ s) :
    Breaks s (wrap width s) ∧ ∀ line ∈ wrap width s, cells line ≤ width := by
  have hpieces : ∀ piece ∈ splitWhere (· = '\n') s,
      Breaks piece (wrapLine width piece) ∧ ∀ l ∈ wrapLine width piece, cells l ≤ width :=
    fun piece hpiece => breaks_wrapLine hwidth fun c hc => hs c (mem_of_mem_splitWhere hpiece hc)
  rw [wrap_eq_flatMap htab]
  constructor
  · have hbreaks := breaks_intercalate '\n' (by decide +kernel) fun piece hpiece =>
      ⟨(hpieces piece hpiece).1, wrapLine_ne_nil width piece⟩
    rwa [intercalate_splitWhere] at hbreaks
  · exact List.forall_mem_flatMap.2 fun piece hpiece => (hpieces piece hpiece).2

end CodeMetrics
