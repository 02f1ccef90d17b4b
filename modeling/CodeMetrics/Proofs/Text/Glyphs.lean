import CodeMetrics.Proofs.Text.Width

/-!
# Glyphs of a steady text

The glyphs of a text are the text, cut into parts.  In a steady text, where no character acts on its
neighbours, the cells of a text are those of its characters, and a glyph is one character with the
marks behind it.  So a text that is cut to some cells keeps every front that fits into them
(`front_of_takeCells`).
-/

namespace CodeMetrics

/-! ## Steady texts -/

/-- No character of the text acts on its neighbours. -/
def Steady (s : List Char) : Prop := ∀ c ∈ s, c ≠ joiner ∧ c ≠ emojiSelector

instance (s : List Char) : Decidable (Steady s) := List.decidableBAll _ s

variable {s t : List Char}

theorem steady_append_iff : Steady (s ++ t) ↔ Steady s ∧ Steady t := List.forall_mem_append

theorem Steady.sublist (h : Steady t) (hs : s.Sublist t) : Steady s :=
  fun c hc => h c (hs.subset hc)

theorem cellsFrom_of_steady (h : Steady s) (last? : Option Char) :
    cellsFrom last? s = (s.map charWidth).sum := by
  induction s generalizing last? with
  | nil => rfl
  | cons c rest ih =>
    obtain ⟨⟨hjoiner, hselector⟩, hrest⟩ := List.forall_mem_cons.1 h
    rw [cellsFrom.eq_def]
    simp only [if_neg hjoiner, if_neg hselector, ih hrest, List.map_cons, List.sum_cons]

theorem cells_of_steady (h : Steady s) : cells s = (s.map charWidth).sum :=
  cellsFrom_of_steady h none

theorem cells_append_of_steady (hs : Steady s) (ht : Steady t) :
    cells (s ++ t) = cells s + cells t := by
  rw [cells_of_steady hs, cells_of_steady ht, cells_of_steady (steady_append_iff.2 ⟨hs, ht⟩),
    List.map_append, List.sum_append]

theorem CodeRanges.has_eq_any (ranges : CodeRanges) (c : Char) :
    ranges.has c = ranges.toList.any fun (first, last) => first ≤ c.toNat && c.toNat ≤ last := by
  rw [has, Array.any_toList]

theorem charWidth_ellipsis : charWidth '…' = 1 := by
  -- The list is much faster to evaluate than the array.
  rw [charWidth, CodeRanges.has_eq_any, CodeRanges.has_eq_any]
  decide +kernel

theorem charWidth_le (c : Char) : charWidth c ≤ 2 := by
  unfold charWidth
  split
  · decide
  · split
    · decide
    · split <;> decide

/-! ## Glyphs -/

theorem flatMap_extend (cs : List Char) (wider : Nat) (acc : List Glyph) :
    (Glyph.extend cs wider acc).reverse.flatMap Glyph.text =
      acc.reverse.flatMap Glyph.text ++ cs := by
  cases acc with
  | nil => simp [Glyph.extend]
  | cons g rest => simp [Glyph.extend]

theorem flatMap_glyphsFrom (acc : List Glyph) (last? : Option Char) (s : List Char) :
    (glyphsFrom acc last? s).flatMap Glyph.text = acc.reverse.flatMap Glyph.text ++ s := by
  fun_induction glyphsFrom acc last? s <;> simp_all [flatMap_extend]

/-- The glyphs of a text make up the text. -/
theorem flatMap_glyphs (s : List Char) : (glyphs s).flatMap Glyph.text = s :=
  flatMap_glyphsFrom [] none s

/-- The glyph is a character and marks without cells behind it. -/
def Glyph.IsSolid (g : Glyph) : Prop :=
  ∃ c marks, g.text = c :: marks ∧ charWidth c = g.width ∧ ∀ m ∈ marks, charWidth m = 0

theorem Glyph.isSolid_extend {c : Char} (hc : charWidth c = 0) {acc : List Glyph}
    (h : ∀ g ∈ acc, g.IsSolid) : ∀ g ∈ extend [c] 0 acc, g.IsSolid := by
  cases acc with
  | nil => exact List.forall_mem_singleton.2 ⟨c, [], rfl, hc, List.forall_mem_nil _⟩
  | cons g rest =>
    obtain ⟨⟨b, marks, htext, hwidth, hmarks⟩, hrest⟩ := List.forall_mem_cons.1 h
    refine List.forall_mem_cons.2 ⟨⟨b, marks ++ [c], ?_, hwidth, ?_⟩, hrest⟩
    · simp only [htext, List.cons_append]
    · exact List.forall_mem_append.2 ⟨hmarks, List.forall_mem_singleton.2 hc⟩

theorem Glyph.width_pos_extend {c : Char} {acc : List Glyph}
    (h : ∀ g ∈ acc.dropLast, 0 < g.width) : ∀ g ∈ (extend [c] 0 acc).dropLast, 0 < g.width := by
  cases acc with
  | nil => exact List.forall_mem_nil _
  | cons g rest =>
    cases rest with
    | nil => exact List.forall_mem_nil _
    | cons g' rest =>
      rw [List.dropLast_cons_cons, List.forall_mem_cons] at h
      rw [extend, List.dropLast_cons_cons, List.forall_mem_cons]
      exact h

/-- Only the first glyph may have no cells, if the text begins with marks. -/
theorem solid_glyphsFrom (hs : Steady s) {acc : List Glyph} (last? : Option Char)
    (hsolid : ∀ g ∈ acc, g.IsSolid) (hwidth : ∀ g ∈ acc.dropLast, 0 < g.width) :
    (∀ g ∈ glyphsFrom acc last? s, g.IsSolid) ∧
      ∀ g ∈ (glyphsFrom acc last? s).tail, 0 < g.width := by
  induction s generalizing acc last? with
  | nil =>
    rw [glyphsFrom, List.tail_reverse]
    exact ⟨fun g hg => hsolid g (List.mem_reverse.1 hg),
      fun g hg => hwidth g (List.mem_reverse.1 hg)⟩
  | cons c rest ih =>
    obtain ⟨⟨hjoiner, hselector⟩, hrest⟩ := List.forall_mem_cons.1 hs
    rw [glyphsFrom.eq_def]
    simp only [if_neg hjoiner, if_neg hselector]
    by_cases hc : charWidth c = 0
    · rw [if_pos hc]
      exact ih hrest _ (Glyph.isSolid_extend hc hsolid) (Glyph.width_pos_extend hwidth)
    · rw [if_neg hc]
      refine ih hrest _ ?_ ?_
      · exact List.forall_mem_cons.2 ⟨⟨c, [], rfl, rfl, List.forall_mem_nil _⟩, hsolid⟩
      · cases acc with
        | nil => exact List.forall_mem_nil _
        | cons g others =>
          rw [List.dropLast_cons_cons]
          exact List.forall_mem_cons.2 ⟨Nat.pos_of_ne_zero hc, hwidth⟩

theorem solid_glyphs (hs : Steady s) :
    (∀ g ∈ glyphs s, g.IsSolid) ∧ ∀ g ∈ (glyphs s).tail, 0 < g.width :=
  solid_glyphsFrom hs none (List.forall_mem_nil _) (List.forall_mem_nil _)

/-! ## Cutting -/

theorem Glyph.IsSolid.sum_text {g : Glyph} (h : g.IsSolid) :
    (g.text.map charWidth).sum = g.width := by
  obtain ⟨c, marks, htext, hwidth, hmarks⟩ := h
  have hzero : (marks.map charWidth).sum = 0 := by
    exact List.sum_eq_zero_iff_forall_eq_nat.2 (List.forall_mem_map.2 hmarks)
  rw [htext, List.map_cons, List.sum_cons, hzero, hwidth, Nat.add_zero]

/-- Cutting the glyphs to some cells keeps a front of their text: what is shown is a longer front,
and a blank for half of a wide character. -/
def KeepsFront (room : Nat) (gs : List Glyph) (front : List Char) : Prop :=
  ∃ shown blank, takeCells room gs = shown ++ blank ∧ front <+: shown ∧
    shown <+: gs.flatMap Glyph.text ∧ (blank = [] ∨ blank = [' '])

theorem keepsFront_nil (room : Nat) (gs : List Glyph) : KeepsFront room gs [] := by
  induction gs generalizing room with
  | nil => exact ⟨[], [], rfl, List.nil_prefix, List.nil_prefix, .inl rfl⟩
  | cons g rest ih =>
    unfold KeepsFront
    rw [takeCells, List.flatMap_cons]
    split
    · exact ⟨[], [], rfl, List.nil_prefix, List.nil_prefix, .inl rfl⟩
    · split
      · obtain ⟨shown, blank, hshown, -, hprefix, hblank⟩ := ih (room - g.width)
        refine ⟨g.text ++ shown, blank, ?_, List.nil_prefix,
          (List.prefix_append_right_inj _).2 hprefix, hblank⟩
        rw [hshown, List.append_assoc]
      · exact ⟨[], [' '], rfl, List.nil_prefix, List.nil_prefix, .inr rfl⟩

/-- A glyph that fits is kept as a whole, and the rest of the front is left to the next glyphs. -/
theorem keepsFront_cons {room : Nat} {g : Glyph} {rest : List Glyph} {front : List Char}
    (hg : g.IsSolid) (hroom : 0 < room ∨ 0 < g.width)
    (hfront : front <+: g.text ++ rest.flatMap Glyph.text)
    (hfits : (front.map charWidth).sum ≤ room)
    (ih : ∀ front, front <+: rest.flatMap Glyph.text →
      (front.map charWidth).sum ≤ room - g.width → KeepsFront (room - g.width) rest front) :
    KeepsFront room (g :: rest) front := by
  cases hcons : front with
  | nil => exact keepsFront_nil room (g :: rest)
  | cons c others =>
    have hwidth : g.width ≤ room := by
      obtain ⟨b, marks, htext, hb, -⟩ := hg
      rw [hcons, htext, List.cons_append] at hfront
      obtain ⟨rfl, -⟩ := List.cons_prefix_cons.1 hfront
      rw [hcons, List.map_cons, List.sum_cons] at hfits
      omega
    rw [← hcons]
    have htake : takeCells room (g :: rest) = g.text ++ takeCells (room - g.width) rest := by
      rw [takeCells, if_neg (by omega), if_pos hwidth]
    -- The front ends in this glyph or goes on behind it.
    obtain hshort | ⟨others, rfl⟩ :=
      List.prefix_or_prefix_of_prefix hfront (List.prefix_append g.text _)
    · obtain ⟨shown, blank, hshown, -, hprefix, hblank⟩ := keepsFront_nil (room - g.width) rest
      refine ⟨g.text ++ shown, blank, ?_, hshort.trans (List.prefix_append _ _),
        (List.prefix_append_right_inj _).2 hprefix, hblank⟩
      rw [htake, hshown, List.append_assoc]
    · rw [List.map_append, List.sum_append, hg.sum_text] at hfits
      obtain ⟨shown, blank, hshown, hlonger, hprefix, hblank⟩ :=
        ih others ((List.prefix_append_right_inj _).1 hfront) (by omega)
      refine ⟨g.text ++ shown, blank, ?_, (List.prefix_append_right_inj _).2 hlonger,
        (List.prefix_append_right_inj _).2 hprefix, hblank⟩
      rw [htake, hshown, List.append_assoc]

theorem keepsFront_of_pos {gs : List Glyph} (hsolid : ∀ g ∈ gs, g.IsSolid)
    (hpos : ∀ g ∈ gs, 0 < g.width) {room : Nat} {front : List Char}
    (hfront : front <+: gs.flatMap Glyph.text) (hfits : (front.map charWidth).sum ≤ room) :
    KeepsFront room gs front := by
  induction gs generalizing room front with
  | nil =>
    rw [List.prefix_nil.1 hfront]
    exact keepsFront_nil room []
  | cons g rest ih =>
    obtain ⟨hg, hrest⟩ := List.forall_mem_cons.1 hsolid
    obtain ⟨hwidth, hwidths⟩ := List.forall_mem_cons.1 hpos
    exact keepsFront_cons hg (.inr hwidth) hfront hfits fun front => ih hrest hwidths

/-- A steady text that is cut to some cells keeps every front that fits into them. -/
theorem front_of_takeCells (hs : Steady s) {room : Nat} (hroom : 0 < room) {front : List Char}
    (hfront : front <+: s) (hfits : cells front ≤ room) : KeepsFront room (glyphs s) front := by
  obtain ⟨hsolid, hpos⟩ := solid_glyphs hs
  rw [cells_of_steady (hs.sublist hfront.sublist)] at hfits
  rw [← flatMap_glyphs s] at hfront
  rcases hglyphs : glyphs s with _ | ⟨g, rest⟩
  · rw [hglyphs] at hfront
    rw [List.prefix_nil.1 hfront]
    exact keepsFront_nil room []
  · rw [hglyphs] at hsolid hpos hfront
    obtain ⟨hg, hrest⟩ := List.forall_mem_cons.1 hsolid
    exact keepsFront_cons hg (.inl hroom) hfront hfits fun front => keepsFront_of_pos hrest hpos

theorem sum_takeCells_le {gs : List Glyph} (hsolid : ∀ g ∈ gs, g.IsSolid) (room : Nat) :
    ((takeCells room gs).map charWidth).sum ≤ room := by
  induction gs generalizing room with
  | nil => exact Nat.zero_le room
  | cons g rest ih =>
    obtain ⟨hg, hrest⟩ := List.forall_mem_cons.1 hsolid
    rw [takeCells]
    split
    · exact Nat.zero_le room
    · split
      · rw [List.map_append, List.sum_append, hg.sum_text]
        have := ih hrest (room - g.width)
        omega
      · have hblank : charWidth ' ' = 1 := rfl
        rw [List.map_singleton, List.sum_singleton, hblank]
        omega

theorem mem_takeCells {c : Char} {room : Nat} {gs : List Glyph} (h : c ∈ takeCells room gs) :
    c = ' ' ∨ c ∈ gs.flatMap Glyph.text := by
  induction gs generalizing room with
  | nil => cases h
  | cons g rest ih =>
    rw [takeCells] at h
    rw [List.flatMap_cons, List.mem_append]
    split at h
    · cases h
    · split at h
      · rcases List.mem_append.1 h with h | h
        · exact .inr (.inl h)
        · exact (ih h).imp_right .inr
      · exact .inl (List.mem_singleton.1 h)

/-! ## Texts that are cut -/

theorem cut_of_lt {room : Nat} (h : room < cells s) :
    cut s room = takeCells (room - 1) (glyphs s) ++ ['…'] := by
  rw [cut, if_neg (by omega), fitCells, if_neg (by omega), if_neg (by omega)]

/-- What is left of a text that is cut are characters of it, and perhaps a blank. -/
theorem mem_shown_of_cut {c : Char} {room : Nat} (h : c ∈ takeCells room (glyphs s)) :
    c = ' ' ∨ c ∈ s := by
  have hmem := mem_takeCells h
  rwa [flatMap_glyphs] at hmem

theorem Steady.cut (hs : Steady s) (room : Nat) : Steady (cut s room) := by
  by_cases h : cells s ≤ room
  · rwa [cut_of_le h]
  · rw [cut_of_lt (by omega), steady_append_iff]
    refine ⟨fun c hc => ?_, by decide⟩
    rcases mem_shown_of_cut hc with rfl | hc
    · decide
    · exact hs c hc

theorem cells_cut_le (hs : Steady s) {room : Nat} (hroom : 0 < room) : cells (cut s room) ≤ room := by
  rw [cells_of_steady (hs.cut room)]
  by_cases h : cells s ≤ room
  · rwa [cut_of_le h, ← cells_of_steady hs]
  · have hshown := sum_takeCells_le (solid_glyphs hs).1 (room - 1)
    rw [cut_of_lt (by omega), List.map_append, List.sum_append, List.map_singleton,
      List.sum_singleton, charWidth_ellipsis]
    omega

end CodeMetrics
