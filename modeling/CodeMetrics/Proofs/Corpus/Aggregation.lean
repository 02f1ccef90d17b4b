import CodeMetrics.Proofs.Corpus.Counts

/-!
# Aggregation

An analysis conserves what the records hold (`conserves_of_analyze`), and the analysis of two corpora
one after the other is put together from theirs (`analyze_append`).  What it says about the corpus as
a whole is decided by the counts alone, however they are ordered and whatever files they stand in
(`analyze_rearranged`).
-/

namespace CodeMetrics

/-! ## What an analysis conserves -/

/-- The analysis holds the records and everything in them, each thing once and in its place. -/
structure Analysis.Conserves (a : Analysis) (rs : List FileRecord) : Prop where
  data : a.data = rs
  files : a.files = rs.map FileRecord.path
  packages : a.packages = rs.flatMap FileRecord.packages
  subs : (a.subStats.map Prod.snd).flatten = a.subs
  subCounts : (a.fileStats.map FileStat.subCount).sum = a.subCount
  packageCounts : (a.fileStats.map FileStat.packageCount).sum = a.packageCount
  lengths : a.lengths.sorted.length = a.subCount
  complexities : a.complexities.sorted.length = a.subCount

theorem conserves_of_analyze {rs : List FileRecord} {a : Analysis} (h : analyze rs = .ok a) :
    a.Conserves rs := by
  obtain ⟨lines, mainLines, lengths, complexities, -, hl, hc, -, rfl⟩ := analyze_eq_ok_iff.1 h
  constructor
  · rfl
  · rfl
  · rfl
  · simp [Analysis.subStats, List.flatMap_def, Function.comp_def]
  · simp [Analysis.subCount, FileStat.ofRecord, FileRecord.subCount, Function.comp_def,
      List.length_flatMap]
  · simp [Analysis.packageCount, FileStat.ofRecord, FileRecord.packageCount, Function.comp_def,
      List.length_flatMap]
  · exact (length_sorted hl).trans (List.length_map _)
  · exact (length_sorted hc).trans (List.length_map _)

/-! ## One corpus after another -/

variable {xs ys : List FileRecord} {a b c : Analysis}

/-- The analysis `c` is put together from the analyses of two corpora: its lists are theirs one after
the other, its totals are the sums of theirs, and its sorted values are merged from theirs. -/
structure Analysis.Joins (c : Analysis) (xs : List FileRecord) (a : Analysis)
    (ys : List FileRecord) (b : Analysis) : Prop where
  data : c.data = a.data ++ b.data
  files : c.files = a.files ++ b.files
  packages : c.packages = a.packages ++ b.packages
  subs : c.subs = a.subs ++ b.subs
  fileStats : c.fileStats = a.fileStats ++ b.fileStats
  subStats : c.subStats = a.subStats ++ b.subStats
  lines : a.lines = .int (lineTotal xs) ∧ b.lines = .int (lineTotal ys) ∧
    c.lines = .int (lineTotal xs + lineTotal ys)
  main : a.main = .ofLines (.int (mainLineTotal xs)) ∧ b.main = .ofLines (.int (mainLineTotal ys)) ∧
    c.main = .ofLines (.int (mainLineTotal xs + mainLineTotal ys))
  lengths : c.lengths.sorted = a.lengths.sorted.merge b.lengths.sorted Arrange.mayPrecede
  complexities :
    c.complexities.sorted = a.complexities.sorted.merge b.complexities.sorted Arrange.mayPrecede

theorem main_of_analyze {rs : List FileRecord} (h : ∀ r ∈ rs, r.HasCounts)
    (ha : analyze rs = .ok a) : a.main = .ofLines (.int (mainLineTotal rs)) := by
  rw [Analysis.main, (lines_of_analyze h ha).2]
  rfl

theorem joins_of_analyze (hx : ∀ r ∈ xs, r.HasCounts) (hy : ∀ r ∈ ys, r.HasCounts)
    (ha : analyze xs = .ok a) (hb : analyze ys = .ok b) (hc : analyze (xs ++ ys) = .ok c) :
    c.Joins xs a ys b := by
  have hxy : ∀ r ∈ xs ++ ys, r.HasCounts := List.forall_mem_append.2 ⟨hx, hy⟩
  obtain ⟨la, ca⟩ := summaries_of_analyze hx ha
  obtain ⟨lb, cb⟩ := summaries_of_analyze hy hb
  obtain ⟨lc, cc⟩ := summaries_of_analyze hxy hc
  rw [subLengths_append] at lc
  rw [subComplexities_append] at cc
  have lines := (lines_of_analyze hxy hc).1
  have main := main_of_analyze hxy hc
  rw [lineTotal_append] at lines
  rw [mainLineTotal_append] at main
  have totals := And.intro (lines_of_analyze hx ha).1 (And.intro (lines_of_analyze hy hb).1 lines)
  have mains := And.intro (main_of_analyze hx ha) (And.intro (main_of_analyze hy hb) main)
  have lengths := sorted_append la lb lc
  have complexities := sorted_append ca cb cc
  obtain ⟨_, _, _, _, -, -, -, -, rfl⟩ := analyze_eq_ok_iff.1 ha
  obtain ⟨_, _, _, _, -, -, -, -, rfl⟩ := analyze_eq_ok_iff.1 hb
  obtain ⟨_, _, _, _, -, -, -, -, rfl⟩ := analyze_eq_ok_iff.1 hc
  exact ⟨rfl, List.map_append, List.flatMap_append, List.flatMap_append, List.map_append,
    List.map_append, totals, mains, lengths, complexities⟩

/-- The analysis of no records: nothing is in it, and there is nothing to say about its values. -/
structure Analysis.IsEmpty (a : Analysis) : Prop where
  counts : a.fileCount = 0 ∧ a.packageCount = 0 ∧ a.subCount = 0
  lines : a.lines = .int 0
  main : a.main = .ofLines (.int 0)
  summaries : ∀ s ∈ [a.lengths, a.complexities],
    s.sorted = [] ∧ s.min? = none ∧ s.max? = none ∧ s.mean = none ∧ s.median = none ∧
      s.deviation = none

theorem analyze_nil : ∃ a, analyze [] = .ok a ∧ a.IsEmpty := by
  have summary : summarize [] = .ok .empty := by cbv
  have printable : (Value.ofNumber (.int 0)).printable := by decide +kernel
  refine ⟨_, analyze_eq_ok_iff.2 ⟨.int 0, .int 0, .empty, .empty, rfl, summary, summary, printable,
    rfl⟩, ⟨rfl, rfl, rfl⟩, rfl, rfl, ?_⟩
  simp [Summary.empty, Summary.min?, Summary.max?]

/-- Let everything that is added up or summarised in two corpora be a count.  Either corpus, and both
one after the other, can be analysed if they fit into a list in memory, and the analysis of both is
put together from theirs.  Every analysis conserves its records, and that of no records is empty. -/
theorem analyze_append (hx : ∀ r ∈ xs, r.HasCounts) (hy : ∀ r ∈ ys, r.HasCounts) :
    ((xs ++ ys).length < 2 ^ 63 →
      ∃ a b c, analyze xs = .ok a ∧ analyze ys = .ok b ∧ analyze (xs ++ ys) = .ok c) ∧
    (∀ a b c, analyze xs = .ok a → analyze ys = .ok b → analyze (xs ++ ys) = .ok c →
      c.Joins xs a ys b) ∧
    (∀ rs a, analyze rs = .ok a → a.Conserves rs) ∧
    ∃ a, analyze [] = .ok a ∧ a.IsEmpty := by
  refine ⟨fun short => ?_, fun _ _ _ ha hb hc => joins_of_analyze hx hy ha hb hc,
    fun _ _ h => conserves_of_analyze h, analyze_nil⟩
  have shorter := List.length_append.symm.trans_lt short
  obtain ⟨a, ha⟩ := exists_analyze_of_length hx (by omega)
  obtain ⟨b, hb⟩ := exists_analyze_of_length hy (by omega)
  obtain ⟨c, hc⟩ := exists_analyze_of_length (List.forall_mem_append.2 ⟨hx, hy⟩) short
  exact ⟨a, b, c, ha, hb, hc⟩

/-- A file with some subroutines, of which the lengths and complexities are given. -/
def countedFile (path : String) (lines mainLines : Int) (subs : List (Int × Int)) : FileRecord :=
  ⟨.text path, .int lines, [.text "Main"],
    subs.map fun (l, c) => ⟨.text "run", .text path, .int 1, .int l, .int c⟩,
    .ofLines (.int mainLines)⟩

theorem analyze_append_sample :
    let xs := [countedFile "a.pl" 90 7 [(60, 10), (20, 3)], countedFile "b.pl" 1 1 []]
    let ys := [countedFile "a.pl" 50 9 [(40, -2), (20, 3)]]
    (∀ r ∈ xs, r.HasCounts) ∧ (∀ r ∈ ys, r.HasCounts) ∧
      ∃ a b c, analyze xs = .ok a ∧ analyze ys = .ok b ∧ analyze (xs ++ ys) = .ok c ∧
        c.Joins xs a ys b ∧ c.Conserves (xs ++ ys) ∧ c.lines = .int 141 := by
  intro xs ys
  have hx : ∀ r ∈ xs, r.HasCounts := by decide
  have hy : ∀ r ∈ ys, r.HasCounts := by decide
  obtain ⟨exist, joins, conserves, -⟩ := analyze_append hx hy
  obtain ⟨a, b, c, ha, hb, hc⟩ := exist (by decide)
  have joined := joins a b c ha hb hc
  exact ⟨hx, hy, a, b, c, ha, hb, hc, joined, conserves _ _ hc, joined.lines.2.2⟩

/-! ## The same counts in another order -/

theorem lineTotal_eq_of_perm
    (h : (xs.map fun r => (r.lines, r.main.lines)).Perm (ys.map fun r => (r.lines, r.main.lines))) :
    lineTotal xs = lineTotal ys ∧ mainLineTotal xs = mainLineTotal ys := by
  have lines := (h.map fun p => p.1.count).sum_eq
  have mainLines := (h.map fun p => p.2.count).sum_eq
  rw [List.map_map, List.map_map] at lines mainLines
  exact ⟨lines, mainLines⟩

theorem map_count_perm {f : Subroutine → Value}
    (h : ((xs.flatMap FileRecord.subs).map f).Perm ((ys.flatMap FileRecord.subs).map f)) :
    ((xs.flatMap FileRecord.subs).map fun s => (f s).count).Perm
      ((ys.flatMap FileRecord.subs).map fun s => (f s).count) := by
  have counts := h.map Value.count
  rwa [List.map_map, List.map_map] at counts

/-- Let two corpora that were counted agree in the pairs of lines and lines of main code of their
files, in the lengths of their subroutines and in their complexities, each pair, length and
complexity as often in one as in the other.  Then both or neither can be analysed, both if they fit
into a list in memory, and their analyses have the same totals, the same numbers of files and
subroutines and the same two summaries. -/
theorem analyze_rearranged (hx : ∀ r ∈ xs, r.HasCounts) (hy : ∀ r ∈ ys, r.HasCounts)
    (files : (xs.map fun r => (r.lines, r.main.lines)).Perm
      (ys.map fun r => (r.lines, r.main.lines)))
    (lengths : ((xs.flatMap FileRecord.subs).map Subroutine.lines).Perm
      ((ys.flatMap FileRecord.subs).map Subroutine.lines))
    (complexities : ((xs.flatMap FileRecord.subs).map Subroutine.complexity).Perm
      ((ys.flatMap FileRecord.subs).map Subroutine.complexity)) :
    (xs.length < 2 ^ 63 → ∃ a, analyze xs = .ok a) ∧
    ((∃ a, analyze xs = .ok a) ↔ ∃ b, analyze ys = .ok b) ∧
    ∀ a b, analyze xs = .ok a → analyze ys = .ok b →
      a.lines = b.lines ∧ a.main = b.main ∧ a.fileCount = b.fileCount ∧ a.subCount = b.subCount ∧
        a.lengths = b.lengths ∧ a.complexities = b.complexities := by
  obtain ⟨lineTotals, mainLineTotals⟩ := lineTotal_eq_of_perm files
  have lengths : (subLengths xs).Perm (subLengths ys) := map_count_perm lengths
  have complexities : (subComplexities xs).Perm (subComplexities ys) := map_count_perm complexities
  refine ⟨exists_analyze_of_length hx, ?_, fun a b ha hb => ?_⟩
  · rw [exists_analyze_iff hx, exists_analyze_iff hy, lineTotals]
  have sameLengths : a.lengths = b.lengths := by
    have ha := (summaries_of_analyze hx ha).1
    have hb := (summaries_of_analyze hy hb).1
    rw [summarize_eq_of_perm lengths] at ha
    exact Except.ok.inj (ha.symm.trans hb)
  have sameComplexities : a.complexities = b.complexities := by
    have ha := (summaries_of_analyze hx ha).2
    have hb := (summaries_of_analyze hy hb).2
    rw [summarize_eq_of_perm complexities] at ha
    exact Except.ok.inj (ha.symm.trans hb)
  have sameFiles : a.fileCount = b.fileCount := by
    rw [Analysis.fileCount, Analysis.fileCount, (conserves_of_analyze ha).files,
      (conserves_of_analyze hb).files]
    simpa using files.length_eq
  have sameSubs : a.subCount = b.subCount := by
    rw [← (conserves_of_analyze ha).lengths, ← (conserves_of_analyze hb).lengths, sameLengths]
  refine ⟨?_, ?_, sameFiles, sameSubs, sameLengths, sameComplexities⟩
  · rw [(lines_of_analyze hx ha).1, (lines_of_analyze hy hb).1, lineTotals]
  · rw [main_of_analyze hx ha, main_of_analyze hy hb, mainLineTotals]

theorem analyze_rearranged_sample :
    let xs := [countedFile "a.pl" 90 7 [(60, 10), (20, 3)], countedFile "b.pl" 1 1 []]
    let ys := [countedFile "c.pl" 1 1 [(20, 10)], countedFile "a.pl" 90 7 [(60, 3)]]
    (∀ r ∈ xs, r.HasCounts) ∧ (∀ r ∈ ys, r.HasCounts) ∧
      ∃ a b, analyze xs = .ok a ∧ analyze ys = .ok b ∧ a.lines = b.lines ∧
        a.lengths = b.lengths ∧ a.complexities = b.complexities := by
  intro xs ys
  have hx : ∀ r ∈ xs, r.HasCounts := by decide
  have hy : ∀ r ∈ ys, r.HasCounts := by decide
  have swap (v w : Value) : [v, w].Perm [w, v] := List.Perm.swap w v []
  obtain ⟨exist, agree, same⟩ := analyze_rearranged hx hy (List.Perm.swap _ _ [])
    (swap (.int 60) (.int 20)) (List.Perm.refl ([.int 10, .int 3] : List Value))
  obtain ⟨a, ha⟩ := exist (by decide)
  obtain ⟨b, hb⟩ := agree.1 ⟨a, ha⟩
  obtain ⟨lines, -, -, -, lengths, complexities⟩ := same a b ha hb
  exact ⟨hx, hy, a, b, ha, hb, lines, lengths, complexities⟩

end CodeMetrics
