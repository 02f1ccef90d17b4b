import CodeMetrics.Proofs.Corpus.Analysis
import CodeMetrics.Proofs.Statistics.Kinds
import Mathlib.Data.List.Forall2

/-!
# Equal corpora

Records are equal when all their fields are, and fields of different kinds may be equal.  The totals
of small whole numbers are the same whole numbers for all kinds (`exists_totals`), and so are their
summaries.  Corpora that are equal can then both be analysed, and their analyses agree in every field
(`analyze_same`).
-/

namespace CodeMetrics

variable {nanAgrees : Bool}

/-! ## Records that are equal -/

theorem sameLists_iff {α : Type} {same : α → α → Bool} {as bs : List α} :
    sameLists same as bs ↔ List.Forall₂ (fun a b => same a b) as bs := by
  induction as generalizing bs with
  | nil => cases bs <;> simp [sameLists]
  | cons a as ih => cases bs <;> simp [sameLists, ih]

/-- Equal things have equal fields. -/
theorem sameAll_map {α : Type} {same : α → α → Bool} {f : α → Value} {as bs : List α}
    (h : sameLists same as bs) (hf : ∀ a b, same a b → Value.same nanAgrees (f a) (f b)) :
    Value.sameAll nanAgrees (as.map f) (bs.map f) := by
  rw [sameAll_iff, List.forall₂_map_left_iff, List.forall₂_map_right_iff]
  exact (sameLists_iff.1 h).imp hf

theorem Subroutine.same_iff {s t : Subroutine} :
    s.same nanAgrees t ↔ Value.same nanAgrees s.name t.name ∧ Value.same nanAgrees s.path t.path ∧
      Value.same nanAgrees s.lineNumber t.lineNumber ∧ Value.same nanAgrees s.lines t.lines ∧
      Value.same nanAgrees s.complexity t.complexity := by
  simp [Subroutine.same, Value.sameAll]

theorem MainCode.same_iff {m n : MainCode} :
    m.same nanAgrees n ↔ Value.same nanAgrees m.lines n.lines ∧
      Value.same nanAgrees m.path n.path ∧ Value.same nanAgrees m.name n.name := by
  simp [MainCode.same, Value.sameAll]

theorem FileRecord.same_iff {r t : FileRecord} :
    r.same nanAgrees t ↔ Value.same nanAgrees r.path t.path ∧ Value.same nanAgrees r.lines t.lines ∧
      Value.sameAll nanAgrees r.packages t.packages ∧
      sameLists (Subroutine.same nanAgrees) r.subs t.subs ∧ r.main.same nanAgrees t.main := by
  simp [FileRecord.same, Value.sameAll, and_assoc]

/-! ## Analyses that agree -/

/-- All fields are equal; `nanAgrees` says whether something that is not a number equals itself. -/
def FileStat.agrees (nanAgrees : Bool) (s t : FileStat) : Bool :=
  Value.same nanAgrees s.path t.path && s.main.same nanAgrees t.main && s.subCount == t.subCount &&
    s.packageCount == t.packageCount

/-- The analyses agree in every field; `nanAgrees` says whether something in the records that is not a
number equals itself. -/
def Analysis.agrees (nanAgrees : Bool) (a b : Analysis) : Bool :=
  sameLists (FileRecord.same nanAgrees) a.data b.data && Value.sameAll nanAgrees a.files b.files &&
    sameNumbers a.lines b.lines && Value.sameAll nanAgrees a.packages b.packages &&
    sameLists (Subroutine.same nanAgrees) a.subs b.subs && sameNumbers a.mainLines b.mainLines &&
    sameLists (FileStat.agrees nanAgrees) a.fileStats b.fileStats && a.lengths.same b.lengths &&
    a.complexities.same b.complexities

theorem Analysis.agrees_false (a b : Analysis) : a.agrees false b = a.same b := rfl

section Corpora

variable {rs ts : List FileRecord}

theorem sameAll_packages (h : sameLists (FileRecord.same nanAgrees) rs ts) :
    Value.sameAll nanAgrees (rs.flatMap FileRecord.packages) (ts.flatMap FileRecord.packages) := by
  rw [sameAll_iff]
  apply List.rel_flatMap (sameLists_iff.1 h)
  intro r t hrt
  exact sameAll_iff.1 (FileRecord.same_iff.1 hrt).2.2.1

theorem sameLists_subs (h : sameLists (FileRecord.same nanAgrees) rs ts) :
    sameLists (Subroutine.same nanAgrees) (rs.flatMap FileRecord.subs)
      (ts.flatMap FileRecord.subs) := by
  rw [sameLists_iff]
  apply List.rel_flatMap (sameLists_iff.1 h)
  intro r t hrt
  exact sameLists_iff.1 (FileRecord.same_iff.1 hrt).2.2.2.1

theorem agrees_ofRecord {r t : FileRecord} (h : r.same nanAgrees t) :
    (FileStat.ofRecord r).agrees nanAgrees (.ofRecord t) := by
  obtain ⟨hpath, -, hpackages, hsubs, hmain⟩ := FileRecord.same_iff.1 h
  have hsubCount : r.subCount = t.subCount := (sameLists_iff.1 hsubs).length_eq
  have hpackageCount : r.packageCount = t.packageCount := (sameAll_iff.1 hpackages).length_eq
  simp only [FileStat.agrees, FileStat.ofRecord, Bool.and_eq_true, beq_iff_eq]
  exact ⟨⟨⟨hpath, hmain⟩, hsubCount⟩, hpackageCount⟩

theorem sameLists_fileStats (h : sameLists (FileRecord.same nanAgrees) rs ts) :
    sameLists (FileStat.agrees nanAgrees) (rs.map FileStat.ofRecord)
      (ts.map FileStat.ofRecord) := by
  rw [sameLists_iff, List.forall₂_map_left_iff, List.forall₂_map_right_iff]
  exact (sameLists_iff.1 h).imp fun _ _ hrt => agrees_ofRecord hrt

end Corpora

/-! ## Sums of whole numbers -/

namespace Number

open Series

variable {m n : Number}

theorem finite?_of_le {k : Int} (h : k.natAbs ≤ 2 ^ 53) : finite? k = some (.ofInt k) := by
  unfold finite?
  dsimp only
  rw [(Binary64.hasValue_ofInt h).isFinite, if_pos rfl]

/-- The sum of small whole numbers is exact on whole numbers and rounded once otherwise. -/
theorem add?_cases (hm : m.whole.natAbs ≤ 2 ^ 53) (hn : n.whole.natAbs ≤ 2 ^ 53) :
    m.add? n = some (.int (m.whole + n.whole)) ∨
      m.add? n = some (.float ((toBinary64 m).add (toBinary64 n))) := by
  cases m with
  | int a =>
    cases n with
    | int b => exact .inl rfl
    | float y =>
      right
      rw [add?, finite?_of_le (k := a) hm]
      rfl
  | float x =>
    right
    cases n with
    | int b =>
      rw [add?, finite?_of_le (k := b) hn]
      rfl
    | float y => rfl

theorem exists_add? (hm : m.isWhole) (hn : n.isWhole)
    (hsmall : m.whole.natAbs + n.whole.natAbs ≤ 2 ^ 53) :
    ∃ total, m.add? n = some total ∧ total.isWhole ∧ total.whole = m.whole + n.whole := by
  obtain hint | hfloat := add?_cases (m := m) (n := n) (by omega) (by omega)
  · exact ⟨_, hint, rfl, rfl⟩
  · refine ⟨_, hfloat, place_eq_iff.1 (Binary64.hasValue_int_iff.1 ?_)⟩
    rw [Int.cast_add]
    apply (hasValue_toBinary64 hm (by omega)).add (hasValue_toBinary64 hn (by omega))
    rw [← Int.cast_add]
    exact ⟨_, Binary64.hasValue_ofInt (by omega)⟩

end Number

/-- A whole number added to a sum of whole numbers. -/
theorem exists_addValue {sum : Number} {v : Value} (hsum : sum.isWhole) (hv : v.isWhole)
    (hsmall : sum.whole.natAbs + v.whole.natAbs ≤ 2 ^ 53) :
    ∃ total, addValue sum v = .ok total ∧ total.isWhole ∧ total.whole = sum.whole + v.whole := by
  obtain ⟨n, hn, hwhole, hvalue⟩ := Value.exists_number_of_isWhole hv
  rw [← hvalue] at hsmall ⊢
  obtain ⟨total, hadd, htotal⟩ := Number.exists_add? hsum hwhole hsmall
  refine ⟨total, ?_, htotal⟩
  rw [addValue, hn]
  dsimp only
  rw [hadd]
  rfl

/-- Small whole numbers of all kinds add up to their sum: no step of it is rounded. -/
theorem exists_foldlM_addValue {vs : List Value} {start : Number} (hstart : start.isWhole)
    (hwhole : ∀ v ∈ vs, v.isWhole)
    (hsmall : start.whole.natAbs + (vs.map fun v => v.whole.natAbs).sum ≤ 2 ^ 53) :
    ∃ total, vs.foldlM addValue start = .ok total ∧ total.isWhole ∧
      total.whole = start.whole + (vs.map Value.whole).sum := by
  induction vs generalizing start with
  | nil => exact ⟨start, rfl, hstart, (Int.add_zero _).symm⟩
  | cons v vs ih =>
    obtain ⟨hv, hvs⟩ := List.forall_mem_cons.1 hwhole
    rw [List.map_cons, List.sum_cons] at hsmall
    obtain ⟨next, hnext, hwhole, hvalue⟩ := exists_addValue hstart hv (by omega)
    obtain ⟨total, htotal, hresult, hsum⟩ := ih hwhole hvs (by omega)
    refine ⟨total, ?_, hresult, ?_⟩
    · rw [List.foldlM_cons]
      exact bind_eq_ok_iff.2 ⟨next, hnext, htotal⟩
    · rw [hsum, hvalue, List.map_cons, List.sum_cons, Int.add_assoc]

/-! ## The totals -/

variable {rs ts : List FileRecord}

/-- The number is the sum of small whole values, of whatever kind. -/
structure IsTotal (vs : List Value) (total : Number) : Prop where
  isWhole : total.isWhole
  whole : total.whole = (vs.map Value.whole).sum
  small : total.whole.natAbs < 2 ^ 53

theorem SmallWholes.exists_isTotal {vs : List Value} (h : SmallWholes vs) :
    ∃ total, vs.foldlM addValue (.int 0) = .ok total ∧ IsTotal vs total := by
  have hsmall : (Number.int 0).whole.natAbs + (vs.map fun v => v.whole.natAbs).sum ≤ 2 ^ 53 := by
    rw [Number.whole, Int.natAbs_zero, Nat.zero_add]
    exact h.small.le
  obtain ⟨total, htotal, hwhole, hvalue⟩ := exists_foldlM_addValue rfl h.whole hsmall
  rw [Number.whole, Int.zero_add] at hvalue
  refine ⟨total, htotal, hwhole, hvalue, ?_⟩
  rw [hvalue]
  exact (natAbs_sum_le_sum _).trans_lt h.natAbs_sum

theorem exists_totals (hlines : SmallWholes (rs.map FileRecord.lines))
    (hmain : SmallWholes (rs.map fun r => r.main.lines)) :
    ∃ lines mainLines, totals rs = .ok (lines, mainLines) ∧
      IsTotal (rs.map FileRecord.lines) lines ∧
      IsTotal (rs.map fun r => r.main.lines) mainLines := by
  obtain ⟨lines, hl, htotal⟩ := hlines.exists_isTotal
  obtain ⟨mainLines, hm, hmainTotal⟩ := hmain.exists_isTotal
  exact ⟨lines, mainLines, totals_eq_ok hl hm, htotal, hmainTotal⟩

/-- Totals of the same whole numbers are equal. -/
theorem IsTotal.sameNumbers {vs ws : List Value} {m n : Number} (hm : IsTotal vs m)
    (hn : IsTotal ws n) (h : ws.map Value.whole = vs.map Value.whole) :
    Analysis.sameNumbers m n := by
  have hplace := Number.place_of_isWhole hm.isWhole
  apply Place.same_of_eq
  · rw [hplace, Number.place_of_isWhole hn.isWhole, hm.whole, hn.whole, h]
  · rw [hplace]
    exact nofun

/-- Totals are short enough to be written. -/
theorem IsTotal.printable {vs : List Value} {m : Number} (h : IsTotal vs m) :
    (Value.ofNumber m).printable := by
  cases m with
  | int n =>
    have hlimit : 2 ^ 53 < Value.unwritable := by decide +kernel
    rw [Value.ofNumber, Value.printable, decide_eq_true_eq]
    exact h.small.trans hlimit
  | float x => rfl

/-! ## The analyses -/

/-- What is added up and summarised in the corpus are whole numbers of any kinds: the lines of the
files, those of their main code, and the lengths and the complexities of their subroutines.  The
magnitudes of each of the four add up to less than `2 ^ 53`. -/
structure SmallCorpus (rs : List FileRecord) : Prop where
  lines : SmallWholes (rs.map FileRecord.lines)
  mainLines : SmallWholes (rs.map fun r => r.main.lines)
  lengths : SmallWholes ((rs.flatMap FileRecord.subs).map Subroutine.lines)
  complexities : SmallWholes ((rs.flatMap FileRecord.subs).map Subroutine.complexity)

instance (rs : List FileRecord) : Decidable (SmallCorpus rs) :=
  decidable_of_iff (SmallWholes (rs.map FileRecord.lines) ∧
      SmallWholes (rs.map fun r => r.main.lines) ∧
      SmallWholes ((rs.flatMap FileRecord.subs).map Subroutine.lines) ∧
      SmallWholes ((rs.flatMap FileRecord.subs).map Subroutine.complexity))
    ⟨fun ⟨lines, mainLines, lengths, complexities⟩ => ⟨lines, mainLines, lengths, complexities⟩,
      fun ⟨lines, mainLines, lengths, complexities⟩ => ⟨lines, mainLines, lengths, complexities⟩⟩

/-- Let what is added up and summarised in a corpus be small whole numbers, and let another corpus be
equal to it, whatever the kinds of its values are.  Then both can be analysed, and the analyses agree
in every field. -/
theorem analyze_same (small : SmallCorpus rs) (h : sameLists (FileRecord.same nanAgrees) rs ts) :
    ∃ a b, analyze rs = .ok a ∧ analyze ts = .ok b ∧ a.agrees nanAgrees b := by
  have hsubs := sameLists_subs h
  have hfiles := sameAll_map (f := FileRecord.path) h fun r t hrt => (FileRecord.same_iff.1 hrt).1
  have hlines : Value.sameAll nanAgrees (rs.map FileRecord.lines) (ts.map FileRecord.lines) :=
    sameAll_map h fun r t hrt => (FileRecord.same_iff.1 hrt).2.1
  have hmain : Value.sameAll nanAgrees (rs.map fun r => r.main.lines)
      (ts.map fun r => r.main.lines) :=
    sameAll_map h fun r t hrt => (MainCode.same_iff.1 (FileRecord.same_iff.1 hrt).2.2.2.2).1
  -- the other corpus has the same small whole numbers
  obtain ⟨hlines', lineWholes⟩ := small.lines.of_sameAll hlines
  obtain ⟨hmain', mainWholes⟩ := small.mainLines.of_sameAll hmain
  obtain ⟨lines, mainLines, ht, hl, hm⟩ := exists_totals small.lines small.mainLines
  obtain ⟨lines', mainLines', ht', hl', hm'⟩ := exists_totals hlines' hmain'
  obtain ⟨lengths, lengths', hlengths, hlengths', sameLengths⟩ :=
    exists_summaries_same small.lengths
      (sameAll_map hsubs fun s t hst => (Subroutine.same_iff.1 hst).2.2.2.1)
  obtain ⟨complexities, complexities', hcomplexities, hcomplexities', sameComplexities⟩ :=
    exists_summaries_same small.complexities
      (sameAll_map hsubs fun s t hst => (Subroutine.same_iff.1 hst).2.2.2.2)
  refine ⟨_, _,
    analyze_eq_ok_iff.2 ⟨_, _, _, _, ht, hlengths, hcomplexities, hl.printable, rfl⟩,
    analyze_eq_ok_iff.2 ⟨_, _, _, _, ht', hlengths', hcomplexities', hl'.printable, rfl⟩, ?_⟩
  simp only [Analysis.agrees, Bool.and_eq_true, and_assoc]
  exact ⟨h, hfiles, hl.sameNumbers hl' lineWholes, sameAll_packages h, hsubs,
    hm.sameNumbers hm' mainWholes, sameLists_fileStats h, sameLengths, sameComplexities⟩

/-- A file with two packages, one of them no text, and two subroutines, of which the complexity of one
is given. -/
def mixedFile (lines mainLines package complexity : Value) : FileRecord :=
  ⟨.text "a.pl", lines, [.text "Main", package],
    [⟨.text "run", .text "a.pl", .int 1, .float (.ofInt 21), complexity⟩,
      ⟨.text "stop", .text "a.pl", .int 9, .int 20, .int 3⟩], .ofLines mainLines⟩

theorem analyze_same_sample :
    let rs := [mixedFile (.int 90) (.int 0) (.list [.int 1]) (.int 1)]
    let ts := [mixedFile (.float (.ofInt 90)) (.float (.zero true)) (.list [.bool true]) (.bool true)]
    SmallCorpus rs ∧ sameLists (FileRecord.same false) rs ts ∧
      ∃ a b, analyze rs = .ok a ∧ analyze ts = .ok b ∧ a.same b := by
  intro rs ts
  have hsmall : SmallCorpus rs := by decide +kernel
  have hsame : sameLists (FileRecord.same false) rs ts := by decide +kernel
  obtain ⟨a, b, ha, hb, hagrees⟩ := analyze_same hsmall hsame
  rw [Analysis.agrees_false] at hagrees
  exact ⟨hsmall, hsame, a, b, ha, hb, hagrees⟩

end CodeMetrics
