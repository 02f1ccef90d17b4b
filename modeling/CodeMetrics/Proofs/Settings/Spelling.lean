import CodeMetrics.Settings.Environment
import CodeMetrics.Proofs.Except
import CodeMetrics.Proofs.Json.Number

/-!
# The texts of a setting

A whole number is written with its decimal digits, which may follow zeros and be grouped by single
underscores, after a sign if it needs or wants one, and with blanks around it.  A switch is written
with one of a few words in any mix of letter case.  The definitions here say so without the readers;
whatever is written in such a way is read as the value it was written for (`readAs_of_writes`).
-/

namespace CodeMetrics

namespace Environment

/-! ## Digits and blanks -/

theorem exists_digit {c : Char} (h : c.isDigit) : ∃ d < 10, c = Char.ofNat (48 + d) := by
  unfold Char.isDigit at h
  rw [Bool.and_eq_true, decide_eq_true_eq, decide_eq_true_eq] at h
  have low : (48 : UInt32).toNat ≤ c.toNat := h.1
  have high : c.toNat ≤ (57 : UInt32).toNat := h.2
  have hlow : (48 : UInt32).toNat = 48 := rfl
  have hhigh : (57 : UInt32).toNat = 57 := rfl
  refine ⟨c.toNat - 48, by omega, ?_⟩
  have hc : 48 + (c.toNat - 48) = c.toNat := by omega
  rw [hc, Char.ofNat_toNat]

theorem digitValue?_of_isDigit {c : Char} (h : c.isDigit) : digitValue? c = some (c.toNat - 48) := by
  obtain ⟨d, hd, rfl⟩ := exists_digit h
  revert d
  decide +kernel

/-- No script has a digit among the blanks. -/
theorem digitZeros_apart : ∀ range ∈ blankRanges.toList, ∀ first ∈ digitZeros.toList,
    range.2 < first ∨ first + 10 ≤ range.1 := by
  decide +kernel

theorem isSpacing_of_isRunChar {c : Char} (h : isRunChar c) : isSpacing c = false := by
  rw [← Bool.not_eq_true]
  intro hspacing
  have hblank : blankRanges.has c := (Bool.and_eq_true_iff.1 hspacing).1
  rw [isRunChar, Bool.or_eq_true, decide_eq_true_eq] at h
  rcases h with rfl | h
  · revert hspacing
    decide +kernel
  · rw [CodeRanges.has, ← Array.any_toList, List.any_eq_true] at hblank
    obtain ⟨range, hrange, hin⟩ := hblank
    rw [digitValue?, Option.isSome_map, ← Array.find?_toList, List.find?_isSome] at h
    obtain ⟨first, hfirst, hdigit⟩ := h
    rw [Bool.and_eq_true, decide_eq_true_eq, decide_eq_true_eq] at hin hdigit
    have := digitZeros_apart range hrange first hfirst
    omega

theorem isRunChar_of_isDigit {c : Char} (h : c.isDigit) : isRunChar c := by
  rw [isRunChar, digitValue?_of_isDigit h]
  simp

/-! ## Runs of digits -/

/-- The run is the digits with at most one underscore between neighbours. -/
inductive Grouped : List Char → List Char → Prop
  | last (d : Char) : Grouped [d] [d]
  | next (d : Char) {digits run : List Char} : Grouped digits run → Grouped (d :: digits) (d :: run)
  | spaced (d : Char) {digits run : List Char} :
    Grouped digits run → Grouped (d :: digits) (d :: '_' :: run)

variable {digits run : List Char}

theorem Grouped.spacedFrom (h : Grouped digits run) (hdigits : ∀ c ∈ digits, c.isDigit)
    (needed : Bool) : spacedFrom needed run := by
  have apart : ∀ {c : Char}, c.isDigit → c ≠ '_' := fun hc => Json.ne_of_isDigit hc (by decide)
  induction h generalizing needed with
  | last d =>
    have hd := apart (hdigits d (List.mem_cons_self ..))
    simp [Environment.spacedFrom, hd]
  | next d h ih =>
    obtain ⟨hd, hdigits⟩ := List.forall_mem_cons.1 hdigits
    rw [Environment.spacedFrom, if_neg (apart hd)]
    exact ih hdigits false
  | spaced d h ih =>
    obtain ⟨hd, hdigits⟩ := List.forall_mem_cons.1 hdigits
    rw [Environment.spacedFrom, if_neg (apart hd), Environment.spacedFrom, if_pos rfl]
    exact ih hdigits true

theorem Grouped.forall_isRunChar (h : Grouped digits run) (hdigits : ∀ c ∈ digits, c.isDigit) :
    ∀ c ∈ run, isRunChar c := by
  induction h with
  | last d => simpa using isRunChar_of_isDigit (hdigits d (List.mem_cons_self ..))
  | next d h ih =>
    obtain ⟨hd, hdigits⟩ := List.forall_mem_cons.1 hdigits
    exact List.forall_mem_cons.2 ⟨isRunChar_of_isDigit hd, ih hdigits⟩
  | spaced d h ih =>
    obtain ⟨hd, hdigits⟩ := List.forall_mem_cons.1 hdigits
    refine List.forall_mem_cons.2 ⟨isRunChar_of_isDigit hd, ?_⟩
    exact List.forall_mem_cons.2 ⟨by decide, ih hdigits⟩

/-- The underscores do not count. -/
theorem Grouped.filterMap_digitValue? (h : Grouped digits run)
    (hdigits : ∀ c ∈ digits, c.isDigit) :
    run.filterMap digitValue? = digits.map fun c => c.toNat - 48 := by
  have underscore : digitValue? '_' = none := by decide +kernel
  induction h with
  | last d =>
    rw [List.filterMap_cons, digitValue?_of_isDigit (hdigits d (List.mem_cons_self ..))]
    rfl
  | next d h ih =>
    obtain ⟨hd, hdigits⟩ := List.forall_mem_cons.1 hdigits
    rw [List.filterMap_cons, digitValue?_of_isDigit hd, ih hdigits]
    rfl
  | spaced d h ih =>
    obtain ⟨hd, hdigits⟩ := List.forall_mem_cons.1 hdigits
    rw [List.filterMap_cons, digitValue?_of_isDigit hd, List.filterMap_cons, underscore, ih hdigits]
    rfl

/-- A run begins with a digit. -/
theorem Grouped.exists_cons (h : Grouped digits run) (hdigits : ∀ c ∈ digits, c.isDigit) :
    ∃ d rest, run = d :: rest ∧ d.isDigit := by
  cases h with
  | last d => exact ⟨d, _, rfl, hdigits d (List.mem_cons_self ..)⟩
  | next d _ => exact ⟨d, _, rfl, hdigits d (List.mem_cons_self ..)⟩
  | spaced d _ => exact ⟨d, _, rfl, hdigits d (List.mem_cons_self ..)⟩

/-! ## Whole numbers -/

/-- The decimal digits of a natural number after some zeros. -/
def paddedDigits (zeros n : Nat) : List Char := List.replicate zeros '0' ++ Nat.toDigits 10 n

theorem isDigit_of_mem_paddedDigits {zeros n : Nat} : ∀ c ∈ paddedDigits zeros n, c.isDigit := by
  intro c hc
  rcases List.mem_append.1 hc with hc | hc
  · rw [List.eq_of_mem_replicate hc]
    rfl
  · exact Json.isDigit_of_mem_toDigits hc

theorem digitsToNat_paddedDigits (zeros n : Nat) : Json.digitsToNat (paddedDigits zeros n) = n := by
  have padding : (List.replicate zeros 0).foldl (fun n d => n * 10 + d) 0 = 0 := by
    induction zeros with
    | zero => rfl
    | succ zeros ih => exact ih
  have digits := Json.digitsToNat_toDigits n
  unfold Json.digitsToNat numberOfDigits at digits ⊢
  rw [paddedDigits, List.map_append, List.map_replicate, List.foldl_append]
  refine (congrArg (fun start => List.foldl (fun n d => n * 10 + d) start _) padding).trans digits

/-- What may stand before the digits of a number: a minus sign unless the number is positive, and a
plus sign or nothing unless it is negative. -/
inductive Signed : Int → List Char → Prop
  | minus {n : Int} : n ≤ 0 → Signed n ['-']
  | plus {n : Int} : 0 ≤ n → Signed n ['+']
  | bare {n : Int} : 0 ≤ n → Signed n []

/-- A text of a whole number: its digits, perhaps after zeros and grouped, in no more than as many
digits as can be read, after a sign and between blanks. -/
structure NumberText (n : Int) where
  before : List Char
  sign : List Char
  zeros : Nat
  run : List Char
  after : List Char
  blankBefore : ∀ c ∈ before, isSpacing c
  signed : Signed n sign
  grouped : Grouped (paddedDigits zeros n.natAbs) run
  short : (paddedDigits zeros n.natAbs).length ≤ digitLimit
  blankAfter : ∀ c ∈ after, isSpacing c

/-- The characters of the text. -/
def NumberText.chars {n : Int} (t : NumberText n) : List Char :=
  t.before ++ (t.sign ++ (t.run ++ t.after))

theorem splitSign_of_signed {n : Int} {sign rest : List Char} {d : Char} (h : Signed n sign)
    (hd : d.isDigit) :
    ∃ negative, splitSign (sign ++ d :: rest) = (negative, d :: rest) ∧
      (if negative then -(n.natAbs : Int) else n.natAbs) = n := by
  cases h with
  | minus hn => exact ⟨true, rfl, by rw [if_pos rfl]; omega⟩
  | plus hn => exact ⟨false, rfl, by rw [if_neg Bool.false_ne_true]; omega⟩
  | bare hn =>
    refine ⟨false, ?_, by rw [if_neg Bool.false_ne_true]; omega⟩
    have hminus : d ≠ '-' := Json.ne_of_isDigit hd (by decide)
    have hplus : d ≠ '+' := Json.ne_of_isDigit hd (by decide)
    rw [List.nil_append]
    unfold splitSign
    split
    · next heq => exact absurd (List.cons.inj heq).1 hminus
    · next heq => exact absurd (List.cons.inj heq).1 hplus
    · rfl

/-- A number does not begin with a blank. -/
theorem front_of_signed {n : Int} {sign rest : List Char} {d : Char} (h : Signed n sign)
    (hd : d.isDigit) : (sign ++ d :: rest).dropWhile isSpacing = sign ++ d :: rest := by
  have minus : isSpacing '-' = false := by decide +kernel
  have plus : isSpacing '+' = false := by decide +kernel
  cases h with
  | minus _ => simp [minus]
  | plus _ => simp [plus]
  | bare _ => simp [isSpacing_of_isRunChar (isRunChar_of_isDigit hd)]

variable {n : Int} (t : NumberText n)

/-- The digits end where the blanks begin. -/
theorem span_run : (t.run ++ t.after).takeWhile isRunChar = t.run ∧
    (t.run ++ t.after).dropWhile isRunChar = t.after := by
  have stops : t.after.takeWhile isRunChar = [] ∧ t.after.dropWhile isRunChar = t.after := by
    cases hafter : t.after with
    | nil => exact ⟨rfl, rfl⟩
    | cons c others =>
      have hc : ¬ isRunChar c := by
        intro hrunChar
        have hspacing := t.blankAfter c (hafter ▸ List.mem_cons_self ..)
        rw [isSpacing_of_isRunChar hrunChar] at hspacing
        cases hspacing
      exact ⟨List.takeWhile_cons_of_neg hc, List.dropWhile_cons_of_neg hc⟩
  have hrun := t.grouped.forall_isRunChar isDigit_of_mem_paddedDigits
  rw [List.takeWhile_append_of_pos hrun, List.dropWhile_append_of_pos hrun, stops.1, stops.2,
    List.append_nil]
  exact ⟨rfl, rfl⟩

/-- A text of a number is read as the number. -/
theorem readInt_chars : readInt (String.ofList t.chars) = .ok n := by
  have digits : ∀ c ∈ paddedDigits t.zeros n.natAbs, c.isDigit := isDigit_of_mem_paddedDigits
  obtain ⟨d, rest, hrun, hd⟩ := t.grouped.exists_cons digits
  obtain ⟨negative, hsplit, hvalue⟩ := @splitSign_of_signed n t.sign (rest ++ t.after) d t.signed hd
  have htrim : t.chars.dropWhile isSpacing = t.sign ++ (t.run ++ t.after) := by
    rw [NumberText.chars, List.dropWhile_append_of_pos t.blankBefore, hrun, List.cons_append]
    exact front_of_signed t.signed hd
  rw [← List.cons_append, ← hrun] at hsplit
  obtain ⟨htake, hdrop⟩ := span_run t
  have hspaced : wellSpaced t.run := t.grouped.spacedFrom digits true
  have hread := t.grouped.filterMap_digitValue? digits
  have hnumber : numberOfDigits 10 (t.run.filterMap digitValue?) = n.natAbs := by
    rw [hread]
    exact digitsToNat_paddedDigits t.zeros n.natAbs
  have hlimit : ¬ digitLimit < (t.run.filterMap digitValue?).length := by
    rw [hread, List.length_map]
    exact Nat.not_lt.2 t.short
  have hafter : t.after.all isSpacing := List.all_eq_true.2 t.blankAfter
  unfold readInt
  simp only [String.toList_ofList, htrim, hsplit, htake, hdrop, hspaced, Bool.not_true,
    Bool.false_eq_true, if_false, if_neg hlimit, hafter, if_true, hnumber, hvalue]

/-! ## Switches -/

/-- The words for the two positions of a switch. -/
def switchWords (on : Bool) : List String := if on then onWords else offWords

/-- The text is the word, with any of its letters as capitals. -/
def SameButCase (word s : String) : Prop :=
  List.Forall₂ (fun w c => c = w ∨ c = w.toUpper) word.toList s.toList

/-- Lower-case letters and digits stay what they are when they are written as capitals and read in
lower case. -/
theorem toLower_of_mem_words : ∀ word ∈ onWords ++ offWords, ∀ w ∈ word.toList,
    w.toLower = w ∧ w.toUpper.toLower = w := by
  have letters : (onWords ++ offWords).all fun word =>
      word.toList.all fun w => w.toLower = w ∧ w.toUpper.toLower = w := by
    decide +kernel
  intro word hword w hw
  exact of_decide_eq_true (List.all_eq_true.1 (List.all_eq_true.1 letters word hword) w hw)

theorem lowerAscii_of_sameButCase {word s : String} (hword : word ∈ onWords ++ offWords)
    (h : SameButCase word s) : lowerAscii s = word := by
  have lower : ∀ {ws cs : List Char}, List.Forall₂ (fun w c => c = w ∨ c = w.toUpper) ws cs →
      (∀ w ∈ ws, w.toLower = w ∧ w.toUpper.toLower = w) → cs.map Char.toLower = ws := by
    intro ws cs hcs
    induction hcs with
    | nil => exact fun _ => rfl
    | cons hc _ ih =>
      intro hws
      obtain ⟨⟨hlow, hup⟩, hws⟩ := List.forall_mem_cons.1 hws
      rw [List.map_cons, ih hws]
      rcases hc with rfl | rfl
      · rw [hlow]
      · rw [hup]
  rw [lowerAscii, lower h (toLower_of_mem_words word hword), String.ofList_toList]

theorem readSwitch_of_sameButCase {on : Bool} {word s : String} (hword : word ∈ switchWords on)
    (h : SameButCase word s) : readSwitch s = .ok on := by
  have hmem : word ∈ onWords ++ offWords := by
    cases on with
    | true => exact List.mem_append_left _ hword
    | false => exact List.mem_append_right _ hword
  have apart : ∀ word ∈ offWords, word ∉ onWords := by decide
  unfold readSwitch
  simp only [lowerAscii_of_sameButCase hmem h]
  cases on with
  | true => exact if_pos hword
  | false => exact (if_neg (apart word hword)).trans (if_pos hword)

/-! ## Both kinds -/

/-- The text is one of those for a value of the given kind. -/
inductive Writes : Target → Value → String → Prop
  | count {n : Int} (t : NumberText n) : Writes .count (.int n) (String.ofList t.chars)
  | switch {on : Bool} {word s : String} :
    word ∈ switchWords on → SameButCase word s → Writes .switch (.bool on) s

/-- What is written for a value is read as the value. -/
theorem readAs_of_writes {target : Target} {v : Value} {s : String} (h : Writes target v s) :
    readAs target s = .ok v := by
  cases h with
  | count t =>
    rw [readAs, readInt_chars t]
    rfl
  | switch hword hs =>
    rw [readAs, readSwitch_of_sameButCase hword hs]
    rfl

end Environment

end CodeMetrics
