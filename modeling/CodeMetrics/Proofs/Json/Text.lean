import CodeMetrics.Json.Reader

/-!
# Texts in JSON

A text is written with escapes and read back as units of UTF-16.  Every class of escapes goes back
to the units of the character that was escaped (`readUnits_escapeChar`), and units go back to the
characters they come from, halves included (`unitsToText_units`).  Hence any text of Unicode scalar
values is read back from its written form (`readText_quote`).
-/

namespace CodeMetrics

namespace Json

/-! ## Units -/

theorem toNat_scalar (c : Char) : c.toNat < 0xd800 ∨ 0xdfff < c.toNat ∧ c.toNat < 0x110000 := c.valid

theorem units_of_lt {c : Char} (h : c.toNat < 0x10000) : units c = [c.toNat] := if_pos h

theorem units_lt (c : Char) : ∀ u ∈ units c, u < 0x10000 := by
  have hc := toNat_scalar c
  unfold units
  dsimp only
  split
  · simp only [List.mem_singleton, forall_eq]
    assumption
  · simp only [List.mem_cons, List.not_mem_nil, or_false, forall_eq_or_imp, forall_eq]
    omega

/-- A unit that is no half of a character stands for itself. -/
theorem unitsToText_cons {u : Nat} (hhigh : isHighHalf u = false) (us : List Nat) :
    unitsToText (u :: us) = ofUnit u :: unitsToText us := by
  cases us with
  | nil => rfl
  | cons v rest => rw [unitsToText, hhigh, Bool.false_and, if_neg Bool.false_ne_true]

theorem unitsToText_units (c : Char) (us : List Nat) :
    unitsToText (units c ++ us) = c :: unitsToText us := by
  have hc := toNat_scalar c
  by_cases h : c.toNat < 0x10000
  · have hhigh : isHighHalf c.toNat = false := by
      simp only [isHighHalf, Bool.and_eq_false_imp, decide_eq_true_eq, decide_eq_false_iff_not]
      omega
    have hlow : isLowHalf c.toNat = false := by
      simp only [isLowHalf, Bool.and_eq_false_imp, decide_eq_true_eq, decide_eq_false_iff_not]
      omega
    rw [units_of_lt h, List.singleton_append, unitsToText_cons hhigh, ofUnit, hhigh, hlow]
    exact congrArg (· :: unitsToText us) (Char.ofNat_toNat c)
  · have hunits : units c =
        [0xd800 + (c.toNat - 0x10000) / 0x400, 0xdc00 + (c.toNat - 0x10000) % 0x400] := if_neg h
    have hhigh : isHighHalf (0xd800 + (c.toNat - 0x10000) / 0x400) := by
      simp only [isHighHalf, Bool.and_eq_true, decide_eq_true_eq]
      omega
    have hlow : isLowHalf (0xdc00 + (c.toNat - 0x10000) % 0x400) := by
      simp only [isLowHalf, Bool.and_eq_true, decide_eq_true_eq]
      omega
    have hback : 0x10000 + (0xd800 + (c.toNat - 0x10000) / 0x400 - 0xd800) * 0x400 +
        (0xdc00 + (c.toNat - 0x10000) % 0x400 - 0xdc00) = c.toNat := by omega
    rw [hunits]
    show unitsToText (_ :: _ :: us) = _
    rw [unitsToText, hhigh, hlow, Bool.true_and, if_pos rfl, hback, Char.ofNat_toNat]

theorem unitsToText_flatMap_units (s : List Char) : unitsToText (s.flatMap units) = s := by
  induction s with
  | nil => rfl
  | cons c rest ih => rw [List.flatMap_cons, unitsToText_units, ih]

/-! ## Escapes -/

theorem hexValue?_digitChar : ∀ d < 16, hexValue? (Nat.digitChar d) = some d := by decide

theorem hexUnit?_hexDigits {u : Nat} (h : u < 0x10000) :
    ∃ a b c d, hexDigits 4 u = [a, b, c, d] ∧ hexUnit? a b c d = some u := by
  have hdigit : ∀ n, hexValue? (Nat.digitChar (n % 16)) = some (n % 16) :=
    fun n => hexValue?_digitChar _ (Nat.mod_lt _ (by decide))
  refine ⟨_, _, _, _, rfl, ?_⟩
  simp only [hexUnit?, hdigit, Option.some.injEq]
  omega

/-- The units of text that can be read are not touched by what stands in front of it. -/
theorem readUnits_unitEscape {start u : Nat} (h : u < 0x10000) {s rest : List Char}
    {us : List Nat} (hs : readUnits start s = .ok (us, rest)) :
    readUnits start ('\\' :: 'u' :: hexDigits 4 u ++ s) = .ok (u :: us, rest) := by
  obtain ⟨a, b, c, d, hdigits, hunit⟩ := hexUnit?_hexDigits h
  cases s with
  | nil => cases hs
  | cons next s =>
    rw [hdigits]
    simp only [List.cons_append, List.nil_append]
    rw [readUnits.eq_def]
    simp only [hunit, hs]
    rfl

theorem readUnits_unitEscapes {start : Nat} {s rest : List Char} {us vs : List Nat}
    (hvs : ∀ v ∈ vs, v < 0x10000) (hs : readUnits start s = .ok (us, rest)) :
    readUnits start (vs.flatMap (fun v => '\\' :: 'u' :: hexDigits 4 v) ++ s) =
      .ok (vs ++ us, rest) := by
  induction vs with
  | nil => exact hs
  | cons v vs ih =>
    obtain ⟨hv, hvs⟩ := List.forall_mem_cons.1 hvs
    rw [List.flatMap_cons, List.append_assoc]
    exact readUnits_unitEscape hv (ih hvs)

/-- A short escape is read as the unit of its character. -/
theorem unescape?_of_shortEscape {c letter : Char} (h : shortEscape? c = some letter) :
    letter ≠ 'u' ∧ unescape? letter = some c.toNat ∧ c.toNat < 0x10000 := by
  have hcode : ∀ n, c.toNat = n → c = Char.ofNat n := by
    rintro n rfl
    exact (Char.ofNat_toNat c).symm
  unfold shortEscape? at h
  split at h
  · next hc =>
    obtain rfl := Option.some.inj h
    rcases hc with rfl | rfl <;> decide
  all_goals
    repeat' split at h
    all_goals
      first
      | obtain rfl := Option.some.inj h
      | cases h
  all_goals
    rename_i hc
    first
    | subst hc
    | obtain rfl := hcode _ hc
    decide

theorem readUnits_shortEscape {start u : Nat} {letter : Char} (hletter : letter ≠ 'u')
    (hunit : unescape? letter = some u) {s rest : List Char} {us : List Nat}
    (hs : readUnits start s = .ok (us, rest)) :
    readUnits start ('\\' :: letter :: s) = .ok (u :: us, rest) := by
  unfold readUnits
  simp only [Char.reduceEq, reduceIte, if_neg hletter, hunit, hs]
  rfl

theorem readUnits_unescaped {start : Nat} {c : Char} (hquote : c ≠ '"') (hback : c ≠ '\\')
    (hcontrol : ¬ c.toNat < 0x20) {s rest : List Char} {us : List Nat}
    (hs : readUnits start s = .ok (us, rest)) :
    readUnits start (c :: s) = .ok (c.toNat :: us, rest) := by
  unfold readUnits
  rw [if_neg hquote, if_neg hback, if_neg hcontrol, hs]
  rfl

theorem readUnits_quote (start : Nat) (rest : List Char) :
    readUnits start ('"' :: rest) = .ok ([], rest) := by
  unfold readUnits
  rw [if_pos rfl]

/-- However a character is written, it is read back as its units. -/
theorem readUnits_escapeChar {start : Nat} (c : Char) {s rest : List Char} {us : List Nat}
    (hs : readUnits start s = .ok (us, rest)) :
    readUnits start (escapeChar c ++ s) = .ok (units c ++ us, rest) := by
  unfold escapeChar
  cases hshort : shortEscape? c with
  | some letter =>
    obtain ⟨hu, hunit, hlt⟩ := unescape?_of_shortEscape hshort
    rw [units_of_lt hlt]
    exact readUnits_shortEscape hu hunit hs
  | none =>
    dsimp only
    split
    · next hvisible =>
      have hplain : c ≠ '"' ∧ c ≠ '\\' := by
        unfold shortEscape? at hshort
        split at hshort
        · cases hshort
        · next hc => exact not_or.1 hc
      rw [units_of_lt (by omega)]
      exact readUnits_unescaped hplain.1 hplain.2 (by omega) hs
    · exact readUnits_unitEscapes (units_lt c) hs

theorem readUnits_flatMap_escapeChar (start : Nat) (s rest : List Char) :
    readUnits start (s.flatMap escapeChar ++ '"' :: rest) = .ok (s.flatMap units, rest) := by
  induction s with
  | nil => exact readUnits_quote start rest
  | cons c s ih =>
    rw [List.flatMap_cons, List.flatMap_cons, List.append_assoc]
    exact readUnits_escapeChar c ih

/-- A written text is read back, up to its closing quote. -/
theorem readText_quote (s : String) (rest : List Char) :
    readText (s.toList.flatMap escapeChar ++ '"' :: rest) = .ok (s, rest) := by
  unfold readText
  rw [readUnits_flatMap_escapeChar]
  show Except.ok (String.ofList (unitsToText (s.toList.flatMap units)), rest) = _
  rw [unitsToText_flatMap_units, String.ofList_toList]

end Json

end CodeMetrics
