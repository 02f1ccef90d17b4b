import CodeMetrics.Json.Reader
import Mathlib.Algebra.Group.Nat.Defs
import Mathlib.Data.List.TakeDrop
import Mathlib.Data.List.TakeWhile

/-!
# Whole numbers in JSON

A whole number is written with its decimal digits and read back from them (`readNumber_toString`),
as long as nothing follows that could belong to it.  In the other direction, a whole number that is
read has no more digits than the limit, so that it can be written again (`natAbs_lt_of_readNumber`).
-/

namespace CodeMetrics

namespace Json

/-! ## Digits -/

theorem digitsToNat_eq_ofDigitChars (digits : List Char) :
    digitsToNat digits = Nat.ofDigitChars 10 digits 0 := by
  unfold digitsToNat numberOfDigits
  rw [List.foldl_map, Nat.ofDigitChars_eq_foldl]
  congr 1
  funext n c
  rw [Nat.mul_comm]
  rfl

theorem digitsToNat_toDigits (n : Nat) : digitsToNat (Nat.toDigits 10 n) = n := by
  rw [digitsToNat_eq_ofDigitChars, Nat.ofDigitChars_ten_toDigits]

theorem isDigit_of_mem_toDigits {n : Nat} {c : Char} (h : c ∈ Nat.toDigits 10 n) : c.isDigit :=
  Nat.isDigit_of_mem_toDigits (by decide) (by decide) h

theorem ne_of_isDigit {c d : Char} (hc : c.isDigit) (hd : d.isDigit = false) : c ≠ d := by
  rintro rfl
  rw [hc] at hd
  cases hd

theorem exists_toDigits_cons (n : Nat) :
    ∃ d digits, Nat.toDigits 10 n = d :: digits ∧ d.isDigit := by
  obtain ⟨d, digits, hd⟩ := List.exists_cons_of_ne_nil (Nat.toDigits_ne_nil (n := n) (b := 10))
  refine ⟨d, digits, hd, isDigit_of_mem_toDigits (n := n) ?_⟩
  rw [hd]
  exact List.mem_cons_self ..

/-- Only zero is written with a leading zero. -/
theorem head?_toDigits_ne_zero {n : Nat} (h : n ≠ 0) : (Nat.toDigits 10 n).head? ≠ some '0' := by
  induction n using Nat.strong_induction_on with
  | _ n ih =>
    by_cases hn : n < 10
    · have digit : ∀ d < 10, d ≠ 0 → Nat.digitChar d ≠ '0' := by decide
      rw [Nat.toDigits_of_lt_base hn, List.head?_cons, Ne, Option.some.injEq]
      exact digit n hn h
    · have front := ih (n / 10) (by omega) (by omega)
      rw [Nat.toDigits_of_base_le (by decide) (by omega), List.head?_append]
      cases hd : (Nat.toDigits 10 (n / 10)).head? with
      | none => exact absurd (List.head?_eq_none_iff.1 hd) Nat.toDigits_ne_nil
      | some c =>
        rw [hd] at front
        exact front

/-- Digits write a number below the power of ten with as many zeros. -/
theorem digitsToNat_lt {digits : List Char} (h : ∀ c ∈ digits, c.isDigit) :
    digitsToNat digits < 10 ^ digits.length := by
  have bound : ∀ (ds : List Char) (n : Nat), (∀ c ∈ ds, c.isDigit) →
      Nat.ofDigitChars 10 ds n < (n + 1) * 10 ^ ds.length := by
    intro ds
    induction ds with
    | nil =>
      intro n _
      rw [Nat.ofDigitChars_nil, List.length_nil]
      omega
    | cons c rest ih =>
      intro n hds
      obtain ⟨hc, hrest⟩ := List.forall_mem_cons.1 hds
      have hdigit : c.toNat - '0'.toNat ≤ 9 := by
        unfold Char.isDigit at hc
        rw [Bool.and_eq_true, decide_eq_true_eq, decide_eq_true_eq] at hc
        have high : c.val.toNat ≤ (57 : UInt32).toNat := hc.2
        have hval : c.toNat ≤ 57 := high
        have hzero : '0'.toNat = 48 := rfl
        omega
      rw [Nat.ofDigitChars_cons, List.length_cons, Nat.pow_succ]
      calc Nat.ofDigitChars 10 rest (10 * n + (c.toNat - '0'.toNat))
          < (10 * n + (c.toNat - '0'.toNat) + 1) * 10 ^ rest.length := ih _ hrest
        _ ≤ ((n + 1) * 10) * 10 ^ rest.length := Nat.mul_le_mul_right _ (by omega)
        _ = (n + 1) * (10 ^ rest.length * 10) := by
          rw [Nat.mul_assoc, Nat.mul_comm 10]
  have h0 := bound digits 0 h
  rwa [Nat.zero_add, Nat.one_mul, ← digitsToNat_eq_ofDigitChars] at h0

theorem spanDigits_append {digits rest : List Char} (h : ∀ c ∈ digits, c.isDigit)
    (hrest : ∀ c ∈ rest.head?, c.isDigit = false) :
    spanDigits (digits ++ rest) = (digits, rest) := by
  have hstop : rest.takeWhile Char.isDigit = [] ∧ rest.dropWhile Char.isDigit = rest := by
    cases rest with
    | nil => exact ⟨rfl, rfl⟩
    | cons c rest =>
      have hc : ¬ c.isDigit := by
        rw [hrest c rfl]
        exact Bool.false_ne_true
      exact ⟨List.takeWhile_cons_of_neg hc, List.dropWhile_cons_of_neg hc⟩
  rw [spanDigits, List.span_eq_takeWhile_dropWhile, List.takeWhile_append_of_pos h,
    List.dropWhile_append_of_pos h, hstop.1, hstop.2, List.append_nil]

/-! ## Reading what was written -/

/-- What follows a whole number does not belong to it: it begins with no digit, point or
exponent. -/
def EndsNumber (rest : List Char) : Prop :=
  ∀ c ∈ rest.head?, c.isDigit = false ∧ c ≠ '.' ∧ c ≠ 'e' ∧ c ≠ 'E'

theorem endsNumber_cons {c : Char} {rest : List Char}
    (h : c.isDigit = false ∧ c ≠ '.' ∧ c ≠ 'e' ∧ c ≠ 'E') : EndsNumber (c :: rest) := by
  intro d hd
  obtain rfl := Option.some.inj hd
  exact h

theorem EndsNumber.readFraction {rest : List Char} (h : EndsNumber rest) :
    readFraction rest = ([], rest) := by
  cases rest with
  | nil => rfl
  | cons c rest =>
    have hc : c ≠ '.' := (h c rfl).2.1
    unfold Json.readFraction
    split
    · next heq => exact absurd (List.cons.inj heq).1 hc
    · rfl

theorem EndsNumber.readExponent? {rest : List Char} (h : EndsNumber rest) :
    readExponent? rest = none := by
  cases rest with
  | nil => rfl
  | cons c rest =>
    obtain ⟨-, -, he, hE⟩ := h c rfl
    exact if_neg (not_or.2 ⟨he, hE⟩)

theorem readWhole?_toDigits (n : Nat) {rest : List Char} (h : EndsNumber rest) :
    readWhole? (Nat.toDigits 10 n ++ rest) = some (Nat.toDigits 10 n, rest) := by
  by_cases hn : n = 0
  · rw [hn, Nat.toDigits_zero]
    rfl
  · obtain ⟨c, digits, hd, hc⟩ := exists_toDigits_cons n
    have hdigits : ∀ c ∈ Nat.toDigits 10 n, c.isDigit := fun c => isDigit_of_mem_toDigits
    have hspan := spanDigits_append hdigits fun c hc => (h c hc).1
    have hhead := head?_toDigits_ne_zero hn
    rw [hd] at hspan hhead ⊢
    have hzero : c ≠ '0' := fun e => hhead (by rw [e]; rfl)
    unfold readWhole?
    split
    · next heq => exact absurd (List.cons.inj heq).1 hzero
    · next heq =>
      obtain ⟨rfl, -⟩ := List.cons.inj heq
      rw [if_pos hc, hspan]
    · next heq => cases heq

theorem unwritable_eq : Value.unwritable = 10 ^ digitLimit := by decide +kernel

theorem length_toDigits_le {n : Nat} (h : n < Value.unwritable) :
    (Nat.toDigits 10 n).length ≤ digitLimit := by
  rw [unwritable_eq] at h
  exact (Nat.length_toDigits_le_iff (by decide) (by decide)).2 h

/-- Digits with a sign or without are read as the number they write. -/
theorem readNumber_toDigits (negative : Bool) {n : Nat} (hn : n < Value.unwritable)
    {rest : List Char} (h : EndsNumber rest) :
    readNumber ((if negative then ['-'] else []) ++ Nat.toDigits 10 n ++ rest) =
      .ok (.int (if negative then -n else n), rest) := by
  have hlimit : ¬ digitLimit < (Nat.toDigits 10 n).length := Nat.not_lt.2 (length_toDigits_le hn)
  have hread := readWhole?_toDigits n h
  cases negative with
  | true =>
    simp only [readNumber, reduceIte, List.cons_append, List.nil_append, hread, h.readFraction,
      h.readExponent?, if_neg hlimit, digitsToNat_toDigits]
  | false =>
    obtain ⟨c, digits, hd, hc⟩ := exists_toDigits_cons n
    have hminus : c ≠ '-' := ne_of_isDigit hc rfl
    have hvalue := digitsToNat_toDigits n
    rw [hd] at hread hlimit hvalue ⊢
    rw [List.cons_append] at hread
    simpa [readNumber, hminus, hread, h.readFraction, h.readExponent?, hvalue] using hlimit

theorem toList_toString_int (n : Int) :
    (toString n).toList = (if n < 0 then ['-'] else []) ++ Nat.toDigits 10 n.natAbs := by
  rw [Int.toString_eq_repr, Int.repr_eq_if]
  by_cases h : 0 ≤ n
  · rw [if_pos h, if_neg (by omega), Nat.toList_repr, List.nil_append,
      show n.toNat = n.natAbs by omega]
  · rw [if_neg h, if_pos (by omega), String.toList_append, Nat.toList_repr,
      show (-n).toNat = n.natAbs by omega]
    rfl

/-- A whole number of at most 4300 digits is read back as itself. -/
theorem readNumber_toString {n : Int} (hn : n.natAbs < Value.unwritable) {rest : List Char}
    (h : EndsNumber rest) : readNumber ((toString n).toList ++ rest) = .ok (.int n, rest) := by
  have hread := readNumber_toDigits (decide (n < 0)) hn h
  have hvalue : (if decide (n < 0) then -(n.natAbs : Int) else n.natAbs) = n := by
    split
    · next hneg =>
      rw [decide_eq_true_eq] at hneg
      omega
    · next hneg =>
      rw [decide_eq_true_eq] at hneg
      omega
  rw [hvalue] at hread
  rw [toList_toString_int]
  simpa using hread

/-! ## Writing what was read -/

theorem isDigit_of_readWhole? {s digits rest : List Char}
    (h : readWhole? s = some (digits, rest)) : ∀ c ∈ digits, c.isDigit := by
  unfold readWhole? at h
  split at h
  · obtain ⟨rfl, -⟩ := Prod.mk.inj (Option.some.inj h)
    exact List.forall_mem_singleton.2 rfl
  · split at h
    · rw [spanDigits, List.span_eq_takeWhile_dropWhile] at h
      obtain ⟨rfl, -⟩ := Prod.mk.inj (Option.some.inj h)
      exact fun c hc => List.mem_takeWhile_imp hc
    · cases h
  · cases h

/-- A whole number that was read is short enough to be written. -/
theorem natAbs_lt_of_readNumber {s rest : List Char} {n : Int}
    (h : readNumber s = .ok (.int n, rest)) : n.natAbs < Value.unwritable := by
  unfold readNumber at h
  dsimp only at h
  split at h
  · cases h
  · next whole after hwhole =>
    split at h
    · split at h
      · cases h
      · next hlimit =>
        have hn := Value.int.inj (Prod.mk.inj (Except.ok.inj h)).1
        have hlt := digitsToNat_lt (isDigit_of_readWhole? hwhole)
        have hlength : whole.length ≤ digitLimit := Nat.not_lt.1 hlimit
        rw [unwritable_eq]
        calc n.natAbs = digitsToNat whole := by
              rw [← hn]
              split <;> simp
          _ < 10 ^ whole.length := hlt
          _ ≤ 10 ^ digitLimit := Nat.pow_le_pow_right (by decide) hlength
    · cases h

end Json

end CodeMetrics
