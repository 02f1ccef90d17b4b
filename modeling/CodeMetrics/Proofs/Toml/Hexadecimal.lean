import CodeMetrics.Toml.Reader
import Mathlib.Algebra.Group.Nat.Defs

/-!
# Long numbers in base 16

A decimal number has a limit to its digits, a number in base 16 has none: a line that gives a key an
array of such a number is read, however many digits there are (`read_arrayLine`).
-/

namespace CodeMetrics

namespace Toml

/-! ## The number -/

/-- A digit in base 16. -/
def isHexDigit (c : Char) : Bool := (hexValue? c).any (· < 16)

theorem readMoreDigits_append {p : Char → Bool} {digits rest : List Char}
    (hdigits : ∀ c ∈ digits, p c ∧ c ≠ '_') (hrest : readMoreDigits p rest = ([], rest)) :
    readMoreDigits p (digits ++ rest) = (digits, rest) := by
  induction digits with
  | nil => exact hrest
  | cons c digits ih =>
    obtain ⟨⟨hp, hc⟩, hdigits⟩ := List.forall_mem_cons.1 hdigits
    rw [List.cons_append, readMoreDigits, if_pos hp, ih hdigits]
    exact fun _ _ e _ => hc e

/-- Two zeros in front rule out that the number is taken for a date or a time. -/
theorem readScalar_hexadecimal {digits : List Char} (h : ∀ c ∈ digits, isHexDigit c ∧ c ≠ '_') :
    readScalar ('0' :: 'x' :: '0' :: '0' :: (digits ++ [']'])) =
      .ok (.int (numberIn 16 ('0' :: '0' :: digits)), [']']) := by
  have hmore : readMoreDigits isHexDigit ('0' :: (digits ++ [']'])) = ('0' :: digits, [']']) := by
    rw [← List.cons_append]
    exact readMoreDigits_append (List.forall_mem_cons.2 ⟨by decide, h⟩) rfl
  have hdigits : readDigits? isHexDigit ('0' :: '0' :: (digits ++ [']'])) =
      some ('0' :: '0' :: digits, [']']) := by
    rw [readDigits?, if_pos (by decide), hmore]
  unfold isHexDigit at hdigits
  have hbased : readBased? ('0' :: 'x' :: '0' :: '0' :: (digits ++ [']'])) =
      some (.int (numberIn 16 ('0' :: '0' :: digits)), [']']) := by
    simp only [readBased?, hdigits, Option.map_some]
  have hdate : readDate? ('0' :: 'x' :: '0' :: '0' :: (digits ++ [']'])) = none := rfl
  have htime : readTime? ('0' :: 'x' :: '0' :: '0' :: (digits ++ [']'])) = none := rfl
  simp only [readScalar, hdate, htime, hbased]

theorem numberOfDigits_replicate (n : Nat) :
    numberOfDigits 16 (List.replicate n 15) + 1 = 16 ^ n := by
  induction n with
  | zero => rfl
  | succ n ih =>
    have hstep : numberOfDigits 16 (List.replicate (n + 1) 15) =
        numberOfDigits 16 (List.replicate n 15) * 16 + 15 := by
      rw [numberOfDigits, List.replicate_succ', List.foldl_append]
      rfl
    rw [hstep, Nat.pow_succ]
    omega

/-- The number that `n` digits `f` write. -/
theorem numberIn_replicate (n : Nat) :
    numberIn 16 ('0' :: '0' :: List.replicate n 'f') + 1 = 16 ^ n := by
  have hdigits : ('0' :: '0' :: List.replicate n 'f').filterMap hexValue? =
      0 :: 0 :: List.replicate n 15 := by
    have hzero : hexValue? '0' = some 0 := rfl
    have hf : hexValue? 'f' = some 15 := rfl
    rw [List.filterMap_cons_some hzero, List.filterMap_cons_some hzero,
      List.filterMap_replicate_of_some hf]
  rw [numberIn, hdigits, ← numberOfDigits_replicate]
  rfl

/-! ## The line -/

/-- An array of one number in base 16, as it is written. -/
def arrayText (digits : List Char) : List Char :=
  '[' :: '0' :: 'x' :: '0' :: '0' :: (digits ++ [']'])

/-- A line that gives a key such an array. -/
def arrayLine (key digits : List Char) : List Char := key ++ ' ' :: '=' :: ' ' :: arrayText digits

theorem readValue_arrayText {digits : List Char} (h : ∀ c ∈ digits, isHexDigit c ∧ c ≠ '_')
    (depth : Nat) : readValue (depth + 3) (arrayText digits) =
      .ok (.list [.int (numberIn 16 ('0' :: '0' :: digits))], []) := by
  have hvalue : readValue (depth + 1) ('0' :: 'x' :: '0' :: '0' :: (digits ++ [']'])) =
      .ok (.int (numberIn 16 ('0' :: '0' :: digits)), [']']) := by
    rw [readValue]
    · exact readScalar_hexadecimal h
    all_goals simp
  have hitems : readItems (depth + 2) ('0' :: 'x' :: '0' :: '0' :: (digits ++ [']'])) =
      .ok ([.int (numberIn 16 ('0' :: '0' :: digits))], []) := by
    rw [readItems, hvalue]
    · rfl
    · simp
  have hskip : skipLines ('0' :: 'x' :: '0' :: '0' :: (digits ++ [']'])) =
      .ok ('0' :: 'x' :: '0' :: '0' :: (digits ++ [']'])) := rfl
  have htext : readText? (arrayText digits) = none := rfl
  rw [arrayText] at htext ⊢
  simp only [readValue, htext, hskip, bind, Except.bind, hitems]

theorem ne_of_isKeyChar {c d : Char} (hc : isKeyChar c) (hd : isKeyChar d = false) : c ≠ d := by
  rintro rfl
  rw [hc] at hd
  cases hd

/-- A key without quotes ends at a blank. -/
theorem readKey_bare {c : Char} {key : List Char} (hc : isKeyChar c)
    (hkey : ∀ d ∈ key, isKeyChar d) (rest : List Char) :
    readKey (c :: key ++ ' ' :: '=' :: rest) = .ok ([String.ofList (c :: key)], '=' :: rest) := by
  have hall : ∀ d ∈ c :: key, isKeyChar d := List.forall_mem_cons.2 ⟨hc, hkey⟩
  have htake : (c :: key ++ ' ' :: '=' :: rest).takeWhile isKeyChar = c :: key := by
    rw [List.takeWhile_append_of_pos hall]
    simp [isKeyChar]
  have hdrop : (c :: key ++ ' ' :: '=' :: rest).dropWhile isKeyChar = ' ' :: '=' :: rest := by
    rw [List.dropWhile_append_of_pos hall]
    rfl
  have hpart : readKeyPart (c :: key ++ ' ' :: '=' :: rest) =
      .ok (String.ofList (c :: key), ' ' :: '=' :: rest) := by
    rw [List.cons_append] at htake hdrop ⊢
    unfold readKeyPart
    split
    · next heq => exact absurd (List.cons.inj heq).1 (ne_of_isKeyChar hc (by decide))
    · next heq => exact absurd (List.cons.inj heq).1 (ne_of_isKeyChar hc (by decide))
    · next heq =>
      obtain ⟨rfl, -⟩ := List.cons.inj heq
      rw [if_pos hc, htake, hdrop]
    · next heq => cases heq
  have hgap : skipGap (' ' :: '=' :: rest) = '=' :: rest := rfl
  rw [readKey, readKeyParts, hpart]
  simp only [bind, Except.bind, hgap]
  rfl

theorem joinLineEnds_of_notMem {s : List Char} (h : '\r' ∉ s) : joinLineEnds s = s := by
  induction s with
  | nil => rfl
  | cons c rest ih =>
    rw [List.mem_cons, not_or] at h
    rw [joinLineEnds, ih h.2]
    exact fun _ e _ => h.1 e.symm

/-- The document that holds nothing but a key with an array of one number. -/
def arrayDocument (key : String) (n : Nat) : Document :=
  ⟨[(key, .list [.int n])], [], [[key]], [], []⟩

/-- A document of this line is a table with the key. -/
theorem read_arrayLine {c : Char} {key digits : List Char} (hc : isKeyChar c)
    (hkey : ∀ d ∈ key, isKeyChar d) (h : ∀ c ∈ digits, isHexDigit c ∧ c ≠ '_') :
    read (arrayLine (c :: key) digits) =
      .ok [(String.ofList (c :: key), .list [.int (numberIn 16 ('0' :: '0' :: digits))])] := by
  have hjoin : joinLineEnds (arrayLine (c :: key) digits) = arrayLine (c :: key) digits := by
    have hreturn : isKeyChar '\r' = false := by decide
    refine joinLineEnds_of_notMem fun hmem => ?_
    simp only [arrayLine, arrayText, List.cons_append, List.mem_cons, List.mem_append] at hmem
    rcases hmem with hmem | hmem | hmem
    · exact ne_of_isKeyChar hc hreturn hmem.symm
    · exact ne_of_isKeyChar (hkey _ hmem) hreturn rfl
    · have hdigit : '\r' ∈ digits := by simpa using hmem
      exact absurd (h _ hdigit).1 (by decide)
  obtain ⟨depth, hdepth⟩ : ∃ depth, 2 * (arrayText digits).length + 1 = depth + 3 :=
    ⟨2 * (digits.length + 5), by simp [arrayText]; omega⟩
  have hassign : readAssignment .empty (arrayLine (c :: key) digits) =
      .ok (arrayDocument (String.ofList (c :: key)) (numberIn 16 ('0' :: '0' :: digits)), []) := by
    have hread : readKey (arrayLine (c :: key) digits) =
        .ok ([String.ofList (c :: key)], '=' :: ' ' :: arrayText digits) :=
      readKey_bare hc hkey (' ' :: arrayText digits)
    have hgap : skipGap (' ' :: arrayText digits) = arrayText digits := rfl
    unfold readAssignment
    rw [hread]
    simp only [bind, Except.bind, hgap, hdepth, readValue_arrayText h]
    rfl
  have hgap : skipGap (arrayLine (c :: key) digits) = arrayLine (c :: key) digits := by
    have hblank : c ≠ ' ' := ne_of_isKeyChar hc (by decide)
    have htab : c ≠ '\t' := ne_of_isKeyChar hc (by decide)
    exact List.dropWhile_cons_of_neg (by simp [isGap, hblank, htab])
  have hstatement : readStatement .empty (arrayLine (c :: key) digits) =
      .ok (arrayDocument (String.ofList (c :: key)) (numberIn 16 ('0' :: '0' :: digits)), []) := by
    have hstart : isKeyStart c := by simp [isKeyStart, hc]
    unfold readStatement
    split
    · next heq => exact absurd (List.cons.inj heq).1 (ne_of_isKeyChar hc (by decide))
    · next heq =>
      obtain ⟨rfl, -⟩ := List.cons.inj heq
      rw [if_pos hstart, hassign]
      rfl
    · next heq => cases heq
  have hstatements (steps : Nat) : readStatements (steps + 1) .empty (arrayLine (c :: key) digits) =
      .ok (arrayDocument (String.ofList (c :: key)) (numberIn 16 ('0' :: '0' :: digits))) := by
    rw [readStatements, hgap]
    split
    · next heq => cases heq
    · next heq => exact absurd (List.cons.inj heq).1 (ne_of_isKeyChar hc (by decide))
    · rw [hstatement]
      rfl
  unfold read
  dsimp only
  rw [hjoin, hstatements]
  rfl

end Toml

end CodeMetrics
