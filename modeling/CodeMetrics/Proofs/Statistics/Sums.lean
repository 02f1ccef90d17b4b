import CodeMetrics.Statistics.Sum
import CodeMetrics.Proofs.Binary64.Rounding
import Mathlib.Algebra.Order.BigOperators.Group.List

/-!
# Sums in any order

However the terms of a sum are split, two of them are added at a time until one is left
(`adds_splitSum`, `adds_sumInts`).  If the terms are whole numbers whose magnitudes add up to at most
`2 ^ 53`, no addition on the way is rounded, so the order does not matter (`WholeTerms.of_adds`) and
the sum is exact (`hasValue_of_adds`).
-/

namespace CodeMetrics

namespace Binary64

/-! ## Additions in any order -/

/-- The terms of the second list come from those of the first by adding two at a time, whichever they
are; zeros may join them. -/
inductive Adds (xs : List Binary64) : List Binary64 → Prop
  | refl : Adds xs xs
  | perm {ys zs : List Binary64} : Adds xs ys → ys.Perm zs → Adds xs zs
  | zero {ys : List Binary64} (neg : Bool) : Adds xs ys → Adds xs (zero neg :: ys)
  | add {ys : List Binary64} {x y : Binary64} : Adds xs (x :: y :: ys) → Adds xs (x.add y :: ys)

variable {xs xs' ys ys' zs : List Binary64}

theorem Adds.trans (h : Adds xs ys) (h' : Adds ys zs) : Adds xs zs := by
  induction h' with
  | refl => exact h
  | perm _ hperm ih => exact ih.perm hperm
  | zero neg _ ih => exact ih.zero neg
  | add _ ih => exact ih.add

theorem Adds.append_right (h : Adds xs ys) (zs : List Binary64) : Adds (xs ++ zs) (ys ++ zs) := by
  induction h with
  | refl => exact .refl
  | perm _ hperm ih => exact ih.perm (hperm.append_right zs)
  | zero neg _ ih => exact ih.zero neg
  | add _ ih => exact ih.add

theorem Adds.append (h : Adds xs ys) (h' : Adds xs' ys') : Adds (xs ++ xs') (ys ++ ys') := by
  have left : Adds (xs ++ xs') (xs' ++ ys) := (h.append_right xs').perm List.perm_append_comm
  exact left.trans ((h'.append_right ys).perm List.perm_append_comm)

theorem Adds.cons (h : Adds xs ys) (x : Binary64) : Adds (x :: xs) (x :: ys) :=
  show Adds ([x] ++ xs) ([x] ++ ys) from Adds.refl.append h

theorem adds_pair (x y : Binary64) : Adds [x, y] [x.add y] := Adds.refl.add

theorem adds_addAll (start : Binary64) (xs : List Binary64) :
    Adds (start :: xs) [addAll start xs] := by
  induction xs generalizing start with
  | nil => exact .refl
  | cons x xs ih => exact Adds.refl.add.trans (ih (start.add x))

/-! ## The sums of the library -/

theorem adds_zipWith (h : xs.length = ys.length) : Adds (xs ++ ys) (xs.zipWith add ys) := by
  induction xs generalizing ys with
  | nil =>
    obtain rfl := List.length_eq_zero_iff.1 h.symm
    exact .refl
  | cons x xs ih =>
    cases ys with
    | nil => simp at h
    | cons y ys =>
      have turned : (x :: xs ++ y :: ys).Perm (x :: y :: (xs ++ ys)) :=
        List.Perm.cons x List.perm_middle
      exact (Adds.refl.perm turned).add.trans ((ih (by simpa using h)).cons (x.add y))

theorem adds_fillLanes (h : xs.length = laneCount) (ys : List Binary64) :
    Adds (xs ++ ys) ((fillLanes xs ys).1 ++ (fillLanes xs ys).2) ∧
      (fillLanes xs ys).1.length = laneCount := by
  fun_induction fillLanes xs ys with
  | case1 xs ys hle ih =>
    have hrow : xs.length = (ys.take laneCount).length := by
      rw [h, List.length_take, Nat.min_eq_left hle]
    have row : Adds (xs ++ ys) (xs.zipWith add (ys.take laneCount) ++ ys.drop laneCount) := by
      have h := (adds_zipWith hrow).append_right (ys.drop laneCount)
      rwa [List.append_assoc, List.take_append_drop] at h
    obtain ⟨hadds, hlength⟩ := ih (by rw [List.length_zipWith, ← hrow, h, Nat.min_self])
    exact ⟨row.trans hadds, hlength⟩
  | case2 xs ys => exact ⟨.refl, h⟩

theorem adds_addPairs (xs : List Binary64) :
    Adds xs (addPairs xs) ∧ (addPairs xs).length = (xs.length + 1) / 2 := by
  fun_induction addPairs xs with
  | case1 x y rest ih =>
    refine ⟨Adds.refl.add.trans (ih.1.cons (x.add y)), ?_⟩
    rw [List.length_cons, ih.2, List.length_cons, List.length_cons]
    omega
  | case2 xs h =>
    refine ⟨.refl, ?_⟩
    match xs with
    | [] => rfl
    | [x] => simp
    | x :: y :: rest => exact absurd rfl (h x y rest)

theorem adds_joinLanes (h : xs.length = laneCount) : Adds xs [joinLanes xs] := by
  obtain ⟨first, hfirst⟩ := adds_addPairs xs
  obtain ⟨second, hsecond⟩ := adds_addPairs (addPairs xs)
  obtain ⟨third, hthird⟩ := adds_addPairs (addPairs (addPairs xs))
  have hone : (addPairs (addPairs (addPairs xs))).length = 1 := by
    rw [hthird, hsecond, hfirst, h]
    rfl
  obtain ⟨x, hx⟩ := List.length_eq_one_iff.1 hone
  have hjoin : joinLanes xs = x := by rw [joinLanes, hx, List.headD_cons]
  rw [hjoin, ← hx]
  exact first.trans (second.trans third)

/-- Whatever the length of the list, its terms are added two at a time. -/
theorem adds_splitSum (xs : List Binary64) : Adds xs [splitSum xs] := by
  fun_induction splitSum xs with
  | case1 xs hshort => exact (Adds.refl.zero true).trans (adds_addAll _ _)
  | case2 xs hlong hblock lanes rest hfill =>
    have hrow : (xs.take laneCount).length = laneCount := by
      rw [List.length_take]
      exact Nat.min_eq_left (Nat.le_of_not_lt hlong)
    obtain ⟨filled, hlanes⟩ := adds_fillLanes hrow (xs.drop laneCount)
    rw [hfill, List.take_append_drop] at filled
    rw [hfill] at hlanes
    exact (filled.trans ((adds_joinLanes hlanes).append_right rest)).trans (adds_addAll _ _)
  | case3 xs hlong hblock half ih₁ ih₂ =>
    have split := (ih₁.append ih₂).trans (adds_pair _ _)
    rwa [List.take_append_drop] at split

theorem adds_chunkedSumFrom (start : Binary64) (xs : List Binary64) :
    Adds (start :: xs) [chunkedSumFrom start xs] := by
  fun_induction chunkedSumFrom start xs with
  | case1 start xs hle => exact ((adds_splitSum xs).cons start).trans (adds_pair _ _)
  | case2 start xs hlt ih =>
    have chunk := ((adds_splitSum (xs.take chunkSize)).cons start).trans (adds_pair _ _)
    have rest := chunk.append_right (xs.drop chunkSize)
    rw [List.cons_append, List.take_append_drop] at rest
    exact rest.trans ih

theorem adds_sum (xs : List Binary64) : Adds xs [sum xs] :=
  ((adds_splitSum xs).zero false).add

theorem adds_sumInts (ns : List Int) : Adds (ns.map ofInt) [sumInts ns] :=
  (Adds.refl.zero false).trans (adds_chunkedSumFrom _ _)

/-! ## Whole terms -/

/-- The whole part of a finite number. -/
def whole : Binary64 → Int
  | finite neg units _ => signed neg units / one
  | _ => 0

theorem HasValue.whole_eq {x : Binary64} {n : Int} (hx : x.HasValue n) : x.whole = n := by
  obtain ⟨neg, h, rfl, hsigned⟩ := hx.exists_whole
  rw [whole, ← signed_mul, hsigned]
  exact Int.mul_ediv_cancel n one_pos.ne'

/-- The terms are whole numbers with the sum `n`, and so small that the sum of any of them is a number
of the format. -/
structure WholeTerms (xs : List Binary64) (n : Int) : Prop where
  whole : ∀ x ∈ xs, x.HasValue x.whole
  sum : (xs.map Binary64.whole).sum = n
  small : (xs.map fun x => x.whole.natAbs).sum ≤ 2 ^ 53

variable {n : Int}

theorem WholeTerms.add {x y : Binary64} (h : WholeTerms (x :: y :: xs) n) :
    WholeTerms (x.add y :: xs) n := by
  obtain ⟨hx, hy, hxs⟩ : x.HasValue x.whole ∧ y.HasValue y.whole ∧ ∀ z ∈ xs, z.HasValue z.whole := by
    simpa only [List.forall_mem_cons] using h.whole
  have hsum := h.sum
  have hsmall := h.small
  simp only [List.map_cons, List.sum_cons] at hsum hsmall
  have hadd : (x.add y).HasValue ((x.whole + y.whole : Int) : ℚ) := by
    rw [Int.cast_add]
    apply hx.add hy
    rw [← Int.cast_add]
    exact ⟨_, hasValue_ofInt (by omega)⟩
  have hwhole := hadd.whole_eq
  constructor
  · rw [List.forall_mem_cons, hwhole]
    exact ⟨hadd, hxs⟩
  · rw [List.map_cons, List.sum_cons, hwhole, ← hsum, add_assoc]
  · simp only [List.map_cons, List.sum_cons, hwhole]
    omega

theorem WholeTerms.zero (h : WholeTerms xs n) (neg : Bool) : WholeTerms (zero neg :: xs) n := by
  have hzero : (Binary64.zero neg).HasValue ((0 : Int) : ℚ) := by
    rw [Int.cast_zero]
    exact hasValue_zero neg
  have hwhole := hzero.whole_eq
  constructor
  · rw [List.forall_mem_cons, hwhole]
    exact ⟨hzero, h.whole⟩
  · rw [List.map_cons, List.sum_cons, hwhole, zero_add, h.sum]
  · rw [List.map_cons, List.sum_cons, hwhole, Int.natAbs_zero, Nat.zero_add]
    exact h.small

theorem WholeTerms.perm (h : WholeTerms xs n) (hperm : xs.Perm ys) : WholeTerms ys n := by
  constructor
  · intro x hx
    exact h.whole x (hperm.symm.subset hx)
  · rw [← (hperm.map Binary64.whole).sum_eq, h.sum]
  · rw [← (hperm.map fun x : Binary64 => x.whole.natAbs).sum_eq]
    exact h.small

/-- Whole terms that are small enough keep their sum in every addition. -/
theorem WholeTerms.of_adds (h : WholeTerms xs n) (hadds : Adds xs ys) : WholeTerms ys n := by
  induction hadds with
  | refl => exact h
  | perm _ hperm ih => exact ih.perm hperm
  | zero neg _ ih => exact ih.zero neg
  | add _ ih => exact ih.add

/-- In whatever order they are added, their sum is exact. -/
theorem WholeTerms.hasValue_of_adds (h : WholeTerms xs n) {x : Binary64} (hadds : Adds xs [x]) :
    x.HasValue n := by
  have hterms : WholeTerms [x] n := h.of_adds hadds
  have hsum := hterms.sum
  rw [List.map_singleton, List.sum_singleton] at hsum
  rw [← hsum]
  exact hterms.whole x (List.mem_singleton_self x)

theorem natAbs_le_of_mem {ns : List Int} (hsmall : (ns.map Int.natAbs).sum ≤ 2 ^ 53) {m : Int}
    (hm : m ∈ ns) : m.natAbs ≤ 2 ^ 53 :=
  (List.le_sum_of_mem (List.mem_map_of_mem hm)).trans hsmall

theorem map_whole_ofInt {ns : List Int} (hsmall : (ns.map Int.natAbs).sum ≤ 2 ^ 53) :
    (ns.map ofInt).map Binary64.whole = ns := by
  rw [List.map_map]
  calc ns.map (Binary64.whole ∘ ofInt) = ns.map id := by
        apply List.map_congr_left
        intro m hm
        rw [Function.comp_apply, (hasValue_ofInt (natAbs_le_of_mem hsmall hm)).whole_eq, id]
    _ = ns := List.map_id ns

theorem wholeTerms_ofInt {ns : List Int} (hsmall : (ns.map Int.natAbs).sum ≤ 2 ^ 53) :
    WholeTerms (ns.map ofInt) ns.sum := by
  have hmap := map_whole_ofInt hsmall
  constructor
  · rw [List.forall_mem_map]
    intro m hm
    have hvalue := hasValue_ofInt (natAbs_le_of_mem hsmall hm)
    rwa [hvalue.whole_eq]
  · rw [hmap]
  · have habs := congrArg (List.map Int.natAbs) hmap
    rw [List.map_map] at habs
    rwa [← habs] at hsmall

/-- In whatever order they are added, whole numbers that are small enough have an exact sum. -/
theorem hasValue_of_adds {ns : List Int} (hsmall : (ns.map Int.natAbs).sum ≤ 2 ^ 53) {x : Binary64}
    (h : Adds (ns.map ofInt) [x]) : x.HasValue (ns.sum : Int) :=
  (wholeTerms_ofInt hsmall).hasValue_of_adds h

end Binary64

end CodeMetrics
