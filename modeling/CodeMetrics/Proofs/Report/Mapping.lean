import CodeMetrics.Proofs.Except
import CodeMetrics.Report.Mapping
import Mathlib.Data.List.Basic

/-!
# Mappings as lists of pairs

A mapping that is built from pairs is the list of these pairs with each repeated key reduced to one
pair (`lastOfEach`), which stands where the key came first and holds the item that came last
(`mappingOf_eq`).  Pairs with different keys stay as they are.
-/

namespace CodeMetrics

variable {α β : Type}

/-! ## Repeated keys -/

/-- The items of the pairs with a key. -/
def itemsOf (key : Value) (pairs : List (Value × α)) : List α :=
  (pairs.filter fun p => Value.same false key p.1).map Prod.snd

/-- The pairs with other keys. -/
def withoutKey (key : Value) (pairs : List (Value × α)) : List (Value × α) :=
  pairs.filter fun p => !Value.same false key p.1

theorem length_withoutKey_le (key : Value) (pairs : List (Value × α)) :
    (withoutKey key pairs).length ≤ pairs.length := List.length_filter_le ..

/-- The pairs without repetitions: each key stands in its first place with its last item. -/
def lastOfEach : List (Value × α) → List (Value × α)
  | [] => []
  | (key, item) :: rest =>
    (key, (itemsOf key rest).getLastD item) :: lastOfEach (withoutKey key rest)
termination_by pairs => pairs.length
decreasing_by exact Nat.lt_succ_of_le (length_withoutKey_le key rest)

section

variable {key : Value} {p : Value × α}

theorem itemsOf_cons_of_same (h : Value.same false key p.1) (rest : List (Value × α)) :
    itemsOf key (p :: rest) = p.2 :: itemsOf key rest := by
  unfold itemsOf
  rw [List.filter_cons, if_pos h, List.map_cons]

theorem itemsOf_cons_of_not_same (h : Value.same false key p.1 = false) (rest : List (Value × α)) :
    itemsOf key (p :: rest) = itemsOf key rest := by
  unfold itemsOf
  rw [List.filter_cons, if_neg (Bool.eq_false_iff.1 h)]

theorem withoutKey_cons_of_same (h : Value.same false key p.1) (rest : List (Value × α)) :
    withoutKey key (p :: rest) = withoutKey key rest := by
  unfold withoutKey
  rw [List.filter_cons, h]
  rfl

theorem withoutKey_cons_of_not_same (h : Value.same false key p.1 = false)
    (rest : List (Value × α)) : withoutKey key (p :: rest) = p :: withoutKey key rest := by
  unfold withoutKey
  rw [List.filter_cons, h]
  rfl

end

/-! ## Mappings -/

/-- Setting keys one after the other: the first pair of a mapping takes the items of its key, and
the rest of the mapping takes the others. -/
theorem foldl_setItem_cons (key : Value) (item : α) (pairs mapping : List (Value × α)) :
    pairs.foldl (fun mapping p => setItem p.1 p.2 mapping) ((key, item) :: mapping) =
      (key, (itemsOf key pairs).getLastD item) ::
        (withoutKey key pairs).foldl (fun mapping p => setItem p.1 p.2 mapping) mapping := by
  induction pairs generalizing item mapping with
  | nil => rfl
  | cons p rest ih =>
    rw [List.foldl_cons, setItem]
    rcases h : Value.same false key p.1 with _ | _
    · rw [if_neg Bool.false_ne_true, ih, itemsOf_cons_of_not_same h, withoutKey_cons_of_not_same h,
        List.foldl_cons]
    · rw [if_pos rfl, ih, itemsOf_cons_of_same h, withoutKey_cons_of_same h, List.getLastD_cons]

theorem foldl_setItem_nil (pairs : List (Value × α)) :
    pairs.foldl (fun mapping p => setItem p.1 p.2 mapping) [] = lastOfEach pairs := by
  induction pairs using lastOfEach.induct with
  | case1 => rw [lastOfEach]; rfl
  | case2 key item rest ih =>
    rw [lastOfEach, List.foldl_cons, setItem, foldl_setItem_cons, ih]

/-- A mapping that can be built is the list of its pairs without repetitions. -/
theorem mappingOf_eq {pairs : List (Value × α)} (h : ∀ p ∈ pairs, p.1.isKey) :
    mappingOf pairs = .ok (lastOfEach pairs) := by
  rw [← foldl_setItem_nil]
  exact if_pos (List.all_eq_true.2 h)

example :
    (mappingOf [(.text "a", 1), (.int 1, 2), (.text "a", 3), (.bool true, 4)]).toOption.map
      (List.map Prod.snd) = some [3, 4] := by decide +kernel

/-- Pairs with different keys stay as they are. -/
theorem lastOfEach_of_pairwise {pairs : List (Value × α)}
    (h : pairs.Pairwise fun p q => Value.same false p.1 q.1 = false) :
    lastOfEach pairs = pairs := by
  induction pairs with
  | nil => rw [lastOfEach]
  | cons p rest ih =>
    obtain ⟨hp, h⟩ := List.pairwise_cons.1 h
    have repeated : itemsOf p.1 rest = [] := by
      unfold itemsOf
      rw [List.filter_eq_nil_iff.2 fun q hq => Bool.eq_false_iff.1 (hp q hq)]
      rfl
    have others : withoutKey p.1 rest = rest :=
      List.filter_eq_self.2 fun q hq => by rw [hp q hq]; rfl
    rw [lastOfEach, repeated, others, ih h]
    rfl

/-! ## Other items -/

theorem withoutKey_map (f : α → β) (key : Value) (pairs : List (Value × α)) :
    withoutKey key (pairs.map fun p => (p.1, f p.2)) =
      (withoutKey key pairs).map fun p => (p.1, f p.2) := by
  unfold withoutKey
  rw [List.filter_map]
  rfl

theorem itemsOf_map (f : α → β) (key : Value) (pairs : List (Value × α)) :
    itemsOf key (pairs.map fun p => (p.1, f p.2)) = (itemsOf key pairs).map f := by
  unfold itemsOf
  rw [List.filter_map, List.map_map, List.map_map]
  rfl

/-- Which pairs are left does not depend on what the items are. -/
theorem lastOfEach_map (f : α → β) (pairs : List (Value × α)) :
    lastOfEach (pairs.map fun p => (p.1, f p.2)) =
      (lastOfEach pairs).map fun p => (p.1, f p.2) := by
  induction pairs using lastOfEach.induct with
  | case1 => rw [List.map_nil, lastOfEach, lastOfEach]; rfl
  | case2 key item rest ih =>
    rw [List.map_cons, lastOfEach, lastOfEach, List.map_cons, itemsOf_map, withoutKey_map, ih,
      List.getLastD_map]

/-- A property of all items is one of the items that are left. -/
theorem forall_mem_lastOfEach {P : α → Prop} {pairs : List (Value × α)} (h : ∀ p ∈ pairs, P p.2) :
    ∀ p ∈ lastOfEach pairs, P p.2 := by
  induction pairs using lastOfEach.induct with
  | case1 => rw [lastOfEach]; exact nofun
  | case2 key item rest ih =>
    obtain ⟨hitem, h⟩ := List.forall_mem_cons.1 h
    rw [lastOfEach, List.forall_mem_cons]
    refine ⟨?_, ih fun p hp => h p (List.mem_of_mem_filter hp)⟩
    show P ((itemsOf key rest).getLastD item)
    have hlast : (itemsOf key rest).getLastD item ∈ item :: itemsOf key rest :=
      List.getLastD_mem_cons
    rcases List.mem_cons.1 hlast with hlast | hlast
    · rw [hlast]
      exact hitem
    · obtain ⟨p, hp, hlast⟩ := List.mem_map.1 hlast
      rw [← hlast]
      exact h p (List.mem_of_mem_filter hp)

end CodeMetrics
