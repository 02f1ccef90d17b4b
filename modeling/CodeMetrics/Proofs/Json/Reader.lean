import CodeMetrics.Proofs.Except
import CodeMetrics.Proofs.Json.Number
import CodeMetrics.Proofs.Json.Plain
import CodeMetrics.Proofs.Value.Entries

/-!
# What comes out of a document

The reader makes no value that could not be written again: a whole number that it accepts is short
enough, and there are no values of kinds that JSON does not have.  Its lists are no longer than the
depth it may go to, because each item takes up a step (`isBounded_of_read`).
-/

namespace CodeMetrics

namespace Json

/-! ## Bounded values -/

mutual

/-- The value is one of JSON: its whole numbers are short enough to be written, and each list in it
has at most `size` items. -/
def isBounded (size : Nat) : Value → Bool
  | .null => true
  | .bool _ => true
  | .int n => decide (n.natAbs < Value.unwritable)
  | .float _ => true
  | .text _ => true
  | .list items => decide (items.length ≤ size) && isBoundedOf size items
  | .dict entries => isBoundedIn size entries
  | .tuple _ | .set _ | .bytes _ | .moment _ | .other .. => false

def isBoundedOf (size : Nat) : List Value → Bool
  | [] => true
  | v :: rest => isBounded size v && isBoundedOf size rest

def isBoundedIn (size : Nat) : List (String × Value) → Bool
  | [] => true
  | (_, v) :: rest => isBounded size v && isBoundedIn size rest

end

variable {size : Nat}

theorem isBoundedOf_iff {items : List Value} :
    isBoundedOf size items ↔ ∀ v ∈ items, isBounded size v := by
  induction items with
  | nil => exact ⟨fun _ => nofun, fun _ => rfl⟩
  | cons v rest ih => rw [isBoundedOf, Bool.and_eq_true, ih, List.forall_mem_cons]

theorem isBoundedIn_iff {entries : List (String × Value)} :
    isBoundedIn size entries ↔ ∀ e ∈ entries, isBounded size e.2 := by
  induction entries with
  | nil => exact ⟨fun _ => nofun, fun _ => rfl⟩
  | cons e rest ih => rw [isBoundedIn, Bool.and_eq_true, ih, List.forall_mem_cons]

/-- Bounded values can be written as JSON. -/
theorem unwritable?_of_isBounded : ∀ v : Value, isBounded size v → unwritable? v = none
  | .null | .bool _ | .float _ | .text _ => fun _ => rfl
  | .int n => fun h => by
    rw [isBounded, decide_eq_true_eq] at h
    rw [unwritable?, if_pos h]
  | .list items => fun h => by
    rw [isBounded, Bool.and_eq_true] at h
    refine unwritableOf?_eq_none_iff.2 fun v hv => ?_
    exact unwritable?_of_isBounded v (isBoundedOf_iff.1 h.2 v hv)
  | .dict entries => fun h => by
    refine unwritableIn?_eq_none_iff.2 fun (key, v) he => ?_
    have := Value.sizeOf_lt_of_mem_entries he
    exact unwritable?_of_isBounded v (isBoundedIn_iff.1 h (key, v) he)
  | .tuple _ | .set _ | .bytes _ | .moment _ | .other .. => nofun

/-- Bounded values can be printed. -/
theorem printable_of_isBounded : ∀ v : Value, isBounded size v → v.printable
  | .null | .bool _ | .float _ | .text _ => fun _ => rfl
  | .int n => fun h => by
    rw [isBounded] at h
    rw [Value.printable]
    exact h
  | .list items => fun h => by
    rw [isBounded, Bool.and_eq_true] at h
    refine Value.printableAll_iff.2 fun v hv => ?_
    exact printable_of_isBounded v (isBoundedOf_iff.1 h.2 v hv)
  | .dict entries => fun h => by
    refine Value.printableEntries_iff.2 fun (key, v) he => ?_
    have := Value.sizeOf_lt_of_mem_entries he
    exact printable_of_isBounded v (isBoundedIn_iff.1 h (key, v) he)
  | .tuple _ | .set _ | .bytes _ | .moment _ | .other .. => nofun

/-- An entry of a dictionary that was set last, or one that was there before. -/
theorem isBoundedIn_setEntry {key : String} {v : Value} {entries : List (String × Value)}
    (hv : isBounded size v) (h : isBoundedIn size entries) :
    isBoundedIn size (Value.setEntry key v entries) := by
  induction entries with
  | nil => rw [Value.setEntry, isBoundedIn, hv]; exact h
  | cons entry rest ih =>
    rw [isBoundedIn, Bool.and_eq_true] at h
    rw [Value.setEntry]
    by_cases hkey : entry.1 = key
    · rw [if_pos hkey, isBoundedIn, hv, h.2]
      rfl
    · rw [if_neg hkey, isBoundedIn, h.1, ih h.2]
      rfl

theorem isBoundedIn_overlay {base upper : List (String × Value)} (hb : isBoundedIn size base)
    (hu : isBoundedIn size upper) : isBoundedIn size (Value.overlay base upper) := by
  induction upper generalizing base with
  | nil => exact hb
  | cons entry rest ih =>
    rw [isBoundedIn, Bool.and_eq_true] at hu
    rw [Value.overlay_cons]
    exact ih (isBoundedIn_setEntry hu.1 hb) hu.2

/-! ## The reader -/

theorem isBounded_of_readNumber {s rest : List Char} {v : Value}
    (h : readNumber s = .ok (v, rest)) : isBounded size v := by
  cases v with
  | int n =>
    rw [isBounded, decide_eq_true_eq]
    exact natAbs_lt_of_readNumber h
  | float x => rfl
  | _ =>
    unfold readNumber at h
    dsimp only at h
    repeat' split at h
    all_goals cases h

theorem isBounded_of_readScalar {s rest : List Char} {v : Value}
    (h : readScalar s = .ok (v, rest)) : isBounded size v := by
  unfold readScalar at h
  split at h
  · next found hfound =>
    obtain ⟨⟨word, w⟩, hmem, hmap⟩ := List.exists_of_findSome?_eq_some hfound
    obtain ⟨after, -, rfl⟩ := Option.map_eq_some_iff.1 hmap
    obtain ⟨rfl, -⟩ := Prod.mk.inj (Except.ok.inj h)
    have hwords : ∀ entry ∈ words, isBounded size entry.2 := by
      simp [words, isBounded]
    exact hwords _ hmem
  · exact isBounded_of_readNumber h

/-- At some depth, values are bounded, and so are the items of lists and the entries of
dictionaries; a list has no more items than that depth. -/
def ReadsBounded (size depth : Nat) : Prop :=
  (∀ s v rest, readValue depth s = .ok (v, rest) → isBounded size v) ∧
    (∀ s vs rest, readItems depth s = .ok (vs, rest) →
      isBoundedOf size vs ∧ vs.length ≤ depth) ∧
    ∀ s es rest, readEntries depth s = .ok (es, rest) → isBoundedIn size es

variable {depth : Nat}

theorem isBounded_of_readValue (ih : ReadsBounded size depth) (hdepth : depth ≤ size)
    {s rest : List Char} {v : Value} (h : readValue (depth + 1) s = .ok (v, rest)) :
    isBounded size v := by
  obtain ⟨-, items, entries⟩ := ih
  unfold readValue at h
  split at h
  · obtain ⟨⟨t, after⟩, -, hv⟩ := map_eq_ok_iff.1 h
    obtain ⟨rfl, -⟩ := Prod.mk.inj hv
    rfl
  · split at h
    · obtain ⟨rfl, -⟩ := Prod.mk.inj (Except.ok.inj h)
      rfl
    · obtain ⟨⟨vs, after⟩, hvs, hv⟩ := map_eq_ok_iff.1 h
      obtain ⟨rfl, -⟩ := Prod.mk.inj hv
      obtain ⟨hbounded, hlength⟩ := items _ _ _ hvs
      rw [isBounded, hbounded, Bool.and_true, decide_eq_true_eq]
      omega
  · split at h
    · obtain ⟨rfl, -⟩ := Prod.mk.inj (Except.ok.inj h)
      rfl
    · obtain ⟨⟨es, after⟩, hes, hv⟩ := map_eq_ok_iff.1 h
      obtain ⟨rfl, -⟩ := Prod.mk.inj hv
      exact isBoundedIn_overlay rfl (entries _ _ _ hes)
  · exact isBounded_of_readScalar h

theorem isBoundedOf_of_readItems (ih : ReadsBounded size depth) {s rest : List Char}
    {vs : List Value} (h : readItems (depth + 1) s = .ok (vs, rest)) :
    isBoundedOf size vs ∧ vs.length ≤ depth + 1 := by
  obtain ⟨values, items, -⟩ := ih
  unfold readItems at h
  obtain ⟨⟨v, after⟩, hv, h⟩ := bind_eq_ok_iff.1 h
  have hfirst := values _ _ _ hv
  dsimp only at h
  split at h
  · obtain ⟨rfl, -⟩ := Prod.mk.inj (Except.ok.inj h)
    refine ⟨?_, by simp⟩
    rw [isBoundedOf, hfirst]
    rfl
  · obtain ⟨⟨others, last⟩, hothers, h⟩ := bind_eq_ok_iff.1 h
    obtain ⟨rfl, -⟩ := Prod.mk.inj (Except.ok.inj h)
    obtain ⟨hbounded, hlength⟩ := items _ _ _ hothers
    refine ⟨?_, Nat.succ_le_succ hlength⟩
    rw [isBoundedOf, hfirst, hbounded]
    rfl
  · cases h

theorem isBoundedIn_of_readEntries (ih : ReadsBounded size depth) {s rest : List Char}
    {es : List (String × Value)} (h : readEntries (depth + 1) s = .ok (es, rest)) :
    isBoundedIn size es := by
  obtain ⟨values, -, entries⟩ := ih
  unfold readEntries at h
  split at h
  · obtain ⟨⟨key, after⟩, -, h⟩ := bind_eq_ok_iff.1 h
    dsimp only at h
    split at h
    · obtain ⟨⟨v, after⟩, hv, h⟩ := bind_eq_ok_iff.1 h
      have hfirst := values _ _ _ hv
      dsimp only at h
      split at h
      · obtain ⟨rfl, -⟩ := Prod.mk.inj (Except.ok.inj h)
        rw [isBoundedIn, hfirst]
        rfl
      · obtain ⟨⟨others, last⟩, hothers, h⟩ := bind_eq_ok_iff.1 h
        obtain ⟨rfl, -⟩ := Prod.mk.inj (Except.ok.inj h)
        rw [isBoundedIn, hfirst, entries _ _ _ hothers]
        rfl
      · cases h
    · cases h
  · cases h

/-- The three readers call each other one level deeper, so the induction is on the depth. -/
theorem readsBounded (h : depth ≤ size) : ReadsBounded size depth := by
  induction depth with
  | zero => exact ⟨nofun, nofun, nofun⟩
  | succ depth ih =>
    have hdepth : depth ≤ size := by omega
    have deeper := ih hdepth
    exact ⟨fun _ _ _ => isBounded_of_readValue deeper hdepth,
      fun _ _ _ => isBoundedOf_of_readItems deeper, fun _ _ _ => isBoundedIn_of_readEntries deeper⟩

/-- The value of a document is bounded by twice the length of its text. -/
theorem isBounded_of_read {s : List Char} {v : Value} (hsize : 2 * s.length + 1 ≤ size)
    (h : read s = .ok v) : isBounded size v := by
  unfold read at h
  rw [mapError_eq_ok_iff] at h
  unfold readAll at h
  dsimp only at h
  split at h
  · cases h
  · obtain ⟨⟨w, rest⟩, hw, h⟩ := bind_eq_ok_iff.1 h
    have hlength : (skipGap s).length ≤ s.length := (List.dropWhile_suffix isGap).length_le
    have hdepth : 2 * (skipGap s).length + 1 ≤ size := by omega
    have hbounded : isBounded size w := (readsBounded hdepth).1 _ _ _ hw
    dsimp only at h
    split at h
    · obtain rfl := Except.ok.inj h
      exact hbounded
    · cases h

end Json

end CodeMetrics
