import CodeMetrics.Json.Writer
import Mathlib.Tactic.SplitIfs

/-!
# Written JSON is one plain line

Every character that the writer produces is a visible one of ASCII or a blank (`plain_text`), for
any value and any text in it.  Written JSON therefore holds no line end.  A list or a dictionary has
a written form when all of its parts have one.
-/

namespace CodeMetrics

namespace Json

/-- All characters are blanks or visible characters of ASCII. -/
def Plain (s : List Char) : Prop := ∀ c ∈ s, 0x20 ≤ c.toNat ∧ c.toNat ≤ 0x7e

instance (s : List Char) : Decidable (Plain s) := List.decidableBAll _ s

theorem plain_nil : Plain [] := nofun

theorem plain_append_iff {s t : List Char} : Plain (s ++ t) ↔ Plain s ∧ Plain t :=
  List.forall_mem_append

theorem Plain.cons {c : Char} {s : List Char} (hc : Plain [c]) (hs : Plain s) : Plain (c :: s) :=
  plain_append_iff.2 ⟨hc, hs⟩

theorem Plain.append {s t : List Char} (hs : Plain s) (ht : Plain t) : Plain (s ++ t) :=
  plain_append_iff.2 ⟨hs, ht⟩

theorem Plain.sublist {s t : List Char} (h : Plain t) (hs : s.Sublist t) : Plain s :=
  fun c hc => h c (hs.subset hc)

theorem plain_replicate {c : Char} (h : Plain [c]) (n : Nat) : Plain (List.replicate n c) := by
  intro d hd
  rw [List.eq_of_mem_replicate hd]
  exact h c (List.mem_singleton_self c)

/-- A line end is not plain. -/
theorem Plain.newline_not_mem {s : List Char} (h : Plain s) : '\n' ∉ s :=
  fun hn => absurd (h _ hn).1 (by decide)

/-! ## Numbers -/

theorem plain_of_isDigit {c : Char} (h : c.isDigit) : Plain [c] := by
  intro d hd
  rw [List.mem_singleton.1 hd]
  unfold Char.isDigit at h
  rw [Bool.and_eq_true, decide_eq_true_eq, decide_eq_true_eq] at h
  have low : (48 : UInt32).toNat ≤ c.val.toNat := h.1
  have high : c.val.toNat ≤ (57 : UInt32).toNat := h.2
  exact ⟨Nat.le_trans (by decide) low, Nat.le_trans high (by decide)⟩

theorem plain_toDigits (n : Nat) : Plain (Nat.toDigits 10 n) :=
  fun c hc => plain_of_isDigit (Nat.isDigit_of_mem_toDigits (by decide) (by decide) hc) c
    (List.mem_singleton_self c)

theorem plain_toString_nat (n : Nat) : Plain (toString n).toList := by
  rw [Nat.toString_eq_repr, Nat.toList_repr]
  exact plain_toDigits n

theorem plain_toString_int (n : Int) : Plain (toString n).toList := by
  rw [Int.toString_eq_repr, Int.repr_eq_if]
  split
  · rw [Nat.toList_repr]
    exact plain_toDigits _
  · rw [String.toList_append, Nat.toList_repr, plain_append_iff]
    exact ⟨by decide, plain_toDigits _⟩

theorem plain_signText (neg : Bool) : Plain (Binary64.signText neg).toList := by
  cases neg <;> decide

theorem plain_exponentText (e : Int) : Plain (Binary64.exponentText e).toList := by
  unfold Binary64.exponentText
  rw [String.toList_append, plain_append_iff]
  constructor
  · split <;> decide
  · split
    · rw [String.toList_append, plain_append_iff]
      exact ⟨by decide, plain_toString_nat _⟩
    · exact plain_toString_nat _

theorem plain_placePoint {digits : List Char} (h : Plain digits) (point : Int) :
    Plain (Binary64.placePoint digits point).toList := by
  have zeros : ∀ n, Plain (List.replicate n '0') := plain_replicate (by decide)
  unfold Binary64.placePoint
  dsimp only
  split_ifs
  · simp only [String.toList_append, String.toList_ofList, plain_append_iff]
    exact ⟨⟨by decide, zeros _⟩, h⟩
  · simp only [String.toList_append, String.toList_ofList, plain_append_iff]
    exact ⟨⟨h, zeros _⟩, by decide⟩
  · simp only [String.toList_append, String.toList_ofList, plain_append_iff]
    exact ⟨⟨h.sublist (List.take_sublist _ _), by decide⟩, h.sublist (List.drop_sublist _ _)⟩
  · split
    · rw [String.toList_ofList]
      exact h
    · rw [String.toList_append, String.toList_singleton, plain_append_iff]
      exact ⟨h, plain_exponentText _⟩
    · next d rest _ =>
      obtain ⟨hd, hrest⟩ := (plain_append_iff (s := [d])).1 h
      simp only [String.toList_append, String.toList_singleton, String.toList_ofList,
        plain_append_iff]
      exact ⟨⟨⟨hd, by decide⟩, hrest⟩, plain_exponentText _⟩

theorem plain_shortestDigits (u : Nat) : Plain (Binary64.shortestDigits u).1 := by
  unfold Binary64.shortestDigits
  dsimp only
  split
  · decide
  · next c _ _ =>
    refine (plain_toDigits c).sublist (List.reverse_sublist.1 ?_)
    rw [List.reverse_reverse]
    exact List.dropWhile_sublist _

theorem plain_toShortest (x : Binary64) : Plain x.toShortest.toList := by
  cases x with
  | nan => decide
  | inf s =>
    rw [Binary64.toShortest, String.toList_append, plain_append_iff]
    exact ⟨plain_signText s, by decide⟩
  | finite s u h =>
    rw [Binary64.toShortest]
    split_ifs
    · rw [String.toList_append, plain_append_iff]
      exact ⟨plain_signText s, by decide⟩
    · rw [String.toList_append, plain_append_iff]
      exact ⟨plain_signText s, plain_placePoint (plain_shortestDigits u) _⟩

theorem plain_floatText (x : Binary64) : Plain (floatText x).toList := by
  unfold floatText
  split
  · decide
  · rw [String.toList_append, plain_append_iff]
    exact ⟨plain_signText _, by decide⟩
  · exact plain_toShortest x

/-! ## Texts -/

theorem plain_hexDigits (width n : Nat) : Plain (hexDigits width n) := by
  induction width generalizing n with
  | zero => exact plain_nil
  | succ w ih =>
    have digit : ∀ i < 16, Plain [Nat.digitChar i] := by decide
    rw [hexDigits, plain_append_iff]
    exact ⟨ih _, digit _ (Nat.mod_lt _ (by decide))⟩

theorem plain_of_shortEscape {c letter : Char} (h : shortEscape? c = some letter) :
    Plain [letter] := by
  unfold shortEscape? at h
  split at h
  · next hc =>
    rw [← Option.some.inj h]
    rcases hc with rfl | rfl <;> decide
  all_goals
    repeat' split at h
    all_goals
      first
      | (rw [← Option.some.inj h]; decide)
      | cases h

theorem plain_escapeChar (c : Char) : Plain (escapeChar c) := by
  unfold escapeChar
  split
  · next letter h =>
    exact .cons (by decide) (plain_of_shortEscape h)
  · split
    · next h =>
      intro d hd
      rw [List.mem_singleton.1 hd]
      exact h
    · intro d hd
      obtain ⟨u, -, hu⟩ := List.mem_flatMap.1 hd
      have hp : Plain ('\\' :: 'u' :: hexDigits 4 u) :=
        .cons (by decide) (.cons (by decide) (plain_hexDigits 4 u))
      exact hp d hu

theorem plain_quote (s : List Char) : Plain (quote s) := by
  refine .append (.cons (by decide) fun c hc => ?_) (by decide)
  obtain ⟨d, -, hd⟩ := List.mem_flatMap.1 hc
  exact plain_escapeChar d c hd

/-! ## Values -/

mutual

/-- Written JSON consists of blanks and visible characters of ASCII. -/
theorem plain_text : ∀ v : Value, Plain (text v)
  | .null => by decide
  | .bool b => by cases b <;> decide
  | .int n => plain_toString_int n
  | .float x => plain_floatText x
  | .text s => plain_quote s.toList
  | .list items => (Plain.cons (by decide) (plain_itemsText items)).append (by decide)
  | .tuple items => (Plain.cons (by decide) (plain_itemsText items)).append (by decide)
  | .dict entries => (Plain.cons (by decide) (plain_entriesText entries)).append (by decide)
  | .set _ => plain_nil
  | .bytes _ => plain_nil
  | .moment _ => plain_nil
  | .other _ _ => plain_nil

theorem plain_itemsText : ∀ items : List Value, Plain (itemsText items)
  | [] => plain_nil
  | [v] => plain_text v
  | v :: w :: rest => by
    rw [itemsText]
    · exact (plain_text v).append
        (.cons (by decide) (.cons (by decide) (plain_itemsText (w :: rest))))
    · exact nofun

theorem plain_entriesText : ∀ entries : List (String × Value), Plain (entriesText entries)
  | [] => plain_nil
  | [(k, v)] => by
    rw [entriesText]
    exact (plain_quote _).append (.cons (by decide) (.cons (by decide) (plain_text v)))
  | (k, v) :: e :: rest => by
    rw [entriesText]
    · have entry : Plain (quote k.toList ++ ':' :: ' ' :: text v) :=
        (plain_quote _).append (.cons (by decide) (.cons (by decide) (plain_text v)))
      have others : Plain (',' :: ' ' :: entriesText (e :: rest)) :=
        .cons (by decide) (.cons (by decide) (plain_entriesText (e :: rest)))
      exact entry.append others
    · exact nofun

end

/-! ## Values that can be written -/

theorem unwritable_pos : 0 < Value.unwritable := by decide +kernel

theorem unwritableOf?_eq_none_iff {items : List Value} :
    unwritableOf? items = none ↔ ∀ v ∈ items, unwritable? v = none := by
  induction items with
  | nil => exact ⟨fun _ => nofun, fun _ => rfl⟩
  | cons v rest ih => rw [unwritableOf?, Option.or_eq_none_iff, ih, List.forall_mem_cons]

theorem unwritableIn?_eq_none_iff {entries : List (String × Value)} :
    unwritableIn? entries = none ↔ ∀ e ∈ entries, unwritable? e.2 = none := by
  induction entries with
  | nil => exact ⟨fun _ => nofun, fun _ => rfl⟩
  | cons e rest ih => rw [unwritableIn?, Option.or_eq_none_iff, ih, List.forall_mem_cons]

end Json

end CodeMetrics
