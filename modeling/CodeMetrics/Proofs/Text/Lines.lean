import CodeMetrics.Text.Lines

/-!
# Pieces of a text

Cutting a text at some characters is the library's `List.splitOnP`, whose lemmas then apply.
-/

namespace CodeMetrics

theorem splitWhere_eq_splitOnP (p : Char → Bool) (s : List Char) :
    splitWhere p s = s.splitOnP p := by
  induction s with
  | nil => rw [splitWhere, List.splitOnP_nil]
  | cons c rest ih =>
    rw [splitWhere, List.splitOnP_cons_eq_if_modifyHead, ih]
    split
    · rfl
    · cases hpieces : rest.splitOnP p with
      | nil => exact absurd hpieces (List.splitOnP_ne_nil p rest)
      | cons piece pieces => rfl

theorem splitWhere_of_forall {p : Char → Bool} {s : List Char} (h : ∀ c ∈ s, p c = false) :
    splitWhere p s = [s] := by
  rw [splitWhere_eq_splitOnP, List.splitOnP_eq_singleton h]

/-- No piece has a character at which the text was cut. -/
theorem forall_of_mem_splitWhere {p : Char → Bool} {s piece : List Char}
    (h : piece ∈ splitWhere p s) : ∀ c ∈ piece, p c = false := by
  induction s generalizing piece with
  | nil =>
    rw [splitWhere, List.mem_singleton] at h
    subst h
    exact List.forall_mem_nil _
  | cons c rest ih =>
    rw [splitWhere_eq_splitOnP, List.splitOnP_cons_eq_if_modifyHead] at h
    simp only [splitWhere_eq_splitOnP] at ih
    by_cases hc : p c
    · rw [if_pos hc, List.mem_cons] at h
      obtain rfl | h := h
      · exact List.forall_mem_nil _
      · exact ih h
    · obtain ⟨first, others, hpieces⟩ :=
        List.exists_cons_of_ne_nil (List.splitOnP_ne_nil p rest)
      rw [hpieces] at h ih
      rw [if_neg hc, List.modifyHead_cons, List.mem_cons] at h
      obtain rfl | h := h
      · exact List.forall_mem_cons.2 ⟨Bool.eq_false_iff.2 hc, ih (List.mem_cons_self ..)⟩
      · exact ih (List.mem_cons_of_mem first h)

/-- A piece has no other characters than the text. -/
theorem mem_of_mem_splitWhere {p : Char → Bool} {s piece : List Char} {c : Char}
    (h : piece ∈ splitWhere p s) (hc : c ∈ piece) : c ∈ s := by
  fun_induction splitWhere p s generalizing piece with
  | case1 =>
    rw [List.mem_singleton.1 h] at hc
    cases hc
  | case2 d rest hd ih =>
    rcases List.mem_cons.1 h with rfl | h
    · cases hc
    · exact List.mem_cons_of_mem d (ih h hc)
  | case3 d rest hd hpieces ih =>
    rw [List.mem_singleton.1 h] at hc
    exact List.mem_cons.2 (.inl (List.mem_singleton.1 hc))
  | case4 d rest hd first pieces hpieces ih =>
    rw [hpieces] at ih
    rcases List.mem_cons.1 h with rfl | h
    · rcases List.mem_cons.1 hc with rfl | hc
      · exact List.mem_cons_self ..
      · exact List.mem_cons_of_mem d (ih (List.mem_cons_self ..) hc)
    · exact List.mem_cons_of_mem d (ih (List.mem_cons_of_mem first h) hc)

/-- Joining the pieces gives the text back. -/
theorem intercalate_splitWhere (sep : Char) (s : List Char) :
    [sep].intercalate (splitWhere (· = sep) s) = s := by
  rw [splitWhere_eq_splitOnP]
  exact List.intercalate_splitOn sep

/-! ## Texts that are drawn as they are -/

theorem expandTabs_of_notMem {s : List Char} (h : '\t' ∉ s) : expandTabs s = s := by
  have hpieces : splitWhere (· = '\t') s = [s] :=
    splitWhere_of_forall fun c hc => decide_eq_false fun e => h (e ▸ hc)
  rw [expandTabs, hpieces, expandPieces]

theorem dropSteering_eq_self {s : List Char} (h : ∀ c ∈ s, isSteering c = false) :
    dropSteering s = s := by
  unfold dropSteering
  rw [List.filter_eq_self]
  intro c hc
  rw [h c hc]
  rfl

end CodeMetrics
