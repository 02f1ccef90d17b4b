import CodeMetrics.Proofs.Text.Lines
import CodeMetrics.Storage.Path

/-!
# Tidy paths

The shortest form of a path leads the same way as the path: it has the same steps
(`steps_tidy`).
-/

namespace CodeMetrics

namespace Path

theorem mem_names {path name : String} (h : name ∈ names path) :
    name ≠ "" ∧ name ≠ "." ∧ '/' ∉ name.toList := by
  unfold names at h
  obtain ⟨hmem, hname⟩ := List.mem_filter.1 h
  obtain ⟨piece, hpiece, rfl⟩ := List.mem_map.1 hmem
  obtain ⟨hempty, hdot⟩ := of_decide_eq_true hname
  refine ⟨hempty, hdot, fun hslash => ?_⟩
  rw [String.toList_ofList] at hslash
  have := forall_of_mem_splitWhere hpiece '/' hslash
  simp at this

/-- A slash in front of a path adds no name. -/
theorem names_slash (path : String) : names ("/" ++ path) = names path := by
  have hslash : ("/" ++ path).toList = '/' :: path.toList := String.toList_append
  unfold names
  rw [hslash, splitWhere, if_pos (by decide), List.map_cons, List.filter_cons_of_neg (by decide)]

/-- Names that are joined by slashes are found again. -/
theorem names_intercalate {ns : List String} (hne : ns ≠ [])
    (h : ∀ n ∈ ns, n ≠ "" ∧ n ≠ "." ∧ '/' ∉ n.toList) : names ("/".intercalate ns) = ns := by
  have hpieces : splitWhere (· = '/') ("/".intercalate ns).toList = ns.map String.toList := by
    have hslash : ∀ l ∈ ns.map String.toList, '/' ∉ l :=
      List.forall_mem_map.2 fun n hn => (h n hn).2.2
    have hsplit := List.splitOn_intercalate '/' hslash (by simpa using hne)
    rw [List.splitOn_eq_splitOnP] at hsplit
    rw [String.toList_intercalate, splitWhere_eq_splitOnP]
    exact hsplit
  unfold names
  rw [hpieces, List.map_map]
  have hid : String.ofList ∘ String.toList = id := funext fun s => String.ofList_toList
  rw [hid, List.map_id, List.filter_eq_self]
  exact fun n hn => decide_eq_true ⟨(h n hn).1, (h n hn).2.1⟩

theorem root_cases (path : String) : root path = "" ∨ root path = "/" ∨ root path = "//" := by
  unfold root
  split
  · split
    · exact .inr (.inl rfl)
    · exact .inr (.inr rfl)
  · exact .inr (.inr rfl)
  · exact .inr (.inl rfl)
  · exact .inl rfl

theorem root_eq_empty_iff {path : String} : root path = "" ↔ path.toList.head? ≠ some '/' := by
  unfold root
  split
  · next h =>
    rw [h]
    split <;> simp
  · next h =>
    rw [h]
    simp
  · next h =>
    rw [h]
    simp
  · next h =>
    refine iff_of_true rfl fun hhead => ?_
    obtain ⟨rest, hrest⟩ := List.head?_eq_some_iff.1 hhead
    exact h rest hrest

theorem names_tidy (path : String) : names (tidy path) = names path := by
  have hnames : ∀ n ∈ names path, n ≠ "" ∧ n ≠ "." ∧ '/' ∉ n.toList := fun n => mem_names
  by_cases hne : names path = []
  · unfold tidy
    rw [hne]
    obtain h | h | h := root_cases path <;> rw [h] <;> decide
  · have hjoined := names_intercalate hne hnames
    have hslashes : names (root path ++ "/".intercalate (names path)) = names path := by
      obtain h | h | h := root_cases path <;> rw [h]
      · rw [String.empty_append, hjoined]
      · rw [names_slash, hjoined]
      · show names (("/" ++ "/") ++ "/".intercalate (names path)) = _
        rw [String.append_assoc, names_slash, names_slash, hjoined]
    have htext : root path ++ "/".intercalate (names path) ≠ "" := by
      intro h
      rw [h] at hslashes
      exact hne (hslashes.symm.trans (by decide))
    unfold tidy
    rw [if_neg htext, hslashes]

theorem root_tidy_eq_empty_iff (path : String) : root (tidy path) = "" ↔ root path = "" := by
  obtain h | h := root_cases path
  · refine iff_of_true ?_ h
    rw [root_eq_empty_iff]
    unfold tidy
    rw [h, String.empty_append]
    dsimp only
    split
    · decide
    · cases hns : names path with
      | nil => decide
      | cons n rest =>
        obtain ⟨hempty, -, hslash⟩ := mem_names (hns ▸ List.mem_cons_self : n ∈ names path)
        obtain ⟨c, cs, hn⟩ := List.exists_cons_of_ne_nil fun e => hempty (String.toList_eq_nil_iff.1 e)
        have hc : c ≠ '/' := by
          rintro rfl
          exact hslash (hn ▸ List.mem_cons_self)
        rw [String.toList_intercalate, List.map_cons, hn, List.intercalate_cons_cons_left]
        simpa using hc
  · have hroot : root path ≠ "" := by
      obtain h | h := h <;> rw [h] <;> decide
    refine iff_of_false (fun hempty => ?_) hroot
    have htext : root path ++ "/".intercalate (names path) ≠ "" := by
      obtain h | h := h <;> rw [h] <;> simp
    unfold tidy at hempty
    rw [if_neg htext, root_eq_empty_iff, String.toList_append] at hempty
    obtain h | h := h <;> rw [h] at hempty <;> exact hempty rfl

/-- A path and its shortest form have the same steps. -/
theorem steps_tidy (path : String) : steps (tidy path) = steps path := by
  unfold steps
  rw [names_tidy]
  by_cases h : root path = ""
  · rw [if_pos h, if_pos ((root_tidy_eq_empty_iff path).2 h)]
  · rw [if_neg h, if_neg fun ht => h ((root_tidy_eq_empty_iff path).1 ht)]

theorem tidy_ne_empty (path : String) : tidy path ≠ "" := by
  unfold tidy
  dsimp only
  split
  · decide
  · assumption

end Path

end CodeMetrics
