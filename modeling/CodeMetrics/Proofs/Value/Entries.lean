import CodeMetrics.Value.Basic

/-!
# Dictionaries laid over each other

Setting a key changes what is found under it and nothing else (`lookup_setEntry`).  Of dictionaries
that are laid over each other, the highest that has a key decides about it (`lookup_layers`), and the
keys are those of all of them (`mem_keys_layers`).  Entries with different keys stay as they are when
they are set one after the other (`overlay_of_nodup`).

Lists and dictionaries can be printed when their parts can.
-/

namespace CodeMetrics

namespace Value

variable {α : Type}

/-- The item that a list of entries ends up with under a key: the last one. -/
def lastItem? (entries : List (String × α)) (key : String) : Option α :=
  entries.reverse.lookup key

/-- The item of the first dictionary that has the key. -/
def winner? (layers : List (List (String × α))) (key : String) : Option α :=
  layers.findSome? fun entries => lastItem? entries key

theorem lookup_cons_eq {κ : Type} [BEq κ] [LawfulBEq κ] [DecidableEq κ] (key k : κ) (item : α)
    (entries : List (κ × α)) :
    ((key, item) :: entries).lookup k = if k = key then some item else entries.lookup k := by
  rw [List.lookup_cons]
  by_cases h : k = key
  · rw [if_pos h, beq_iff_eq.2 h]
  · rw [if_neg h, beq_eq_false_iff_ne.2 h]

theorem lookup_setEntry (key k : String) (item : α) (entries : List (String × α)) :
    (setEntry key item entries).lookup k = if k = key then some item else entries.lookup k := by
  induction entries with
  | nil => exact lookup_cons_eq key k item []
  | cons entry rest ih =>
    obtain ⟨other, old⟩ := entry
    rw [setEntry]
    by_cases ho : other = key
    · rw [if_pos ho, lookup_cons_eq, lookup_cons_eq, ho]
      by_cases h : k = key <;> simp [h]
    · rw [if_neg ho, lookup_cons_eq, lookup_cons_eq, ih]
      by_cases h : k = other
      · have hk : k ≠ key := fun e => ho (h.symm.trans e)
        simp [h, ho]
      · simp [h]

theorem mem_keys_setEntry {key k : String} {item : α} {entries : List (String × α)} :
    k ∈ (setEntry key item entries).map Prod.fst ↔ k = key ∨ k ∈ entries.map Prod.fst := by
  induction entries with
  | nil => simp [setEntry]
  | cons entry rest ih =>
    obtain ⟨other, old⟩ := entry
    rw [setEntry]
    by_cases ho : other = key
    · rw [if_pos ho]
      simp [ho]
    · rw [if_neg ho, List.map_cons, List.mem_cons, ih, List.map_cons, List.mem_cons]
      exact or_left_comm

theorem setEntry_of_not_mem {key : String} {item : α} {entries : List (String × α)}
    (h : key ∉ entries.map Prod.fst) : setEntry key item entries = entries ++ [(key, item)] := by
  induction entries with
  | nil => rfl
  | cons entry rest ih =>
    obtain ⟨other, old⟩ := entry
    rw [List.map_cons, List.mem_cons, not_or] at h
    rw [setEntry, if_neg (Ne.symm h.1), ih h.2, List.cons_append]

theorem overlay_cons (base : List (String × α)) (key : String) (item : α)
    (upper : List (String × α)) :
    overlay base ((key, item) :: upper) = overlay (setEntry key item base) upper := rfl

/-- Different keys that are set one after the other stay in their order. -/
theorem overlay_of_nodup {base upper : List (String × α)}
    (h : ((base ++ upper).map Prod.fst).Nodup) : overlay base upper = base ++ upper := by
  induction upper generalizing base with
  | nil => exact (List.append_nil base).symm
  | cons entry rest ih =>
    obtain ⟨key, item⟩ := entry
    have hkey : key ∉ base.map Prod.fst := by
      intro hmem
      rw [List.map_append] at h
      exact (List.nodup_append.1 h).2.2 key hmem key (List.mem_cons_self ..) rfl
    have hsplit : base ++ (key, item) :: rest = (base ++ [(key, item)]) ++ rest := by simp
    rw [hsplit] at h
    rw [overlay_cons, setEntry_of_not_mem hkey, ih h, hsplit]

theorem lastItem?_cons (key k : String) (item : α) (entries : List (String × α)) :
    lastItem? ((key, item) :: entries) k =
      (lastItem? entries k).or (if k = key then some item else none) := by
  unfold lastItem?
  rw [List.reverse_cons, List.lookup_append, lookup_cons_eq, List.lookup_nil]

/-- The upper dictionary decides about the keys it has. -/
theorem lookup_overlay (base upper : List (String × α)) (k : String) :
    (overlay base upper).lookup k = (lastItem? upper k).or (base.lookup k) := by
  induction upper generalizing base with
  | nil => rfl
  | cons entry rest ih =>
    obtain ⟨key, item⟩ := entry
    rw [overlay_cons, ih, lookup_setEntry, lastItem?_cons, Option.or_assoc]
    by_cases h : k = key <;> simp [h]

theorem mem_keys_overlay {base upper : List (String × α)} {k : String} :
    k ∈ (overlay base upper).map Prod.fst ↔
      k ∈ base.map Prod.fst ∨ k ∈ upper.map Prod.fst := by
  induction upper generalizing base with
  | nil => simp [overlay]
  | cons entry rest ih =>
    obtain ⟨key, item⟩ := entry
    rw [overlay_cons, ih, mem_keys_setEntry, List.map_cons, List.mem_cons]
    exact or_assoc.trans or_left_comm

/-- Of several dictionaries, the lowest given first, the highest that has a key decides. -/
theorem lookup_layers (base : List (String × α)) (layers : List (List (String × α)))
    (k : String) :
    (layers.foldl overlay base).lookup k = (winner? layers.reverse k).or (base.lookup k) := by
  induction layers generalizing base with
  | nil => rfl
  | cons layer rest ih =>
    have hsplit : winner? (rest.reverse ++ [layer]) k =
        (winner? rest.reverse k).or (lastItem? layer k) := by
      unfold winner?
      rw [List.findSome?_append]
      simp
    rw [List.foldl_cons, ih, lookup_overlay, List.reverse_cons, hsplit, Option.or_assoc]

theorem mem_keys_layers {base : List (String × α)} {layers : List (List (String × α))}
    {k : String} :
    k ∈ (layers.foldl overlay base).map Prod.fst ↔
      k ∈ base.map Prod.fst ∨ ∃ layer ∈ layers, k ∈ layer.map Prod.fst := by
  induction layers generalizing base with
  | nil => simp
  | cons layer rest ih =>
    rw [List.foldl_cons, ih, mem_keys_overlay, or_assoc]
    simp only [List.mem_cons, exists_eq_or_imp]

/-! ### The order of keys -/

/-- A key that is set again keeps its place, so it is not found any later than before. -/
theorem find?_keys_setEntry (p : String → Bool) (key : String) (item : α)
    (entries : List (String × α)) :
    ((setEntry key item entries).map Prod.fst).find? p =
      ((entries.map Prod.fst).find? p).or ([key].find? p) := by
  induction entries with
  | nil => rfl
  | cons entry rest ih =>
    obtain ⟨other, old⟩ := entry
    rw [setEntry]
    by_cases ho : other = key
    · subst ho
      rw [if_pos rfl]
      by_cases hp : p other <;> simp [hp]
    · rw [if_neg ho, List.map_cons, List.map_cons, List.find?_cons, List.find?_cons, ih]
      by_cases hp : p other <;> simp [hp]

theorem find?_keys_overlay (p : String → Bool) (base upper : List (String × α)) :
    ((overlay base upper).map Prod.fst).find? p =
      ((base.map Prod.fst).find? p).or ((upper.map Prod.fst).find? p) := by
  induction upper generalizing base with
  | nil => exact Option.or_none.symm
  | cons entry rest ih =>
    obtain ⟨key, item⟩ := entry
    rw [overlay_cons, ih, find?_keys_setEntry, Option.or_assoc, ← List.find?_append]
    rfl

/-- The first key of its kind in dictionaries that are laid over each other is the first of the
dictionaries one after the other. -/
theorem find?_keys_layers (p : String → Bool) (base : List (String × α))
    (layers : List (List (String × α))) :
    ((layers.foldl overlay base).map Prod.fst).find? p =
      ((base ++ layers.flatten).map Prod.fst).find? p := by
  induction layers generalizing base with
  | nil => simp
  | cons layer rest ih =>
    rw [List.foldl_cons, ih, List.map_append, List.find?_append, find?_keys_overlay, Option.or_assoc,
      List.flatten_cons, List.map_append, List.map_append, List.find?_append, List.find?_append]

/-! ## Parts of nested values -/

/-- Recursion may go from a dictionary to its values. -/
theorem sizeOf_lt_of_mem_entries {key : String} {v : Value} {entries : List (String × Value)}
    (h : (key, v) ∈ entries) : sizeOf v < sizeOf entries := by
  have hentry := List.sizeOf_lt_of_mem h
  rw [Prod.mk.sizeOf_spec] at hentry
  omega

theorem copiableAll_iff {items : List Value} : copiableAll items ↔ ∀ v ∈ items, v.copiable := by
  induction items with
  | nil => exact ⟨fun _ => nofun, fun _ => rfl⟩
  | cons v rest ih => rw [copiableAll, Bool.and_eq_true, ih, List.forall_mem_cons]

theorem copiableEntries_iff {entries : List (String × Value)} :
    copiableEntries entries ↔ ∀ e ∈ entries, e.2.copiable := by
  induction entries with
  | nil => exact ⟨fun _ => nofun, fun _ => rfl⟩
  | cons e rest ih => rw [copiableEntries, Bool.and_eq_true, ih, List.forall_mem_cons]

theorem printableAll_iff {items : List Value} :
    printableAll items ↔ ∀ v ∈ items, v.printable := by
  induction items with
  | nil => exact ⟨fun _ => nofun, fun _ => rfl⟩
  | cons v rest ih => rw [printableAll, Bool.and_eq_true, ih, List.forall_mem_cons]

theorem printableEntries_iff {entries : List (String × Value)} :
    printableEntries entries ↔ ∀ e ∈ entries, e.2.printable := by
  induction entries with
  | nil => exact ⟨fun _ => nofun, fun _ => rfl⟩
  | cons e rest ih => rw [printableEntries, Bool.and_eq_true, ih, List.forall_mem_cons]

end Value

end CodeMetrics
