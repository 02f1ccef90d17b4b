import CodeMetrics.Proofs.Except
import CodeMetrics.Proofs.Storage.Path
import CodeMetrics.Proofs.Value.Entries
import CodeMetrics.Storage.Files

/-!
# Opening a file for appending

A file that is opened for appending may have to be made.  Whoever looks at the files afterwards
finds what was there before; only where there was nothing there may now be the new file, which is
empty, or a way that leads behind it (`look_openForAppend`).
-/

namespace CodeMetrics

/-- What is found under a path before and after a file is made. -/
def Node.Gives (before after : Node) : Prop :=
  after = before ∨ before = .absent ∧ (after = .file [] ∨ after = .behindFile)

theorem Node.Gives.eq_of_ne_absent {before after : Node} (h : before.Gives after)
    (hne : before ≠ .absent) : after = before := by
  obtain h | ⟨habsent, -⟩ := h
  · exact h
  · exact absurd habsent hne

namespace Files

variable {files files' : Files} {steps t : List String} {node : Node}

/-! ## Setting a file -/

theorem lookup_set (files : Files) (steps t : List String) (node : Node) :
    (files.set steps node).lookup t = if t = steps then some node else files.lookup t := by
  induction files with
  | nil => exact Value.lookup_cons_eq steps t node []
  | cons entry rest ih =>
    obtain ⟨s, old⟩ := entry
    rw [set]
    by_cases hs : s = steps
    · rw [if_pos hs, Value.lookup_cons_eq, Value.lookup_cons_eq, hs]
      by_cases h : t = steps <;> simp [h]
    · rw [if_neg hs, Value.lookup_cons_eq, Value.lookup_cons_eq, ih]
      by_cases h : t = s
      · have hne : t ≠ steps := fun e => hs (h.symm.trans e)
        rw [if_pos h, if_pos h, if_neg hne]
      · rw [if_neg h, if_neg h]

/-- A test that the old node does not pass alone is passed by the same files as before, and by the
new one if it passes. -/
theorem any_set {q : List String × Node → Bool}
    (h : ∀ old, files.lookup steps = some old → q (steps, old) → q (steps, node)) :
    (files.set steps node).any q = (files.any q || q (steps, node)) := by
  induction files with
  | nil => simp [set]
  | cons entry rest ih =>
    obtain ⟨s, old⟩ := entry
    rw [set]
    by_cases hs : s = steps
    · subst hs
      have hold := h old (by simp)
      rw [if_pos rfl, List.any_cons, List.any_cons]
      cases hq : q (s, old) with
      | false => rw [Bool.false_or, Bool.or_comm]
      | true =>
        rw [hold hq]
        simp
    · have hne : steps ≠ s := fun e => hs e.symm
      have hrest : ∀ old, rest.lookup steps = some old → q (steps, old) → q (steps, node) := by
        intro old hold
        exact h old (by rw [Value.lookup_cons_eq, if_neg hne]; exact hold)
      rw [if_neg hs, List.any_cons, List.any_cons, ih hrest, Bool.or_assoc]

/-! ## Making a file -/

theorem prefix_dropLast_of_ne (h : t <+: steps) (hne : t ≠ steps) : t <+: steps.dropLast := by
  obtain ⟨rest, rfl⟩ := h
  have hrest : rest ≠ [] := by
    rintro rfl
    exact hne (List.append_nil t).symm
  rw [List.dropLast_append_of_ne_nil hrest]
  exact List.prefix_append t rest.dropLast

/-- The steps lead to a directory even if it is not among the files itself: it is outside, or there
are files in it. -/
def isInner (files : Files) (steps : List String) : Bool :=
  steps.all Path.isOutward || files.any fun (s, _) => steps.isPrefixOf s

/-- There is a file on the way. -/
def isBlocked (files : Files) (steps : List String) : Bool :=
  files.any fun (s, node) => node.isFile && s.isPrefixOf steps

theorem at?_of_lookup (h : files.lookup steps = some node) : files.at? steps = node := by
  unfold at?
  rw [h]

theorem at?_of_lookup_none (h : files.lookup steps = none) :
    files.at? steps =
      if files.isInner steps then .directory
      else if files.isBlocked steps then .behindFile
      else .absent := by
  unfold at?
  rw [h]
  rfl

/-- A directory is an inner place, and so is every place on the way to it. -/
theorem isInner_of_prefix (h : files.at? steps = .directory) (ht : t <+: steps) :
    files.isInner t := by
  have mono (hs : files.isInner steps) : files.isInner t := by
    unfold isInner at hs ⊢
    rw [Bool.or_eq_true, List.all_eq_true, List.any_eq_true] at hs ⊢
    obtain hs | ⟨entry, hmem, hs⟩ := hs
    · exact .inl fun step hstep => hs step (ht.subset hstep)
    · rw [List.isPrefixOf_iff_prefix] at hs
      exact .inr ⟨entry, hmem, List.isPrefixOf_iff_prefix.2 (ht.trans hs)⟩
  cases hlookup : files.lookup steps with
  | none =>
    rw [at?_of_lookup_none hlookup] at h
    by_cases hs : files.isInner steps
    · exact mono hs
    · rw [if_neg hs] at h
      split at h <;> cases h
  | some node =>
    obtain ⟨before, after, rfl, -⟩ := List.lookup_eq_some_iff.1 hlookup
    refine mono ?_
    unfold isInner
    rw [Bool.or_eq_true, List.any_eq_true]
    exact .inr ⟨(steps, node), by simp, List.isPrefixOf_iff_prefix.2 (List.prefix_refl steps)⟩

theorem isInner_set (inside : files.at? steps.dropLast = .directory) (ht : t ≠ steps) :
    (files.set steps node).isInner t = files.isInner t := by
  have hset : (files.set steps node).any (fun (s, _) => t.isPrefixOf s) =
      (files.any (fun (s, _) => t.isPrefixOf s) || t.isPrefixOf steps) :=
    any_set fun _ _ h => h
  by_cases hprefix : t <+: steps
  · have hin := isInner_of_prefix inside (prefix_dropLast_of_ne hprefix ht)
    unfold isInner at hin ⊢
    rw [hset, ← Bool.or_assoc, hin]
    rfl
  · have hnot : t.isPrefixOf steps = false := by
      rw [← Bool.not_eq_true, List.isPrefixOf_iff_prefix]
      exact hprefix
    unfold isInner
    rw [hset, hnot, Bool.or_false]

theorem isBlocked_set {octets : List UInt8} (absent : files.at? steps = .absent)
    (t : List String) :
    (files.set steps (.file octets)).isBlocked t = (files.isBlocked t || steps.isPrefixOf t) := by
  refine any_set fun old hold hfile => ?_
  rw [at?_of_lookup hold] at absent
  rw [absent] at hfile
  cases hfile

theorem at?_set_self (files : Files) (steps : List String) (node : Node) :
    (files.set steps node).at? steps = node := by
  apply at?_of_lookup
  rw [lookup_set, if_pos rfl]

/-- Making a file in a directory changes nothing that was there. -/
theorem at?_set (absent : files.at? steps = .absent)
    (inside : files.at? steps.dropLast = .directory) (t : List String) :
    (files.at? t).Gives ((files.set steps (.file [])).at? t) := by
  have hlookup := lookup_set files steps t (.file [])
  by_cases ht : t = steps
  · rw [ht, at?_set_self]
    exact .inr ⟨absent, .inl rfl⟩
  · rw [if_neg ht] at hlookup
    cases h : files.lookup t with
    | some node =>
      rw [h] at hlookup
      exact .inl ((at?_of_lookup hlookup).trans (at?_of_lookup h).symm)
    | none =>
      rw [h] at hlookup
      rw [at?_of_lookup_none h, at?_of_lookup_none hlookup, isInner_set inside ht,
        isBlocked_set absent]
      unfold Node.Gives
      by_cases hin : files.isInner t
      · rw [if_pos hin, if_pos hin]
        exact .inl rfl
      · rw [if_neg hin, if_neg hin]
        cases files.isBlocked t <;> cases steps.isPrefixOf t <;> simp

/-- A file that is opened is there already, or is made in a directory. -/
theorem openForAppend_eq_ok_iff {path : String} :
    files.openForAppend path = .ok files' ↔
      (∃ octets, files.at? (Path.directSteps path) = .file octets) ∧ files' = files ∨
      files.at? (Path.directSteps path) = .absent ∧
        files.at? (Path.directSteps path).dropLast = .directory ∧
        files' = files.set (Path.directSteps path) (.file []) := by
  unfold openForAppend
  dsimp only
  cases files.at? (Path.directSteps path) with
  | file octets => simp [eq_comm]
  | directory => simp
  | behindFile => simp
  | absent => cases files.at? (Path.directSteps path).dropLast <;> simp [eq_comm]

theorem at?_openForAppend {path : String} (h : files.openForAppend path = .ok files')
    (t : List String) : (files.at? t).Gives (files'.at? t) := by
  obtain ⟨-, rfl⟩ | ⟨absent, inside, rfl⟩ := openForAppend_eq_ok_iff.1 h
  · exact .inl rfl
  · exact at?_set absent inside t

/-! ## Walking -/

theorem walk_gives (h : ∀ t, (files.at? t).Gives (files'.at? t)) (place rest : List String) :
    (files.walk place rest).Gives (files'.walk place rest) := by
  induction rest generalizing place with
  | nil => exact h place.reverse
  | cons step rest ih =>
    unfold walk
    obtain hsame | ⟨habsent, hnew⟩ := h place.reverse
    · rw [hsame]
      cases files.at? place.reverse with
      | directory =>
        dsimp only
        split
        · exact ih _
        · exact ih _
      | _ => exact .inl rfl
    · rw [habsent]
      obtain hnew | hnew := hnew <;> rw [hnew] <;> exact .inr ⟨rfl, .inr rfl⟩

theorem look_gives (h : ∀ t, (files.at? t).Gives (files'.at? t)) (path : String) :
    (files.look path).Gives (files'.look path) := by
  unfold look
  by_cases hempty : path = ""
  · rw [if_pos hempty, if_pos hempty]
    exact .inl rfl
  · rw [if_neg hempty, if_neg hempty]
    obtain hsame | ⟨habsent, hnew⟩ := walk_gives h [] (Path.steps path)
    · rw [hsame]
      exact .inl rfl
    · rw [habsent]
      obtain hnew | hnew := hnew <;> rw [hnew]
      · dsimp only
        split
        · exact .inr ⟨rfl, .inr rfl⟩
        · exact .inr ⟨rfl, .inl rfl⟩
      · exact .inr ⟨rfl, .inr rfl⟩

/-- Looking at files after one was opened for appending. -/
theorem look_openForAppend {log : String} (h : files.openForAppend log = .ok files')
    (path : String) : (files.look path).Gives (files'.look path) :=
  look_gives (at?_openForAppend h) path

/-! ## Tidy paths -/

/-- Where a path leads to a file, so does its shortest form, or it goes on behind a file. -/
theorem look_tidy_ne_absent {path : String} (h : (files.look path).isFile) :
    files.look (Path.tidy path) ≠ .absent := by
  unfold look at h ⊢
  rw [Path.steps_tidy, if_neg (Path.tidy_ne_empty path)]
  split at h
  · cases h
  · cases hwalk : files.walk [] (Path.steps path) with
    | file octets =>
      dsimp only
      split <;> exact nofun
    | _ =>
      rw [hwalk] at h
      cases h

end Files

end CodeMetrics
