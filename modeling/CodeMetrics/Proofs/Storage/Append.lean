import CodeMetrics.Proofs.Storage.Files

/-!
# Adding to files

The text of a file changes only by what is added to it: opening a file keeps the texts of all files
(`text_openForAppend`), and adding octets to one keeps those of all others (`text_append`).  Nothing
else among the files changes (`lookup_openForAppend`, `lookup_append`).
-/

namespace CodeMetrics

namespace Files

variable {files files' : Files} {steps t : List String} {old new octets : List UInt8}
  {path : String}

/-- The octets of the file that some steps lead to; there are none where there is no file. -/
def text (files : Files) (steps : List String) : List UInt8 :=
  match files.at? steps with
  | .file octets => octets
  | _ => []

/-- There is a file under some steps. -/
def HasFile (files : Files) (steps : List String) : Prop := ∃ octets, files.at? steps = .file octets

theorem text_of_at? (h : files.at? steps = .file octets) : files.text steps = octets := by
  unfold text
  rw [h]

/-! ## Opening a file -/

/-- A file can be opened to add to it. -/
def opens (files : Files) (path : String) : Bool := (files.openForAppend path).toOption.isSome

theorem opens_iff : files.opens path ↔ ∃ files', files.openForAppend path = .ok files' := by
  rw [opens, Option.isSome_iff_exists]
  simp only [toOption_eq_some_iff]

/-- A walk that ends in a directory takes each step upwards back as a direct way does. -/
theorem at?_of_walk (place rest : List String) (h : files.walk place rest = .directory) :
    files.at? (Path.follow place rest).reverse = .directory := by
  induction rest generalizing place with
  | nil => exact h
  | cons step rest ih =>
    rw [walk] at h
    rw [Path.follow]
    cases hplace : files.at? place.reverse with
    | directory =>
      simp only [hplace] at h
      by_cases hup : step = Path.upStep
      · rw [if_pos hup] at h ⊢
        exact ih _ h
      · rw [if_neg hup] at h ⊢
        exact ih _ h
    | _ => simp [hplace] at h

/-- A path whose shortest form can be opened does not lead to a directory. -/
theorem look_ne_directory (h : files.opens (Path.tidy path)) : files.look path ≠ .directory := by
  intro hlook
  have hwalk : files.walk [] (Path.steps path) = .directory := by
    unfold look at hlook
    split at hlook
    · cases hlook
    · cases hnode : files.walk [] (Path.steps path) with
      | file octets =>
        simp only [hnode] at hlook
        split at hlook <;> cases hlook
      | directory => rfl
      | _ => simp [hnode] at hlook
  have hat := at?_of_walk [] (Path.steps path) hwalk
  obtain ⟨files', hopen⟩ := opens_iff.1 h
  rw [openForAppend_eq_ok_iff, Path.directSteps, Path.steps_tidy, hat] at hopen
  obtain ⟨⟨octets, hfile⟩, -⟩ | ⟨habsent, -⟩ := hopen
  · cases hfile
  · cases habsent

theorem text_of_gives (h : (files.at? t).Gives (files'.at? t)) : files'.text t = files.text t := by
  unfold text
  obtain hsame | ⟨habsent, hnew | hnew⟩ := h
  · rw [hsame]
  · rw [habsent, hnew]
  · rw [habsent, hnew]

theorem text_openForAppend (h : files.openForAppend path = .ok files') (t : List String) :
    files'.text t = files.text t :=
  text_of_gives (at?_openForAppend h t)

theorem lookup_openForAppend (h : files.openForAppend path = .ok files')
    (ht : t ≠ Path.directSteps path) : files'.lookup t = files.lookup t := by
  obtain ⟨-, rfl⟩ | ⟨-, -, rfl⟩ := openForAppend_eq_ok_iff.1 h
  · rfl
  · rw [lookup_set, if_neg ht]

theorem hasFile_openForAppend (h : files.openForAppend path = .ok files') :
    files'.HasFile (Path.directSteps path) := by
  obtain ⟨hfile, rfl⟩ | ⟨-, -, rfl⟩ := openForAppend_eq_ok_iff.1 h
  · exact hfile
  · exact ⟨[], at?_set_self files _ _⟩

/-! ## Adding to a file -/

theorem mem_of_at? (h : files.at? steps = .file old) : (steps, Node.file old) ∈ files := by
  cases hlookup : files.lookup steps with
  | some node =>
    rw [at?_of_lookup hlookup] at h
    obtain ⟨before, after, rfl, -⟩ := List.lookup_eq_some_iff.1 hlookup
    simp [h]
  | none =>
    rw [at?_of_lookup_none hlookup] at h
    split at h
    · cases h
    · split at h <;> cases h

/-- A test that looks at no text is passed by the same files whatever the text of one of them. -/
theorem any_set_of_file {q : List String × Node → Bool} (h : files.at? steps = .file old)
    (hq : q (steps, .file new) = q (steps, .file old)) :
    (files.set steps (.file new)).any q = files.any q := by
  have only : ∀ node, files.lookup steps = some node → q (steps, node) → q (steps, .file new) := by
    intro node hnode hpass
    rw [at?_of_lookup hnode] at h
    rwa [hq, ← h]
  rw [any_set only, hq]
  cases hold : q (steps, .file old) with
  | false => rw [Bool.or_false]
  | true => rw [Bool.or_true, List.any_eq_true.2 ⟨_, mem_of_at? h, hold⟩]

/-- Another text of a file changes nothing about what is found elsewhere. -/
theorem at?_set_of_file (h : files.at? steps = .file old) (ht : t ≠ steps) :
    (files.set steps (.file new)).at? t = files.at? t := by
  have inner : (files.set steps (.file new)).isInner t = files.isInner t :=
    congrArg (t.all Path.isOutward || ·) (any_set_of_file h rfl)
  have blocked : (files.set steps (.file new)).isBlocked t = files.isBlocked t :=
    any_set_of_file h rfl
  have hlookup := lookup_set files steps t (.file new)
  rw [if_neg ht] at hlookup
  cases hnode : files.lookup t with
  | some node => rw [at?_of_lookup hnode, at?_of_lookup (hlookup.trans hnode)]
  | none =>
    rw [at?_of_lookup_none hnode, at?_of_lookup_none (hlookup.trans hnode), inner, blocked]

theorem at?_append (h : files.at? (Path.directSteps path) = .file old) (octets : List UInt8)
    (t : List String) :
    (files.append path octets).at? t =
      if t = Path.directSteps path then .file (old ++ octets) else files.at? t := by
  unfold append
  simp only [h]
  by_cases ht : t = Path.directSteps path
  · rw [if_pos ht, ht, at?_set_self]
  · rw [if_neg ht, at?_set_of_file h ht]

theorem text_append (h : files.HasFile (Path.directSteps path)) (octets : List UInt8)
    (t : List String) :
    (files.append path octets).text t =
      files.text t ++ if t = Path.directSteps path then octets else [] := by
  obtain ⟨old, hold⟩ := h
  have hat := at?_append hold octets t
  by_cases ht : t = Path.directSteps path
  · rw [if_pos ht] at hat ⊢
    rw [text_of_at? hat, text_of_at? (ht ▸ hold)]
  · rw [if_neg ht] at hat ⊢
    rw [text, hat, List.append_nil, text]

theorem lookup_append (files : Files) (octets : List UInt8) (ht : t ≠ Path.directSteps path) :
    (files.append path octets).lookup t = files.lookup t := by
  unfold append
  dsimp only
  split
  · rw [lookup_set, if_neg ht]
  · rfl

theorem HasFile.append (h : files.HasFile (Path.directSteps path)) (octets : List UInt8) :
    (files.append path octets).HasFile (Path.directSteps path) := by
  obtain ⟨old, hold⟩ := h
  refine ⟨old ++ octets, ?_⟩
  rw [at?_append hold, if_pos rfl]

end Files

end CodeMetrics
