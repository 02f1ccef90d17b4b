import CodeMetrics.Journal.Basic
import CodeMetrics.Proofs.Storage.Append

/-!
# Setting the journal up and adding to it

A journal that was set up sends entries to the terminal and at most to one file, which is there
(`setup_eq_ok_iff`, `ready_of_setup`).  Setting it up changes no text, and an entry is written as one
line to its file and to no other (`text_write`).  Nothing but that file changes (`lookup_of_setup`,
`lookup_addAll`).
-/

namespace CodeMetrics

namespace Journal

variable {verbose quiet : Bool} {path : String} {j : Journal} {files files' : Files}
  {t : List String}

/-! ## Setting up -/

/-- The journal that a set-up asks for. -/
def asked (verbose quiet : Bool) (path : String) : Journal :=
  ⟨levelFor verbose quiet, .terminal :: if path = "" then [] else [.file path]⟩

theorem setup_eq_ok_iff :
    setup verbose quiet path files = .ok (j, files') ↔ j = asked verbose quiet path ∧
      if path = "" then files' = files else files.openForAppend path = .ok files' := by
  unfold setup asked
  by_cases h : path = ""
  · simp only [if_pos h, Except.ok.injEq, Prod.mk.injEq, eq_comm]
  · simp only [if_neg h, bind_eq_ok_iff, Except.ok.injEq, Prod.mk.injEq]
    constructor
    · rintro ⟨opened, hopen, rfl, rfl⟩
      exact ⟨rfl, hopen⟩
    · rintro ⟨rfl, hopen⟩
      exact ⟨files', hopen, rfl, rfl⟩

/-- A set-up succeeds if it names no file or one that can be opened. -/
theorem setup_of_opens (verbose quiet : Bool) (h : path = "" ∨ files.opens path) :
    ∃ files', setup verbose quiet path files = .ok (asked verbose quiet path, files') := by
  simp only [setup_eq_ok_iff, true_and]
  by_cases hempty : path = ""
  · simp [hempty]
  · simpa [hempty, Files.opens_iff] using h

/-- A set-up fails if its file cannot be opened. -/
theorem setup_of_not_opens (verbose quiet : Bool) (h : ¬ (path = "" ∨ files.opens path)) :
    ∃ f, setup verbose quiet path files = .error f := by
  obtain ⟨hempty, hclosed⟩ := not_or.1 h
  cases hsetup : setup verbose quiet path files with
  | error f => exact ⟨f, rfl⟩
  | ok opened =>
    obtain ⟨-, hopen⟩ := setup_eq_ok_iff.1 hsetup
    rw [if_neg hempty] at hopen
    exact absurd (Files.opens_iff.2 ⟨_, hopen⟩) hclosed

theorem text_of_setup (h : setup verbose quiet path files = .ok (j, files')) (t : List String) :
    files'.text t = files.text t := by
  obtain ⟨-, hfiles⟩ := setup_eq_ok_iff.1 h
  split at hfiles
  · rw [hfiles]
  · exact Files.text_openForAppend hfiles t

theorem lookup_of_setup (h : setup verbose quiet path files = .ok (j, files'))
    (ht : path = "" ∨ t ≠ Path.directSteps path) : files'.lookup t = files.lookup t := by
  obtain ⟨-, hfiles⟩ := setup_eq_ok_iff.1 h
  split at hfiles
  · rw [hfiles]
  · next hpath => exact Files.lookup_openForAppend hfiles (ht.resolve_left hpath)

theorem paths_asked : (asked verbose quiet path).paths = if path = "" then [] else [path] := by
  unfold asked paths
  split <;> rfl

/-- The journal sends entries to the file under some steps. -/
def writesTo (j : Journal) (t : List String) : Bool :=
  j.paths.any fun path => Path.directSteps path = t

theorem writesTo_asked (ht : path = "" ∨ t ≠ Path.directSteps path) :
    (asked verbose quiet path).writesTo t = false := by
  unfold writesTo
  rw [paths_asked]
  split
  · rfl
  · next hpath => simpa [eq_comm] using ht.resolve_left hpath

/-- The journal sends entries to no file, or to one that is there. -/
def Ready (j : Journal) (files : Files) : Prop :=
  j.paths = [] ∨ ∃ path, j.paths = [path] ∧ files.HasFile (Path.directSteps path)

theorem ready_initial (files : Files) : initial.Ready files := .inl rfl

theorem ready_of_setup (h : setup verbose quiet path files = .ok (j, files')) :
    j.Ready files' := by
  obtain ⟨rfl, hfiles⟩ := setup_eq_ok_iff.1 h
  unfold Ready
  rw [paths_asked]
  by_cases hempty : path = ""
  · exact .inl (if_pos hempty)
  · rw [if_neg hempty] at hfiles
    exact .inr ⟨path, if_neg hempty, Files.hasFile_openForAppend hfiles⟩

/-! ## Writing entries -/

/-- The octets of a line. -/
def octetsOf (line : String) : List UInt8 := line.toUTF8.toList

theorem ready_write (stamp : String) (h : j.Ready files) (e : LogEntry) :
    j.Ready (j.write stamp files e) := by
  obtain hnone | ⟨path, hpath, hfile⟩ := h
  · exact .inl hnone
  · refine .inr ⟨path, hpath, ?_⟩
    simpa [write, hpath, octetsOf] using hfile.append (octetsOf (e.line stamp))

/-- An entry is written as one line to the file of the journal, and to no other. -/
theorem text_write (stamp : String) (h : j.Ready files) (e : LogEntry) (t : List String) :
    (j.write stamp files e).text t =
      files.text t ++ if j.writesTo t then octetsOf (e.line stamp) else [] := by
  obtain hnone | ⟨path, hpath, hfile⟩ := h
  · simp [write, hnone, writesTo]
  · have happend := Files.text_append hfile (octetsOf (e.line stamp)) t
    simpa [write, hpath, writesTo, eq_comm, octetsOf] using happend

theorem lookup_write (stamp : String) (h : j.writesTo t = false) (files : Files) (e : LogEntry) :
    (j.write stamp files e).lookup t = files.lookup t := by
  unfold write
  apply List.foldlRecOn (motive := fun files' : Files => files'.lookup t = files.lookup t)
  · rfl
  · intro files' same path hpath
    have other : t ≠ Path.directSteps path := fun ht => by
      have := List.any_eq_false.1 h path hpath
      simp [ht] at this
    rw [Files.lookup_append files' _ other, same]

theorem lookup_add (stamp : String) (h : j.writesTo t = false) (files : Files) (e : LogEntry) :
    (j.add stamp files e).lookup t = files.lookup t := by
  unfold add
  split
  · exact lookup_write stamp h files e
  · rfl

/-- Entries leave everything as it was but the file of the journal. -/
theorem lookup_addAll (stamp : String) (h : j.writesTo t = false) (files : Files)
    (es : List LogEntry) : (j.addAll stamp files es).lookup t = files.lookup t := by
  induction es generalizing files with
  | nil => rfl
  | cons e es ih => exact (ih (j.add stamp files e)).trans (lookup_add stamp h files e)

end Journal

end CodeMetrics
