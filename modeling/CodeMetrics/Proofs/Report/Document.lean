import CodeMetrics.Proofs.Json.RoundTrip
import CodeMetrics.Proofs.Report.Session

/-!
# Reading the written document

A document is written as one line of ASCII.  Its texts may be any: whoever reads the line as JSON
has the document back, value for value, if that is true of the line number of each finding
(`written_document_reads_back`).
-/

namespace CodeMetrics

namespace Sarif

theorem isExact_finding (f : Finding) : Json.isExact f.toValue = Json.isExact f.line := by
  simp [Json.unwritable_pos, Finding.toValue, Json.isExact, Json.isExactIn, Json.isExactOf]

/-- All parts of a document but the line numbers are exact. -/
theorem isExact_document {findings : List Finding} (h : ∀ f ∈ findings, Json.isExact f.line) :
    Json.isExact (document findings) := by
  have results : Json.isExactOf (findings.map Finding.toValue) := by
    rw [Json.isExactOf_iff, List.forall_mem_map]
    intro f hf
    rw [isExact_finding]
    exact h f hf
  simp [document, tool, Json.isExact, Json.isExactIn, Json.isExactOf, results]

theorem read_text {findings : List Finding} (h : ∀ f ∈ findings, Json.isExact f.line)
    {gap : List Char} (hgap : ∀ c ∈ gap, Json.isGap c) :
    Json.read ((text findings).toList ++ gap) = .ok (document findings) := by
  rw [text, String.toList_ofList]
  exact Json.read_text_append (isExact_document h) hgap

end Sarif

/-- Writing the document and looking at it are no events of its history. -/
theorem Settings.held_append_writeDocument (c : Settings) (steps : List Step) :
    c.held (steps ++ [.writeDocument]) = c.held steps := by
  have hevents : c.events .writeDocument = [] := rfl
  unfold held
  rw [List.flatMap_append, List.flatMap_singleton, hevents, List.append_nil]

/-- Take any steps of a session after which the line number of each result is an exact value; the
names, paths and complexities that were recorded may be any values.  To write the document then
writes one line, all of it visible characters of ASCII and blanks, and this line, with its end or
without, is JSON for the value that is given when the document is serialized.  Texts are made of
whole characters, without the lone halves that an escape can name (`Json.ofUnit`). -/
theorem written_document_reads_back (c : Settings) (steps : List Step)
    (exact : ∀ f ∈ c.held steps, Json.isExact f.line) :
    ∃ (line : String) (document : Value),
      let outcomes := c.performAll [] (steps ++ [.writeDocument, .serialize])
      outcomes[steps.length]? = some ⟨[line], [], c.held steps, none, none⟩ ∧
        outcomes[steps.length + 1]? = some (.answered (c.held steps) document) ∧
        (∀ ch ∈ line.toList, 0x20 ≤ ch.toNat ∧ ch.toNat < 0x7f) ∧
        Json.read line.toList = .ok document ∧
        Json.read (line ++ "\n").toList = .ok document := by
  have writable : ∀ f ∈ c.held steps, Json.unwritable? f.line = none :=
    fun f hf => Json.unwritable?_of_isExact f.line (exact f hf)
  have written := performAll_getElem? c [] steps [.serialize] .writeDocument
  have serialized := performAll_getElem? c [] (steps ++ [.writeDocument]) [] .serialize
  have hheld := c.held_append_writeDocument steps
  rw [List.append_assoc, List.length_append] at serialized
  unfold Settings.held at hheld
  rw [List.nil_append] at written serialized
  rw [hheld] at serialized
  have hrun := writeDocument_of_writable writable
  have hcopy : c.perform .serialize (c.held steps) =
      .answered (c.held steps) (Sarif.document (c.held steps)) :=
    (perform_serialize c _).trans (if_pos fun f hf => Json.copiable_of_isExact f.line (exact f hf))
  refine ⟨Sarif.text (c.held steps), Sarif.document (c.held steps), ?_, serialized.trans (congrArg some hcopy), ?_, ?_, ?_⟩
  · refine written.trans ?_
    show some (Outcome.ofRun [] (writeDocument (c.held steps))) = _
    rw [hrun]
    rfl
  · intro ch hch
    rw [Sarif.text, String.toList_ofList] at hch
    have := Json.plain_text _ ch hch
    omega
  · have hread := Sarif.read_text exact (List.forall_mem_nil _)
    rwa [List.append_nil] at hread
  · have hend : ∀ ch ∈ ['\n'], Json.isGap ch := List.forall_mem_singleton.2 rfl
    rw [String.toList_append]
    exact Sarif.read_text exact hend

/-- Recordings of a subroutine whose name needs every kind of escape and whose line number is a
nested value, and of one whose other fields are no texts at all. -/
def awkwardSteps : List Step :=
  [.record (.dict [("name", .text "say \"hi\"\\ \n\t\x07\u2028é😀"), ("path", .text "lib/\u00a0.pm"),
      ("line_number", .dict [("from", .list [.int (-3), .null]), ("\n", .dict []),
        ("to", .list [.bool true, .text "😀"])]),
      ("lines", .null), ("mccabe_complexity", .float .nan)]),
    .record (.dict [("name", .set [.int 1]), ("path", .bytes [0xff]), ("line_number", .int 0),
      ("lines", .list []), ("mccabe_complexity", .tuple [.null])])]

theorem written_document_reads_back_sample :
    (∀ f ∈ Settings.standard.held awkwardSteps, Json.isExact f.line) ∧
      (Settings.standard.held awkwardSteps).length = 2 ∧
      ∃ (line : String) (document : Value),
        let outcomes := Settings.standard.performAll [] (awkwardSteps ++ [.writeDocument, .serialize])
        outcomes[2]?.map Outcome.lines = some [line] ∧
          outcomes[3]?.map Outcome.answer = some (some document) ∧
          Json.read line.toList = .ok document := by
  have exact : ∀ f ∈ Settings.standard.held awkwardSteps, Json.isExact f.line := by decide +kernel
  obtain ⟨line, document, written, serialized, -, reads, -⟩ :=
    written_document_reads_back .standard awkwardSteps exact
  have hwritten := congrArg (Option.map Outcome.lines) written
  have hserialized := congrArg (Option.map Outcome.answer) serialized
  exact ⟨exact, by decide +kernel, line, document, hwritten, hserialized, reads⟩

end CodeMetrics
