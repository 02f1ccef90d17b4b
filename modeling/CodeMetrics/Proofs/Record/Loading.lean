import CodeMetrics.Proofs.Json.LongNumber
import CodeMetrics.Proofs.Text.Utf8
import CodeMetrics.Record.File

/-!
# What loading records ends with

Whatever is found under the path of a file of records, loading it gives the records of its document
or ends with a fault of the input, except that a whole number of too many digits is a breakdown
(`loadRecords_outcome`).
-/

namespace CodeMetrics

/-- The file holds this text: its octets are the encoding of the text before its line ends were
unified. -/
def Node.HasText (node : Node) (s : List Char) : Prop :=
  ∃ t : List Char, node.contents = .ok (t.flatMap String.utf8EncodeChar) ∧ s = unifyLineEnds t

/-! ## Faults of the input -/

theorem ShapeFault.kind_toFault (f : ShapeFault) (item : Value) (index : Nat) :
    (f.toFault item index).kind = .input := by
  cases f <;> rfl

theorem kind_of_readRecordsFrom {index : Nat} {items : List Value} {f : Fault}
    (h : readRecordsFrom index items = .error f) : f.kind = .input := by
  induction items generalizing index with
  | nil => cases h
  | cons item rest ih =>
    rw [readRecordsFrom] at h
    split at h
    · obtain rfl := Except.error.inj h
      exact ShapeFault.kind_toFault _ _ _
    · rw [← errorOf?_eq_some_iff, errorOf?_map, errorOf?_eq_some_iff] at h
      exact ih h

theorem kind_of_readRecords {v : Value} {f : Fault} (h : readRecords v = .error f) :
    f.kind = .input := by
  unfold readRecords at h
  split at h
  · exact kind_of_readRecordsFrom h
  · obtain rfl := Except.error.inj h
    rfl

/-! ## Loading -/

variable {node : Node}

/-- A file without a text is a fault of the input. -/
theorem loadRecords_of_no_text (path : String) (h : ¬ ∃ s, node.HasText s) :
    ∃ reason, loadRecords path node = .error (inputFault reason) := by
  unfold loadRecords decodeDocument
  cases hcontents : node.contents with
  | error f => exact ⟨_, rfl⟩
  | ok octets =>
    cases hs : decodeUtf8 octets with
    | error f => exact ⟨path ++ " is not UTF-8 text: " ++ f.message, by simp only [hs]; rfl⟩
    | ok t =>
      rw [decodeUtf8_eq_ok_iff.1 hs] at hcontents
      exact absurd ⟨_, t, hcontents, rfl⟩ h

/-- A text is read as a document, and the records from its value. -/
theorem loadRecords_of_text (path : String) {s : List Char} (h : node.HasText s) :
    loadRecords path node =
      match Json.read s with
      | .ok v => (readRecords v).mapError .fault
      | .error f => .error (if f.complaint = .longNumber then .breakdown .badValue
        else inputFault (path ++ " is not valid JSON: " ++ f.message)) := by
  obtain ⟨t, hcontents, rfl⟩ := h
  have hdecode : decodeUtf8 (t.flatMap String.utf8EncodeChar) = .ok t :=
    decodeUtf8_eq_ok_iff.2 rfl
  unfold loadRecords decodeDocument
  rw [hcontents]
  simp only [hdecode]
  rcases Json.read (unifyLineEnds t) with f | v
  · dsimp only
    split <;> rfl
  · rfl

/-- Loading records gives a list exactly when the file holds a document whose value is a list of
records.  Everything else is a fault of the input, a file that cannot be read or is no UTF-8 and a
document that cannot be read among them.  The one exception is a document that can be read up to a
whole number of too many digits, which then stands in the text.  In the values that are loaded an
escaped half of a character is U+FFFD, as in all texts that are read (`Json.ofUnit`). -/
theorem loadRecords_outcome (path : String) (node : Node) :
    (∀ rs, loadRecords path node = .ok rs ↔ ∃ s v, node.HasText s ∧
        Json.read s = .ok v ∧ readRecords v = .ok rs) ∧
      (∀ e, loadRecords path node = .error e →
        (∃ f, e = .fault f ∧ f.kind = .input) ∨
          (e = .breakdown .badValue ∧ ∃ s f, node.HasText s ∧
            Json.read s = .error f ∧ f.complaint = .longNumber ∧
            ∃ t, s = f.before ++ t ∧ Json.IsLong t)) ∧
      ((¬ ∃ s, node.HasText s) → ∃ reason, loadRecords path node = .error (inputFault reason)) ∧
      ∀ s f, node.HasText s → Json.read s = .error f →
        loadRecords path node = .error (if f.complaint = .longNumber then .breakdown .badValue
          else inputFault (path ++ " is not valid JSON: " ++ f.message)) := by
  refine ⟨fun rs => ⟨fun h => ?_, ?_⟩, fun e he => ?_, loadRecords_of_no_text path, ?_⟩
  · by_cases htext : ∃ s, node.HasText s
    · obtain ⟨s, hs⟩ := htext
      rw [loadRecords_of_text path hs] at h
      cases hread : Json.read s with
      | error f =>
        rw [hread] at h
        cases h
      | ok v =>
        rw [hread] at h
        exact ⟨s, v, hs, hread, mapError_eq_ok_iff.1 h⟩
    · obtain ⟨reason, hload⟩ := loadRecords_of_no_text path htext
      rw [hload] at h
      cases h
  · rintro ⟨s, v, hs, hread, hrs⟩
    rw [loadRecords_of_text path hs, hread]
    exact mapError_eq_ok_iff.2 hrs
  · by_cases htext : ∃ s, node.HasText s
    · obtain ⟨s, hs⟩ := htext
      rw [loadRecords_of_text path hs] at he
      cases hread : Json.read s with
      | error f =>
        rw [hread] at he
        obtain rfl := Except.error.inj he
        by_cases hf : f.complaint = .longNumber
        · rw [if_pos hf]
          exact .inr ⟨rfl, s, f, hs, hread, hf, Json.isLong_of_read hread hf⟩
        · rw [if_neg hf]
          exact .inl ⟨_, rfl, rfl⟩
      | ok v =>
        rw [hread] at he
        dsimp only at he
        rw [← errorOf?_eq_some_iff, errorOf?_mapError] at he
        obtain ⟨f, hf, rfl⟩ := Option.map_eq_some_iff.1 he
        exact .inl ⟨f, rfl, kind_of_readRecords (errorOf?_eq_some_iff.1 hf)⟩
    · obtain ⟨reason, hload⟩ := loadRecords_of_no_text path htext
      rw [hload] at he
      exact .inl ⟨_, (Except.error.inj he).symm, rfl⟩
  · intro s f hs hread
    rw [loadRecords_of_text path hs, hread]

/-- A file of records that is an array of one whole number with too many ones. -/
theorem loadRecords_ones {n : Nat} (hn : Json.digitLimit ≤ n) (path : String) :
    loadRecords path (.file (String.ofList ('[' :: Json.onesItem n)).toUTF8.data.toList) =
      .error (.breakdown .badValue) := by
  have hplain : Json.Plain ('[' :: Json.onesItem n) := by
    have hone : Json.Plain (List.replicate n '1') := Json.plain_replicate (by decide) n
    exact .cons (by decide) (.cons (by decide) (hone.append (by decide)))
  obtain ⟨hdecode, hunify⟩ := decodeUtf8_plain hplain
  obtain ⟨f, hread, hf⟩ := Json.read_ones hn
  have htext : (Node.file (String.ofList ('[' :: Json.onesItem n)).toUTF8.data.toList).HasText
      ('[' :: Json.onesItem n) :=
    ⟨_, congrArg Except.ok (decodeUtf8_eq_ok_iff.1 hdecode), hunify.symm⟩
  rw [loadRecords_of_text path htext, hread]
  dsimp only
  rw [if_pos hf]

theorem loadRecords_long_number :
    loadRecords "records.json"
        (.file (String.ofList ('[' :: Json.onesItem 4300)).toUTF8.data.toList) =
      .error (.breakdown .badValue) :=
  loadRecords_ones (by decide) "records.json"

end CodeMetrics
