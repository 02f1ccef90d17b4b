import CodeMetrics.Proofs.Json.RoundTrip
import CodeMetrics.Proofs.Record.Reader

/-!
# Records are read back

A record is written as a dictionary that holds all of its fields, so none of the defaults of the
reader comes into play when the dictionary is read again: the record is the same, whatever its
fields hold.  In a file, where the dictionaries are JSON, this is true of fields that are exact
values (`records_read_back`).
-/

namespace CodeMetrics

/-! ## Exact records -/

theorem Subroutine.isExact_toValue (s : Subroutine) :
    Json.isExact s.toValue ↔ ∀ v ∈ s.fields, Json.isExact v := by
  simp [toValue, fields, Json.isExact, Json.isExactIn]

theorem MainCode.isExact_toValue (m : MainCode) :
    Json.isExact m.toValue ↔ ∀ v ∈ m.fields, Json.isExact v := by
  simp [toValue, fields, Json.isExact, Json.isExactIn]

/-- A record is an exact value if its fields are. -/
theorem FileRecord.isExact_toValue {r : FileRecord} (h : ∀ v ∈ r.fields, Json.isExact v) :
    Json.isExact r.toValue := by
  simp only [fields, List.forall_mem_append, List.forall_mem_flatMap] at h
  obtain ⟨⟨⟨hown, hpackages⟩, hsubs⟩, hmain⟩ := h
  have hpath : Json.isExact r.path := hown _ (by simp)
  have hlines : Json.isExact r.lines := hown _ (by simp)
  have packages : Json.isExactOf r.packages := Json.isExactOf_iff.2 hpackages
  have subs : Json.isExactOf (r.subs.map Subroutine.toValue) := by
    rw [Json.isExactOf_iff, List.forall_mem_map]
    exact fun s hs => s.isExact_toValue.2 (hsubs s hs)
  have main : Json.isExact r.main.toValue := r.main.isExact_toValue.2 hmain
  simp [toValue, Json.isExact, Json.isExactIn, hpath, hlines, packages, subs, main]

/-! ## Reading what was written -/

theorem Subroutine.ofValue_toValue (s : Subroutine) : ofValue s.toValue = .ok s := rfl

/-- The path that main code without a path of its own would have does not matter. -/
theorem MainCode.ofValue_toValue (path : Value) (m : MainCode) : ofValue path m.toValue = .ok m :=
  rfl

/-- No default of the reader replaces a field of a record that was written. -/
theorem FileRecord.ofValue_toValue (r : FileRecord) : ofValue r.toValue = .ok r := by
  have hsubs : (r.subs.map Subroutine.toValue).mapM Subroutine.ofValue = .ok r.subs :=
    mapM_map_eq_ok fun s _ => s.ofValue_toValue
  have hmain := MainCode.ofValue_toValue r.path r.main
  show (do
    let subs ← (r.subs.map Subroutine.toValue).mapM Subroutine.ofValue
    let main ← MainCode.ofValue r.path r.main.toValue
    .ok ⟨r.path, r.lines, r.packages, subs, main⟩ : Except ShapeFault FileRecord) = .ok r
  rw [hsubs, hmain]
  rfl

theorem readRecordsFrom_toValue (index : Nat) (rs : List FileRecord) :
    readRecordsFrom index (rs.map FileRecord.toValue) = .ok rs := by
  induction rs generalizing index with
  | nil => rfl
  | cons r rest ih =>
    rw [List.map_cons, readRecordsFrom, r.ofValue_toValue]
    show (r :: ·) <$> readRecordsFrom (index + 1) (rest.map FileRecord.toValue) = _
    rw [ih (index + 1)]
    rfl

/-- A file that holds the written form of an exact value holds the value. -/
theorem decodeDocument_text {v : Value} (h : Json.isExact v) (path : String) :
    decodeDocument path (String.ofList (Json.text v)).toUTF8.data.toList = .ok v := by
  obtain ⟨hdecode, hunify⟩ := decodeUtf8_plain (Json.plain_text v)
  have hread : Json.read (unifyLineEnds (Json.text v)) = .ok v := by
    rw [hunify]
    exact Json.read_text h
  simp only [decodeDocument, hdecode, hread]

/-- Records whose fields are exact values can be written as JSON, and a file with this text is read
as the same records in the same order.  And a record that was read from any value at all is read
once more, unchanged, from its dictionary.  The texts in these values are made of whole characters:
lone halves of them, which an escape can name, are not among them (`Json.ofUnit`). -/
theorem records_read_back :
    (∀ rs : List FileRecord, (∀ r ∈ rs, ∀ v ∈ r.fields, Json.isExact v) →
      ∃ s, Json.write (.list (rs.map FileRecord.toValue)) = .ok s ∧
        ∀ path, loadRecords path (.file (String.ofList s).toUTF8.data.toList) = .ok rs) ∧
      ∀ (d : Value) (r : FileRecord), FileRecord.ofValue d = .ok r →
        FileRecord.ofValue r.toValue = .ok r := by
  refine ⟨fun rs exact => ?_, fun _ r _ => r.ofValue_toValue⟩
  have hlist : Json.isExact (.list (rs.map FileRecord.toValue)) := by
    rw [Json.isExact, Json.isExactOf_iff, List.forall_mem_map]
    exact fun r hr => FileRecord.isExact_toValue (exact r hr)
  refine ⟨Json.text (.list (rs.map FileRecord.toValue)), ?_, fun path => ?_⟩
  · rw [Json.write, Json.unwritable?_of_isExact _ hlist]
  · have hdocument := decodeDocument_text hlist path
    have hrecords : readRecords (.list (rs.map FileRecord.toValue)) = .ok rs :=
      readRecordsFrom_toValue 0 rs
    refine bind_eq_ok_iff.2 ⟨_, hdocument, ?_⟩
    exact mapError_eq_ok_iff.2 hrecords

/-- A record without a path and with repeated packages, whose other fields are of all kinds. -/
def oddRecord : FileRecord :=
  ⟨.text "", .null, [.text "é\n", .text "é\n", .list [.bool false]],
    [⟨.text "😀 \"f\"", .dict [("", .list []), ("\\", .int (-7))], .null, .int 0, .bool true⟩],
    ⟨.dict [], .text "\u2028", .text "custom"⟩⟩

theorem records_read_back_odd :
    (∀ r ∈ [oddRecord, oddRecord], ∀ v ∈ r.fields, Json.isExact v) ∧
      (∃ s, Json.write (.list ([oddRecord, oddRecord].map FileRecord.toValue)) = .ok s ∧
        ∀ path, loadRecords path (.file (String.ofList s).toUTF8.data.toList) =
          .ok [oddRecord, oddRecord]) ∧
      ∃ r, FileRecord.ofValue (.dict [("path", .text ""), ("lines", .null)]) = .ok r ∧
        FileRecord.ofValue r.toValue = .ok r := by
  have exact : ∀ r ∈ [oddRecord, oddRecord], ∀ v ∈ r.fields, Json.isExact v := by decide +kernel
  have hread : FileRecord.ofValue (.dict [("path", .text ""), ("lines", .null)]) =
      .ok ⟨.text "", .null, [], [], ⟨.int 0, .text "", .text MainCode.standardName⟩⟩ := rfl
  exact ⟨exact, records_read_back.1 _ exact, _, hread, records_read_back.2 _ _ hread⟩

end CodeMetrics
