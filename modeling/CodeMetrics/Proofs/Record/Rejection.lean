import CodeMetrics.Corpus.Analysis
import CodeMetrics.Proofs.Record.Shape

/-!
# What a rejection says

Input that is rejected for its shape is named by its kind, and a record by its place besides; the text
of the fault shows the same details in the same order (`rejection_shown`).  What is wrong may be the
record itself, one of its lists, a subroutine or its main code (`ShapeFault.LiesIn`), but it is always
the record that is named.  A fault cannot tell nothing at all from no value, so nothing at all is never
named (`nothing_unnamed`).
-/

namespace CodeMetrics

/-! ## Where a shape is wrong -/

/-- Where a value of the wrong shape stands: it is the item itself, one of its two lists, one of its
subroutines or its main code. -/
inductive ShapeFault.LiesIn (item : Value) : ShapeFault → Prop
  | record (h : item.isDict = false) : LiesIn item (.noEntries item)
  | list {key : String} {w : Value} (hkey : key ∈ ["packages", "subs"])
    (hw : item.valueAt? key = some w) (h : w.items? = none) : LiesIn item (.notList key w)
  | sub {subs : List Value} {v : Value} (hsubs : item.itemsAt? "subs" = some subs) (hv : v ∈ subs)
    (h : v.isDict = false) : LiesIn item (.noEntries v)
  | main {w : Value} (hw : item.valueAt? "main_stats" = some w) (h : w.isMain = false) :
    LiesIn item (.noOptionalEntries w)

section

variable {v : Value} {key : String} {f : ShapeFault}

theorem of_requireKey_eq_error (h : requireKey v key = .error f) :
    f = .missingKey key ∨ v.isDict = false ∧ f = .noEntries v := by
  cases v with
  | dict entries =>
    unfold requireKey at h
    split at h
    · next hv =>
      split at h
      · cases h
      · exact .inl (Except.error.inj h).symm
    · next hv => exact absurd rfl (hv entries)
  | _ => exact .inr ⟨rfl, (Except.error.inj h).symm⟩

theorem of_optionalKey_eq_error (h : optionalKey v key = .error f) :
    v.isDict = false ∧ f = .noOptionalEntries v := by
  cases v with
  | dict entries => cases h
  | _ => exact ⟨rfl, (Except.error.inj h).symm⟩

theorem of_listAt_eq_error (hv : v.isDict) (h : listAt v key = .error f) :
    ∃ w, v.valueAt? key = some w ∧ w.items? = none ∧ f = .notList key w := by
  obtain h | ⟨w?, hw, h⟩ := bind_eq_error_iff.1 h
  · rw [(of_optionalKey_eq_error h).1] at hv
    cases hv
  · obtain ⟨-, rfl⟩ := optionalKey_eq_ok_iff.1 hw
    split at h
    · cases h
    · cases h
    · cases h
    · next w hlist htuple hfound =>
      refine ⟨w, hfound, ?_, (Except.error.inj h).symm⟩
      cases w with
      | list items => exact absurd rfl (hlist items)
      | tuple items => exact absurd rfl (htuple items)
      | _ => rfl

theorem Subroutine.of_ofValue_eq_error (h : Subroutine.ofValue v = .error f) :
    (∃ key, f = .missingKey key) ∨ v.isDict = false ∧ f = .noEntries v := by
  have hkey : ∃ key, requireKey v key = .error f := by
    unfold Subroutine.ofValue at h
    obtain h | ⟨_, -, h⟩ := bind_eq_error_iff.1 h
    · exact ⟨_, h⟩
    obtain h | ⟨_, -, h⟩ := bind_eq_error_iff.1 h
    · exact ⟨_, h⟩
    obtain h | ⟨_, -, h⟩ := bind_eq_error_iff.1 h
    · exact ⟨_, h⟩
    obtain h | ⟨_, -, h⟩ := bind_eq_error_iff.1 h
    · exact ⟨_, h⟩
    obtain h | ⟨_, -, h⟩ := bind_eq_error_iff.1 h
    · exact ⟨_, h⟩
    cases h
  obtain ⟨key, hkey⟩ := hkey
  exact (of_requireKey_eq_error hkey).imp (fun h => ⟨key, h⟩) id

theorem MainCode.of_ofValue_eq_error {path : Value} (h : MainCode.ofValue path v = .error f) :
    v.isMain = false ∧ f = .noOptionalEntries v := by
  have hkey : ∃ key, optionalKey (if v.truthy then v else .dict []) key = .error f := by
    unfold MainCode.ofValue at h
    obtain h | ⟨_, -, h⟩ := bind_eq_error_iff.1 h
    · exact ⟨_, h⟩
    obtain h | ⟨_, -, h⟩ := bind_eq_error_iff.1 h
    · exact ⟨_, h⟩
    obtain h | ⟨_, -, h⟩ := bind_eq_error_iff.1 h
    · exact ⟨_, h⟩
    cases h
  obtain ⟨key, hkey⟩ := hkey
  obtain ⟨hdict, hf⟩ := of_optionalKey_eq_error hkey
  split at hdict
  · next htrue =>
    rw [if_pos htrue] at hf
    refine ⟨?_, hf⟩
    rw [Value.isMain, hdict, htrue]
    rfl
  · cases hdict

/-- Whatever is wrong with an item, a key is missing or a value within it has the wrong shape. -/
theorem FileRecord.of_ofValue_eq_error (h : FileRecord.ofValue v = .error f) :
    (∃ key, f = .missingKey key) ∨ f.LiesIn v := by
  unfold FileRecord.ofValue at h
  obtain h | ⟨path, hpath, h⟩ := bind_eq_error_iff.1 h
  · obtain rfl | ⟨hv, rfl⟩ := of_requireKey_eq_error h
    · exact .inl ⟨_, rfl⟩
    · exact .inr (.record hv)
  have hdict : v.isDict := isDict_of_valueAt? (requireKey_eq_ok_iff.1 hpath).1
  obtain h | ⟨main?, hmain, h⟩ := bind_eq_error_iff.1 h
  · rw [(of_optionalKey_eq_error h).1] at hdict
    cases hdict
  obtain ⟨-, rfl⟩ := optionalKey_eq_ok_iff.1 hmain
  obtain h | ⟨lines, -, h⟩ := bind_eq_error_iff.1 h
  · obtain rfl | ⟨hv, rfl⟩ := of_requireKey_eq_error h
    · exact .inl ⟨_, rfl⟩
    · exact .inr (.record hv)
  obtain h | ⟨packages, -, h⟩ := bind_eq_error_iff.1 h
  · obtain ⟨w, hw, hitems, rfl⟩ := of_listAt_eq_error hdict h
    exact .inr (.list (by simp) hw hitems)
  obtain h | ⟨items, hsubs, h⟩ := bind_eq_error_iff.1 h
  · obtain ⟨w, hw, hitems, rfl⟩ := of_listAt_eq_error hdict h
    exact .inr (.list (by simp) hw hitems)
  obtain h | ⟨subs, -, h⟩ := bind_eq_error_iff.1 h
  · obtain ⟨sub, hsub, h⟩ := exists_of_mapM_eq_error h
    obtain hkey | ⟨hv, rfl⟩ := Subroutine.of_ofValue_eq_error h
    · exact .inl hkey
    · exact .inr (.sub (listAt_eq_ok_iff.1 hsubs).2 hsub hv)
  obtain h | ⟨main, -, h⟩ := bind_eq_error_iff.1 h
  · obtain ⟨hv, rfl⟩ := MainCode.of_ofValue_eq_error h
    rcases hw : v.valueAt? "main_stats" with _ | w
    · rw [hw] at hv
      cases hv
    · rw [hw] at hv
      exact .inr (.main hw hv)
  · cases h

end

/-! ## What is shown -/

/-- The detail that names the kind of what was received.  Nothing at all is not named. -/
def Value.receivedDetail : Value → List (String × String)
  | .null => []
  | v => [("received", v.kindName)]

/-- The fault has the given details, and its text shows exactly these in the same order. -/
structure Fault.Shows (f : Fault) (pairs : List (String × String)) : Prop where
  details : f.details = pairs
  text : f.text = "Invalid metric records (" ++
    ", ".intercalate (pairs.map fun (key, value) => key ++ "=" ++ value) ++ ")"

theorem shows_details (reason : String) (received index : Value) :
    (Fault.input reason received index).Shows (Fault.input reason received index).details := by
  refine ⟨rfl, ?_⟩
  unfold Fault.text
  split
  · next h => cases h
  · rfl

theorem shows_received (reason : String) (v : Value) :
    (Fault.input reason v .null).Shows ([("reason", reason)] ++ v.receivedDetail) := by
  have h := shows_details reason v .null
  cases v <;> exact h

theorem shows_place (reason : String) (index : Nat) :
    (Fault.input reason .null (.int index)).Shows
      [("reason", reason), ("index", toString index)] :=
  shows_details reason .null (.int index)

theorem shows_received_place (reason : String) (v : Value) (index : Nat) :
    (Fault.input reason v (.int index)).Shows
      ([("reason", reason)] ++ v.receivedDetail ++ [("index", toString index)]) := by
  have h := shows_details reason v (.int index)
  cases v <;> exact h

theorem ShapeFault.LiesIn.toFault_eq {item v : Value} {f : ShapeFault} (h : f.LiesIn item)
    (index : Nat) : f.toFault v index = .input f.reason v (.int index) := by
  cases h <;> rfl

/-! ## Rejections -/

/-- Let a value be read as records, analysed as it is, and stand in a list of records behind others
that are some.  What is no list is rejected with its kind, and so is what is no ordered sequence.  What
is no record is rejected with its kind and its place if something in it has the wrong shape, wherever
that is, and with its place alone if a key is missing.  The text of the fault shows the same details in
the same order.  Nothing at all, and nothing else, has no kind there. -/
theorem rejection_shown (v : Value) (before later : List Value) :
    ((∀ items, v ≠ .list items) → ∃ fault, readRecords v = .error fault ∧
      fault.Shows ([("reason", "expected a JSON array of file records")] ++ v.receivedDetail)) ∧
    (v.isSequence = false → ∃ fault, analyzeValue v = .error (.fault fault) ∧
      fault.Shows ([("reason", "did not supply an ordered sequence of file records")] ++
        v.receivedDetail)) ∧
    ((∀ w ∈ before, w.isRecord) → v.isRecord = false →
      ∃ f fault, FileRecord.ofValue v = .error f ∧
        readRecords (.list (before ++ v :: later)) = .error fault ∧
        ((∃ key, f = .missingKey key) ∧
            fault.Shows [("reason", f.reason), ("index", toString before.length)] ∨
          f.LiesIn v ∧ fault.Shows ([("reason", f.reason)] ++ v.receivedDetail ++
            [("index", toString before.length)]))) ∧
    (v.receivedDetail = [("received", v.kindName)] ↔ v ≠ .null) := by
  refine ⟨fun hlist => ?_, fun hsequence => ?_, fun hbefore hrecord => ?_, ?_⟩
  · refine ⟨_, ?_, shows_received _ v⟩
    cases v with
    | list items => exact absurd rfl (hlist items)
    | _ => rfl
  · refine ⟨_, ?_, shows_received _ v⟩
    unfold analyzeValue
    rw [hsequence]
    exact if_neg Bool.false_ne_true
  · obtain ⟨f, hf⟩ := FileRecord.exists_ofValue_eq_error hrecord
    have hread := readRecordsFrom_of_error hbefore hf 0 later
    rw [Nat.zero_add] at hread
    refine ⟨f, _, hf, hread, ?_⟩
    obtain ⟨key, rfl⟩ | hlies := FileRecord.of_ofValue_eq_error hf
    · exact .inl ⟨⟨key, rfl⟩, shows_place _ _⟩
    · right
      rw [hlies.toFault_eq]
      exact ⟨hlies, shows_received_place _ v _⟩
  · cases v <;> simp [Value.receivedDetail]

theorem rejection_shown_sample :
    let v : Value := .dict [("path", .text "a.pl"), ("lines", .int 1), ("packages", .null)]
    (∀ items, v ≠ .list items) ∧ v.isSequence = false ∧ v.isRecord = false ∧
      (∃ fault, readRecords v = .error fault ∧ fault.Shows
        [("reason", "expected a JSON array of file records"), ("received", "dict")]) ∧
      (∃ fault, analyzeValue v = .error (.fault fault) ∧ fault.Shows
        [("reason", "did not supply an ordered sequence of file records"), ("received", "dict")]) ∧
      ∃ fault, readRecords (.list [v]) = .error fault ∧ fault.Shows
        [("reason", "'packages' must be a list, got NoneType"), ("received", "dict"),
          ("index", "0")] := by
  intro v
  have hlist : ∀ items, v ≠ .list items := nofun
  have hrecord : v.isRecord = false := by decide
  obtain ⟨list, sequence, record, -⟩ := rejection_shown v [] []
  obtain ⟨f, fault, hf, hread, ⟨⟨key, rfl⟩, -⟩ | ⟨-, hshows⟩⟩ := record nofun hrecord
  · cases hf
  · obtain rfl := Except.error.inj hf
    exact ⟨hlist, rfl, hrecord, list hlist, sequence rfl, fault, hread, hshows⟩

/-- Nothing at all is rejected for its shape like any other value, as a list, as a sequence and as a
record, but the fault does not name what was received. -/
theorem nothing_unnamed :
    (∃ fault, readRecords .null = .error fault ∧ fault.details.lookup "received" = none) ∧
    (∃ fault, analyzeValue .null = .error (.fault fault) ∧
      fault.details.lookup "received" = none) ∧
    ∃ f fault, FileRecord.ofValue .null = .error f ∧ f.LiesIn .null ∧
      readRecords (.list [.null]) = .error fault ∧ fault.details.lookup "received" = none := by
  refine ⟨⟨_, rfl, by decide⟩, ⟨_, rfl, by decide⟩, _, _, rfl, .record rfl, rfl, ?_⟩
  decide

end CodeMetrics
