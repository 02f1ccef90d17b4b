import CodeMetrics.Proofs.Json.Reader
import CodeMetrics.Proofs.Text.Utf8
import CodeMetrics.Record.File

/-!
# What the records of a file hold

Each field of a record comes from the document that it was read from, or is one of the defaults.  So
records that were read hold nothing but values that can be printed and written, and the number of
subroutines and packages is limited by the length of the file (`bounded_of_loadRecords`).
-/

namespace CodeMetrics

/-! ## The fields of a record -/

/-- The fields of a subroutine. -/
def Subroutine.fields (s : Subroutine) : List Value :=
  [s.name, s.path, s.lineNumber, s.lines, s.complexity]

/-- The fields of main code. -/
def MainCode.fields (m : MainCode) : List Value := [m.lines, m.path, m.name]

/-- The fields of a record, with its packages and the fields of its parts. -/
def FileRecord.fields (r : FileRecord) : List Value :=
  [r.path, r.lines] ++ r.packages ++ r.subs.flatMap Subroutine.fields ++ r.main.fields

/-- The record holds bounded values, and not too many of them. -/
structure FileRecord.Bounded (size : Nat) (r : FileRecord) : Prop where
  fields : ∀ v ∈ r.fields, Json.isBounded size v
  subs : r.subs.length ≤ size
  packages : r.packages.length ≤ size

/-! ## Keys -/

variable {size : Nat} {v w : Value} {key : String}

theorem isBounded_of_lookup {entries : List (String × Value)} (h : Json.isBoundedIn size entries)
    (hw : entries.lookup key = some w) : Json.isBounded size w := by
  obtain ⟨before, after, rfl, -⟩ := List.lookup_eq_some_iff.1 hw
  exact Json.isBoundedIn_iff.1 h (key, w) (by simp)

theorem isBounded_of_requireKey (h : Json.isBounded size v) (hw : requireKey v key = .ok w) :
    Json.isBounded size w := by
  unfold requireKey at hw
  split at hw
  · next entries =>
    split at hw
    · next found =>
      obtain rfl := Except.ok.inj hw
      exact isBounded_of_lookup h found
    · cases hw
  · cases hw

theorem isBounded_of_optionalKey (h : Json.isBounded size v)
    (hw : optionalKey v key = .ok (some w)) : Json.isBounded size w := by
  unfold optionalKey at hw
  split at hw
  · exact isBounded_of_lookup h (Except.ok.inj hw)
  · cases hw

/-- A key that may be missing has a bounded value if its default is one. -/
theorem isBounded_getD_of_optionalKey {w? : Option Value} {default : Value}
    (h : Json.isBounded size v) (hw : optionalKey v key = .ok w?)
    (hdefault : Json.isBounded size default) : Json.isBounded size (w?.getD default) := by
  cases w? with
  | none => exact hdefault
  | some w => exact isBounded_of_optionalKey h hw

theorem isBoundedOf_of_listAt {items : List Value} (h : Json.isBounded size v)
    (hitems : listAt v key = .ok items) :
    Json.isBoundedOf size items ∧ items.length ≤ size := by
  unfold listAt at hitems
  obtain ⟨w?, hw, hitems⟩ := bind_eq_ok_iff.1 hitems
  split at hitems
  · obtain rfl := Except.ok.inj hitems
    exact ⟨rfl, Nat.zero_le size⟩
  · obtain rfl := Except.ok.inj hitems
    have hlist := isBounded_of_optionalKey h hw
    rw [Json.isBounded, Bool.and_eq_true, decide_eq_true_eq] at hlist
    exact hlist.symm
  · have htuple := isBounded_of_optionalKey h hw
    cases htuple
  · cases hitems

/-! ## Records -/

theorem Subroutine.isBounded_of_ofValue {s : Subroutine} (h : Json.isBounded size v)
    (hs : ofValue v = .ok s) : ∀ w ∈ s.fields, Json.isBounded size w := by
  unfold ofValue at hs
  obtain ⟨name, hname, hs⟩ := bind_eq_ok_iff.1 hs
  obtain ⟨path, hpath, hs⟩ := bind_eq_ok_iff.1 hs
  obtain ⟨lineNumber, hlineNumber, hs⟩ := bind_eq_ok_iff.1 hs
  obtain ⟨lines, hlines, hs⟩ := bind_eq_ok_iff.1 hs
  obtain ⟨complexity, hcomplexity, hs⟩ := bind_eq_ok_iff.1 hs
  obtain rfl := Except.ok.inj hs
  simp only [fields, List.forall_mem_cons]
  exact ⟨isBounded_of_requireKey h hname, isBounded_of_requireKey h hpath,
    isBounded_of_requireKey h hlineNumber, isBounded_of_requireKey h hlines,
    isBounded_of_requireKey h hcomplexity, List.forall_mem_nil _⟩

theorem MainCode.isBounded_of_ofValue {m : MainCode} {path : Value} (hpath : Json.isBounded size path)
    (h : Json.isBounded size v) (hm : ofValue path v = .ok m) :
    ∀ w ∈ m.fields, Json.isBounded size w := by
  have hfields : Json.isBounded size (if v.truthy then v else .dict []) := by
    split
    · exact h
    · rfl
  have hzero : Json.isBounded size (.int 0) := by
    rw [Json.isBounded, decide_eq_true_eq]
    exact Json.unwritable_pos
  unfold ofValue at hm
  obtain ⟨lines?, hlines, hm⟩ := bind_eq_ok_iff.1 hm
  obtain ⟨path?, hmainPath, hm⟩ := bind_eq_ok_iff.1 hm
  obtain ⟨name?, hname, hm⟩ := bind_eq_ok_iff.1 hm
  obtain rfl := Except.ok.inj hm
  simp only [fields, List.forall_mem_cons]
  exact ⟨isBounded_getD_of_optionalKey hfields hlines hzero,
    isBounded_getD_of_optionalKey hfields hmainPath hpath,
    isBounded_getD_of_optionalKey hfields hname rfl, List.forall_mem_nil _⟩

/-- A record that was read holds values of its dictionary and defaults. -/
theorem FileRecord.bounded_of_ofValue {r : FileRecord} (h : Json.isBounded size v)
    (hr : ofValue v = .ok r) : r.Bounded size := by
  unfold ofValue at hr
  obtain ⟨path, hpath, hr⟩ := bind_eq_ok_iff.1 hr
  obtain ⟨main?, hmain?, hr⟩ := bind_eq_ok_iff.1 hr
  obtain ⟨lines, hlines, hr⟩ := bind_eq_ok_iff.1 hr
  obtain ⟨packages, hpackages, hr⟩ := bind_eq_ok_iff.1 hr
  obtain ⟨items, hitems, hr⟩ := bind_eq_ok_iff.1 hr
  obtain ⟨subs, hsubs, hr⟩ := bind_eq_ok_iff.1 hr
  obtain ⟨main, hmain, hr⟩ := bind_eq_ok_iff.1 hr
  obtain rfl := Except.ok.inj hr
  have hpath := isBounded_of_requireKey h hpath
  obtain ⟨hpackage, packageCount⟩ := isBoundedOf_of_listAt h hpackages
  obtain ⟨hitem, itemCount⟩ := isBoundedOf_of_listAt h hitems
  obtain ⟨subCount, hread⟩ := of_mapM_eq_ok hsubs
  have hsub : ∀ s ∈ subs, ∀ w ∈ s.fields, Json.isBounded size w := by
    intro s hs
    obtain ⟨item, hmem, hs⟩ := hread s hs
    exact s.isBounded_of_ofValue (Json.isBoundedOf_iff.1 hitem item hmem) hs
  constructor
  · simp only [fields, List.forall_mem_append, List.forall_mem_flatMap]
    refine ⟨⟨⟨?_, Json.isBoundedOf_iff.1 hpackage⟩, hsub⟩, ?_⟩
    · simp only [List.forall_mem_cons]
      exact ⟨hpath, isBounded_of_requireKey h hlines, List.forall_mem_nil _⟩
    · exact MainCode.isBounded_of_ofValue hpath
        (isBounded_getD_of_optionalKey h hmain? rfl) hmain
  · exact subCount.le.trans itemCount
  · exact packageCount

theorem bounded_of_readRecordsFrom {index : Nat} {items : List Value} {rs : List FileRecord}
    (h : Json.isBoundedOf size items) (hrs : readRecordsFrom index items = .ok rs) :
    ∀ r ∈ rs, r.Bounded size := by
  induction items generalizing index rs with
  | nil =>
    obtain rfl := Except.ok.inj hrs
    exact List.forall_mem_nil _
  | cons item rest ih =>
    rw [Json.isBoundedOf, Bool.and_eq_true] at h
    rw [readRecordsFrom] at hrs
    split at hrs
    · cases hrs
    · next first hfirst =>
      obtain ⟨others, hothers, rfl⟩ := map_eq_ok_iff.1 hrs
      exact List.forall_mem_cons.2
        ⟨FileRecord.bounded_of_ofValue h.1 hfirst, ih h.2 hothers⟩

/-! ## Files -/

theorem isBounded_of_decodeDocument {path : String} {octets : List UInt8}
    (h : decodeDocument path octets = .ok v) : Json.isBounded (2 * octets.length + 1) v := by
  unfold decodeDocument at h
  split at h
  · cases h
  · next s hs =>
    split at h
    · next w hw =>
      obtain rfl := Except.ok.inj h
      have hunified := length_unifyLineEnds_le s
      have hdecoded := length_le_of_decodeUtf8 hs
      exact Json.isBounded_of_read (by omega) hw
    · split at h <;> cases h

/-- Records are only read from a file, and are bounded by twice its length. -/
theorem bounded_of_loadRecords {path : String} {node : Node} {rs : List FileRecord}
    (h : loadRecords path node = .ok rs) :
    ∃ octets, node = .file octets ∧ ∀ r ∈ rs, r.Bounded (2 * octets.length + 1) := by
  cases node with
  | file octets =>
    obtain ⟨v, hv, hrecords⟩ := bind_eq_ok_iff.1 h
    rw [mapError_eq_ok_iff] at hrecords
    have hbounded := isBounded_of_decodeDocument hv
    refine ⟨octets, rfl, ?_⟩
    unfold readRecords at hrecords
    split at hrecords
    · rw [Json.isBounded, Bool.and_eq_true] at hbounded
      exact bounded_of_readRecordsFrom hbounded.2 hrecords
    · cases hrecords
  | _ => cases h

end CodeMetrics
