import CodeMetrics.Proofs.Except
import CodeMetrics.Record.Reader

/-!
# The shape of records

`Value.isRecord` says which values describe a record, and `FileRecord.described` which record that
is, both without a word about the order in which a reader looks at them.  The reader accepts exactly
these values and reads exactly these records (`FileRecord.ofValue_eq_ok_iff`).  Of a list it blames
the first item that describes none, and nothing behind that item matters (`readRecords_outcome`).
-/

namespace CodeMetrics

/-! ## Shapes -/

namespace Value

/-- The value under a key of a dictionary.  Other values have no keys. -/
def valueAt? (v : Value) (key : String) : Option Value :=
  match v with
  | .dict entries => entries.lookup key
  | _ => none

/-- The value under a key that is there. -/
def valueAt (v : Value) (key : String) : Value := (v.valueAt? key).getD .null

/-- The items of a list; those of a tuple will do as well. -/
def items? : Value → Option (List Value)
  | list items => some items
  | tuple items => some items
  | _ => none

/-- The items under a key, none if the key is missing; something else may stand there too. -/
def itemsAt? (v : Value) (key : String) : Option (List Value) :=
  match v.valueAt? key with
  | none => some []
  | some w => w.items?

def isDict : Value → Bool
  | dict _ => true
  | _ => false

/-- The value describes a subroutine: it is a dictionary with all of its fields. -/
def isSub (v : Value) : Bool :=
  ["name", "path", "line_number", "lines", "mccabe_complexity"].all fun key =>
    (v.valueAt? key).isSome

/-- The value describes main code: it is a dictionary, or counts as false. -/
def isMain (v : Value) : Bool := v.isDict || !v.truthy

/-- The value describes a record: it is a dictionary with a path and lines; its packages and its
subroutines, if there are any, are lists, the latter of subroutines; and so is its main code, if
there is any, main code. -/
def isRecord (v : Value) : Bool :=
  ["path", "lines"].all (fun key => (v.valueAt? key).isSome) &&
    (v.itemsAt? "packages").isSome &&
    (v.itemsAt? "subs").any (fun items => items.all isSub) &&
    (v.valueAt? "main_stats").all isMain

end Value

/-! ## Descriptions -/

/-- The subroutine that a value describes. -/
def Subroutine.described (v : Value) : Subroutine :=
  ⟨v.valueAt "name", v.valueAt "path", v.valueAt "line_number", v.valueAt "lines",
    v.valueAt "mccabe_complexity"⟩

/-- The main code that a value describes, key by key. -/
def MainCode.described (path v : Value) : MainCode :=
  ⟨(v.valueAt? "lines").getD (.int 0), (v.valueAt? "path").getD path,
    (v.valueAt? "name").getD (.text MainCode.standardName)⟩

/-- The record that a value describes. -/
def FileRecord.described (v : Value) : FileRecord :=
  ⟨v.valueAt "path", v.valueAt "lines", (v.itemsAt? "packages").getD [],
    ((v.itemsAt? "subs").getD []).map Subroutine.described,
    MainCode.described (v.valueAt "path") (v.valueAt "main_stats")⟩

/-! ## Keys -/

section

variable {v w : Value} {key : String}

theorem requireKey_eq_ok_iff :
    requireKey v key = .ok w ↔ (v.valueAt? key).isSome ∧ w = v.valueAt key := by
  unfold requireKey Value.valueAt Value.valueAt?
  cases v with
  | dict entries =>
    dsimp only
    rcases entries.lookup key with _ | found
    · exact ⟨nofun, nofun⟩
    · exact ⟨fun h => ⟨rfl, (Except.ok.inj h).symm⟩, fun h => by rw [h.2]; rfl⟩
  | _ => exact ⟨nofun, nofun⟩

theorem optionalKey_eq_ok_iff {w? : Option Value} :
    optionalKey v key = .ok w? ↔ v.isDict ∧ w? = v.valueAt? key := by
  cases v with
  | dict entries => exact ⟨fun h => ⟨rfl, (Except.ok.inj h).symm⟩, fun h => by rw [h.2]; rfl⟩
  | _ => exact ⟨nofun, nofun⟩

theorem listAt_eq_ok_iff {items : List Value} :
    listAt v key = .ok items ↔ v.isDict ∧ v.itemsAt? key = some items := by
  unfold listAt Value.itemsAt?
  rw [bind_eq_ok_iff]
  constructor
  · rintro ⟨w?, hw, hitems⟩
    obtain ⟨hv, rfl⟩ := optionalKey_eq_ok_iff.1 hw
    refine ⟨hv, ?_⟩
    split at hitems
    · next h => rw [h, Except.ok.inj hitems]
    · next h => rw [h, Except.ok.inj hitems]; rfl
    · next h => rw [h, Except.ok.inj hitems]; rfl
    · cases hitems
  · rintro ⟨hv, hitems⟩
    refine ⟨v.valueAt? key, optionalKey_eq_ok_iff.2 ⟨hv, rfl⟩, ?_⟩
    rcases h : v.valueAt? key with _ | found
    · rw [h] at hitems
      exact congrArg Except.ok (Option.some.inj hitems)
    · rw [h] at hitems
      cases found with
      | list items => exact congrArg Except.ok (Option.some.inj hitems)
      | tuple items => exact congrArg Except.ok (Option.some.inj hitems)
      | _ => cases hitems

end

/-! ## Records -/

theorem isDict_of_valueAt? {v : Value} {key : String} (h : (v.valueAt? key).isSome) : v.isDict := by
  cases v with
  | dict entries => rfl
  | _ => cases h

theorem Subroutine.ofValue_eq_ok_iff (v : Value) (s : Subroutine) :
    ofValue v = .ok s ↔ v.isSub ∧ s = described v := by
  unfold ofValue Value.isSub described
  simp only [bind_eq_ok_iff, requireKey_eq_ok_iff, and_assoc, exists_and_left, exists_eq_left,
    Except.ok.injEq, List.all_cons, List.all_nil, Bool.and_true, Bool.and_eq_true]
  rw [@eq_comm _ s]

/-- A value that counts as false has no keys, as if it were an empty dictionary. -/
theorem valueAt?_of_not_truthy {v : Value} (h : v.truthy = false) (key : String) :
    v.valueAt? key = none := by
  cases v with
  | dict entries =>
    cases entries with
    | nil => rfl
    | cons e rest => cases h
  | _ => rfl

theorem MainCode.ofValue_eq_ok_iff (path v : Value) (m : MainCode) :
    ofValue path v = .ok m ↔ v.isMain ∧ m = described path v := by
  have hdict : (if v.truthy then v else .dict []).isDict = v.isMain := by
    unfold Value.isMain
    rcases v.truthy with _ | _
    · exact (Bool.or_true _).symm
    · exact (Bool.or_false _).symm
  have hvalue : ∀ key, (if v.truthy then v else .dict []).valueAt? key = v.valueAt? key := by
    intro key
    rcases h : v.truthy with _ | _
    · exact (valueAt?_of_not_truthy h key).symm
    · rfl
  unfold ofValue described
  simp only [bind_eq_ok_iff, optionalKey_eq_ok_iff, hdict, hvalue, and_assoc, exists_and_left,
    exists_eq_left, Except.ok.injEq, and_self_left]
  rw [@eq_comm _ m]

theorem FileRecord.ofValue_eq_ok_iff (v : Value) (r : FileRecord) :
    ofValue v = .ok r ↔ v.isRecord ∧ r = described v := by
  unfold ofValue
  simp only [bind_eq_ok_iff, requireKey_eq_ok_iff, optionalKey_eq_ok_iff, listAt_eq_ok_iff,
    MainCode.ofValue_eq_ok_iff, mapM_eq_ok_iff Subroutine.ofValue_eq_ok_iff, and_assoc,
    exists_and_left, exists_eq_left, Except.ok.injEq]
  have hmain : (v.valueAt? "main_stats").all Value.isMain = (v.valueAt "main_stats").isMain := by
    unfold Value.valueAt
    rcases v.valueAt? "main_stats" with _ | main <;> rfl
  unfold Value.isRecord described
  simp only [hmain, Bool.and_eq_true, List.all_cons, List.all_nil, Bool.and_true]
  constructor
  · rintro ⟨hpath, -, hlines, -, packages, hpackages, -, subs, hsubs, hsub, hm, rfl⟩
    rw [hpackages, hsubs]
    exact ⟨⟨⟨⟨⟨hpath, hlines⟩, rfl⟩, List.all_eq_true.2 hsub⟩, hm⟩, rfl⟩
  · rintro ⟨⟨⟨⟨⟨hpath, hlines⟩, hpackages⟩, hsubs⟩, hm⟩, rfl⟩
    obtain ⟨packages, hpackages⟩ := Option.isSome_iff_exists.1 hpackages
    obtain ⟨subs, hsubs, hsub⟩ := (Option.any_eq_true _ _).1 hsubs
    rw [hpackages, hsubs]
    have hv := isDict_of_valueAt? hpath
    exact ⟨hpath, hv, hlines, hv, packages, rfl, hv, subs, rfl, List.all_eq_true.1 hsub, hm, rfl⟩

/-- A value that describes no record is refused. -/
theorem FileRecord.exists_ofValue_eq_error {v : Value} (h : v.isRecord = false) :
    ∃ f, ofValue v = .error f := by
  rcases hr : ofValue v with f | r
  · exact ⟨f, rfl⟩
  · rw [((ofValue_eq_ok_iff v r).1 hr).1] at h
    cases h

/-! ## Lists of records -/

/-- Whatever is wrong with an item, its place is named. -/
theorem ShapeFault.exists_toFault_eq (f : ShapeFault) (item : Value) (index : Nat) :
    ∃ reason received, f.toFault item index = .input reason received (.int index) := by
  cases f <;> exact ⟨_, _, rfl⟩

theorem readRecordsFrom_eq_ok_iff {index : Nat} {items : List Value} {rs : List FileRecord} :
    readRecordsFrom index items = .ok rs ↔
      (∀ item ∈ items, item.isRecord) ∧ rs = items.map FileRecord.described := by
  induction items generalizing index rs with
  | nil => exact ⟨fun h => ⟨nofun, (Except.ok.inj h).symm⟩, fun h => by rw [h.2]; rfl⟩
  | cons item rest ih =>
    rw [readRecordsFrom, List.forall_mem_cons, List.map_cons]
    rcases hr : FileRecord.ofValue item with f | r
    · have hitem : item.isRecord ≠ true := by
        intro h
        rw [(FileRecord.ofValue_eq_ok_iff item _).2 ⟨h, rfl⟩] at hr
        cases hr
      exact ⟨nofun, fun h => absurd h.1.1 hitem⟩
    · obtain ⟨hitem, rfl⟩ := (FileRecord.ofValue_eq_ok_iff item r).1 hr
      simp only [map_eq_ok_iff, ih, and_assoc, exists_and_left, exists_eq_left]
      rw [and_iff_right hitem, @eq_comm _ rs]

/-- The first item that is refused is blamed, at its place. -/
theorem readRecordsFrom_of_error {before : List Value} {item : Value} {f : ShapeFault}
    (hbefore : ∀ v ∈ before, v.isRecord) (hitem : FileRecord.ofValue item = .error f) (index : Nat)
    (later : List Value) :
    readRecordsFrom index (before ++ item :: later) =
      .error (f.toFault item (index + before.length)) := by
  induction before generalizing index with
  | nil =>
    rw [List.nil_append, readRecordsFrom, hitem]
    rfl
  | cons v rest ih =>
    obtain ⟨hv, hrest⟩ := List.forall_mem_cons.1 hbefore
    rw [List.cons_append, readRecordsFrom, (FileRecord.ofValue_eq_ok_iff v _).2 ⟨hv, rfl⟩]
    simp only [ih hrest, List.length_cons]
    rw [Nat.add_assoc, Nat.add_comm 1]
    rfl

/-- A value is read as records exactly when it is a list of values that each describe one, and the
records are then those, in order.  Everything else is a fault of the input: without a place if the
value is no list, and otherwise at the first place where no record is described, whatever follows
behind it. -/
theorem readRecords_outcome (raw : Value) :
    (∀ rs, readRecords raw = .ok rs ↔
      ∃ items, raw = .list items ∧ (∀ item ∈ items, item.isRecord) ∧
        rs = items.map FileRecord.described) ∧
    ((∀ items, raw ≠ .list items) →
      readRecords raw = .error (.input "expected a JSON array of file records" raw .null)) ∧
    ∀ items place, raw = .list items →
      items.findIdx? (fun item => !item.isRecord) = some place →
        ∃ reason received, readRecords raw = .error (.input reason received (.int place)) ∧
          ∀ later, readRecords (.list (items.take (place + 1) ++ later)) = readRecords raw := by
  refine ⟨fun rs => ?_, fun h => ?_, ?_⟩
  · cases raw with
    | list items =>
      refine readRecordsFrom_eq_ok_iff.trans ⟨fun h => ⟨items, rfl, h⟩, ?_⟩
      rintro ⟨_, hitems, h⟩
      cases hitems
      exact h
    | _ => exact ⟨nofun, nofun⟩
  · cases raw with
    | list items => exact absurd rfl (h items)
    | _ => rfl
  · rintro items place rfl hplace
    obtain ⟨hlt, hitem, hbefore⟩ := List.findIdx?_eq_some_iff_getElem.1 hplace
    obtain ⟨f, hf⟩ := FileRecord.exists_ofValue_eq_error (Bool.not_eq_true' _ ▸ hitem)
    have hrecords : ∀ v ∈ items.take place, v.isRecord := by
      intro v hv
      obtain ⟨i, hi, rfl⟩ := List.mem_take_iff_getElem.1 hv
      simpa using hbefore i (by omega)
    have hread : ∀ later, readRecords (.list (items.take (place + 1) ++ later)) =
        .error (f.toFault items[place] place) := by
      intro later
      have herror := readRecordsFrom_of_error hrecords hf 0 later
      rw [Nat.zero_add, List.length_take_of_le (Nat.le_of_lt hlt)] at herror
      rw [List.take_succ_eq_append_getElem hlt, List.append_assoc, List.singleton_append]
      exact herror
    have hraw := hread (items.drop (place + 1))
    rw [List.take_append_drop] at hraw
    obtain ⟨reason, received, hfault⟩ := f.exists_toFault_eq items[place] place
    exact ⟨reason, received, hfault ▸ hraw, fun later => (hread later).trans hraw.symm⟩

/-- Main code may be zero, which counts as false, but not something undefined, which does not; and
packages may be missing but not nothing. -/
example :
    let record (key : String) (v : Value) : Value :=
      .dict [("path", .text "a.pl"), ("lines", .null), (key, v)]
    (record "main_stats" (.int 0)).isRecord ∧ ¬ (record "main_stats" (.float .nan)).isRecord ∧
      ¬ (record "packages" .null).isRecord := by
  decide

end CodeMetrics
