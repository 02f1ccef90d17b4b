import CodeMetrics.Proofs.Settings.Checks

/-!
# The switches of loaded settings

Loaded settings hold whole numbers from zero on as thresholds, wherever those come from.  A switch
is a truth value only where it was read as one, which is in the environment, or not given at all:
the value of a file and a value that is given directly are taken as they are
(`load_wellTyped_iff`), so a text can turn a switch on (`load_text_switch`).
-/

namespace CodeMetrics

namespace Value

variable {α : Type} {entries : List (String × α)} {key : String}

theorem mem_of_lastItem? {item : α} (h : lastItem? entries key = some item) :
    (key, item) ∈ entries := by
  obtain ⟨before, after, hsplit, -⟩ := List.lookup_eq_some_iff.1 h
  rw [← List.mem_reverse, hsplit]
  simp

theorem lastItem?_eq_none_iff : lastItem? entries key = none ↔ ∀ e ∈ entries, e.1 ≠ key := by
  unfold lastItem?
  rw [List.lookup_eq_none_iff]
  simp only [List.mem_reverse, bne_iff_ne, ne_comm]

theorem winner?_cons (entries : List (String × α)) (layers : List (List (String × α))) :
    winner? (entries :: layers) key = (lastItem? entries key).or (winner? layers key) := by
  unfold winner?
  rw [List.findSome?_cons]
  cases lastItem? entries key <;> rfl

end Value

/-! ## Switches of the environment -/

namespace Environment

/-- A field has one kind of text. -/
theorem target_unique : ∀ f ∈ targets, ∀ g ∈ targets, f.1 = g.1 → f.2 = g.2 := by
  decide +kernel

variable {environment : String → Option String} {field : String}

/-- The environment gives a field when its variable is set. -/
theorem lastItem?_values_eq_none_iff (readable : Readable environment targets) {target : Target}
    (hfield : (field, target) ∈ targets) :
    Value.lastItem? (values environment) field = none ↔
      environment (variableName field) = none := by
  rw [Value.lastItem?_eq_none_iff]
  constructor
  · intro h
    cases hs : environment (variableName field) with
    | none => rfl
    | some s =>
      obtain ⟨v, hv⟩ := readable _ hfield s hs
      have hvalue : fieldValue? environment (field, target) = some (field, v) := by
        simp [fieldValue?, hs, show readAs target s = .ok v from hv, Except.toOption]
      exact absurd rfl (h _ (List.mem_filterMap.2 ⟨_, hfield, hvalue⟩))
  · rintro h e he rfl
    obtain ⟨f, -, hvalue⟩ := List.mem_filterMap.1 he
    obtain ⟨s, hs, hvalue⟩ := Option.bind_eq_some_iff.1 hvalue
    obtain ⟨v, -, rfl⟩ := Option.map_eq_some_iff.1 hvalue
    rw [h] at hs
    cases hs

/-- What the environment gives for a switch is a truth value. -/
theorem bool_of_lastItem?_values (hfield : (field, .switch) ∈ targets) {v : Value}
    (h : Value.lastItem? (values environment) field = some v) : ∃ b, v = .bool b := by
  obtain ⟨f, hf, hvalue⟩ := List.mem_filterMap.1 (Value.mem_of_lastItem? h)
  obtain ⟨s, -, hvalue⟩ := Option.bind_eq_some_iff.1 hvalue
  obtain ⟨w, hw, heq⟩ := Option.map_eq_some_iff.1 hvalue
  obtain ⟨hname, rfl⟩ := Prod.mk.inj heq
  rw [toOption_eq_some_iff, target_unique f hf _ hfield hname] at hw
  obtain ⟨b, -, rfl⟩ := map_eq_ok_iff.1 hw
  exact ⟨b, rfl⟩

end Environment

namespace Settings

/-! ## Well-typed settings -/

/-- The fields of the thresholds. -/
def thresholdFields : List String := [linesField, complexityField]

/-- The fields of the switches. -/
def switchFields : List String := [onlyErrorsField, machineOnlyField]

/-- The thresholds are whole numbers from zero on and the switches are truth values. -/
structure WellTyped (s : Settings) : Prop where
  thresholds : ∀ field ∈ thresholdFields, ∃ n : Int,
    0 ≤ n ∧ s.toFields.lookup field = some (.int n)
  switches : ∀ field ∈ switchFields, ∃ b, s.toFields.lookup field = some (.bool b)

/-- The value of a field that a source gives as it is: the value that is given directly or, if there
is none and the field has no variable either, that of the higher file which has one. -/
def Sources.unchecked? (sources : Sources) (field : String) : Option Value :=
  (Value.lastItem? sources.givenValues field).or
    (if (sources.environment (Environment.variableName field)).isSome then none
    else Value.winner? [sources.namedTable, sources.projectTable] field)

variable {sources : Sources} {s : Settings}

/-- A switch has the value that is given as it is or, if there is none, a truth value. -/
theorem value_switch (readable : Environment.Readable sources.environment Environment.targets)
    {field : String} (hfield : field ∈ switchFields) :
    match sources.unchecked? field with
    | some v => sources.value sources.projectTable sources.namedTable field = v
    | none => ∃ b, sources.value sources.projectTable sources.namedTable field = .bool b := by
  have htarget : (field, .switch) ∈ Environment.targets := by
    revert field
    decide +kernel
  have hstandard : standardValue field = .bool false := by
    simp only [switchFields, List.mem_cons, List.not_mem_nil, or_false] at hfield
    rcases hfield with rfl | rfl <;> rfl
  have hlayers : sources.value sources.projectTable sources.namedTable field =
      ((Value.lastItem? sources.givenValues field).or
        ((Value.lastItem? (Environment.values sources.environment) field).or
          (Value.winner? [sources.namedTable, sources.projectTable] field))).getD
        (.bool false) := by
    rw [← hstandard, ← Value.winner?_cons, ← Value.winner?_cons]
    rfl
  have hnone := Environment.lastItem?_values_eq_none_iff readable htarget
  rw [hlayers, Sources.unchecked?]
  rcases Value.lastItem? sources.givenValues field with _ | v
  · rw [Option.none_or, Option.none_or]
    cases hread : Value.lastItem? (Environment.values sources.environment) field with
    | none =>
      rw [if_neg (by simp [hnone.1 hread]), Option.none_or]
      cases Value.winner? [sources.namedTable, sources.projectTable] field with
      | none => exact ⟨false, rfl⟩
      | some v => rfl
    | some v =>
      have hset : (sources.environment (Environment.variableName field)).isSome := by
        rw [Option.isSome_iff_ne_none]
        intro h
        rw [hnone.2 h] at hread
        cases hread
      rw [if_pos hset]
      exact Environment.bool_of_lastItem?_values htarget hread
  · rfl

/-- Loaded settings hold the values of their fields. -/
theorem reads_of_load (h : load sources = .ok s) :
    sources.Reads sources.projectTable sources.namedTable := by
  unfold load at h
  split at h
  · cases h
  · obtain ⟨merged, hmerged, -⟩ := bind_eq_ok_iff.1 h
    exact reads_of_merge (mapError_eq_ok_iff.1 hmerged)

/-- A field of loaded settings has the value of the highest source that has one. -/
theorem lookup_of_load (h : load sources = .ok s) {field : String} (hfield : field ∈ fieldNames) :
    s.toFields.lookup field =
      some (sources.value sources.projectTable sources.namedTable field) := by
  rw [((load_eq_ok_iff (reads_of_load h)).1 h).2.2]
  simp only [fieldNames, List.mem_cons, List.not_mem_nil, or_false] at hfield
  rcases hfield with rfl | rfl | rfl | rfl <;> rfl

/-- In settings that are loaded, the thresholds are whole numbers from zero on.  A switch has the
value that a file or a direct value gives it, whatever that is, and is a truth value if neither
decides about it.  So the settings are well typed exactly when each such value of a switch is a
truth value. -/
theorem load_wellTyped_iff (h : load sources = .ok s) :
    (∀ field ∈ thresholdFields, ∃ n : Int, 0 ≤ n ∧
        sources.value sources.projectTable sources.namedTable field = .int n ∧
        s.toFields.lookup field = some (.int n)) ∧
      (∀ field ∈ switchFields,
        match sources.unchecked? field with
        | some v => s.toFields.lookup field = some v
        | none => ∃ b, s.toFields.lookup field = some (.bool b)) ∧
      (s.WellTyped ↔
        ∀ field ∈ switchFields, ∀ v, sources.unchecked? field = some v → ∃ b, v = .bool b) := by
  have readable := (reads_of_load h).environment
  have hthresholds : ∀ field ∈ thresholdFields, ∃ n : Int, 0 ≤ n ∧
      sources.value sources.projectTable sources.namedTable field = .int n ∧
      s.toFields.lookup field = some (.int n) := by
    intro field hfield
    have hmem : field ∈ fieldNames := by
      revert field
      decide +kernel
    have hlookup := lookup_of_load h hmem
    obtain ⟨n, hn, hfields⟩ : ∃ n : Int, 0 ≤ n ∧ s.toFields.lookup field = some (.int n) := by
      simp only [thresholdFields, List.mem_cons, List.not_mem_nil, or_false] at hfield
      rcases hfield with rfl | rfl
      · exact ⟨s.maxLines, by omega, rfl⟩
      · exact ⟨s.maxComplexity, by omega, rfl⟩
    exact ⟨n, hn, Option.some.inj (hlookup.symm.trans hfields), hfields⟩
  have hswitches : ∀ field ∈ switchFields,
      match sources.unchecked? field with
      | some v => s.toFields.lookup field = some v
      | none => ∃ b, s.toFields.lookup field = some (.bool b) := by
    intro field hfield
    have hmem : field ∈ fieldNames := by
      revert field
      decide +kernel
    have hvalue := value_switch readable hfield
    rw [lookup_of_load h hmem]
    cases hunchecked : sources.unchecked? field with
    | some v =>
      rw [hunchecked] at hvalue
      exact congrArg some hvalue
    | none =>
      rw [hunchecked] at hvalue
      obtain ⟨b, hb⟩ := hvalue
      exact ⟨b, congrArg some hb⟩
  refine ⟨hthresholds, hswitches, fun typed field hfield v hv => ?_, fun htyped => ⟨?_, ?_⟩⟩
  · obtain ⟨b, hb⟩ := typed.switches field hfield
    have hswitch := hswitches field hfield
    rw [hv] at hswitch
    exact ⟨b, Option.some.inj (hswitch.symm.trans hb)⟩
  · intro field hfield
    obtain ⟨n, hn, -, hfields⟩ := hthresholds field hfield
    exact ⟨n, hn, hfields⟩
  · intro field hfield
    have hswitch := hswitches field hfield
    cases hunchecked : sources.unchecked? field with
    | some v =>
      rw [hunchecked] at hswitch
      obtain ⟨b, rfl⟩ := htyped field hfield v hunchecked
      exact ⟨b, hswitch⟩
    | none =>
      rw [hunchecked] at hswitch
      exact hswitch

/-- The project's file sets a switch. -/
def switchSources (value : String) : Sources :=
  projectOnly ("show_only_errors = " ++ value).toUTF8.data.toList

theorem load_switchSources {value : String} {v : Value}
    (decoded : decodeFile ("/work" ++ "/" ++ projectFile) (switchSources value).project =
      .ok [(onlyErrorsField, v)]) :
    load (switchSources value) = .ok ⟨60, 10, v, .bool false⟩ := by
  have reads : (switchSources value).Reads (effectiveTable [(onlyErrorsField, v)]) [] :=
    projectOnly_reads decoded
  rw [load_eq_ok_iff reads]
  refine ⟨nofun, ⟨fun e he => ?_, nofun⟩, rfl⟩
  obtain rfl := List.mem_singleton.1 he
  simp [fieldNames]

theorem load_wellTyped_iff_sample :
    load (switchSources "true") = .ok ⟨60, 10, .bool true, .bool false⟩ ∧
      (switchSources "true").unchecked? onlyErrorsField = some (.bool true) ∧
      (switchSources "true").unchecked? machineOnlyField = none ∧
      (⟨60, 10, .bool true, .bool false⟩ : Settings).WellTyped := by
  have loads : load (switchSources "true") = .ok ⟨60, 10, .bool true, .bool false⟩ :=
    load_switchSources rfl
  have errors : (switchSources "true").unchecked? onlyErrorsField = some (.bool true) := by rfl
  have machine : (switchSources "true").unchecked? machineOnlyField = none := by rfl
  refine ⟨loads, errors, machine, (load_wellTyped_iff loads).2.2.2 fun field hfield v hv => ?_⟩
  simp only [switchFields, List.mem_cons, List.not_mem_nil, or_false] at hfield
  rcases hfield with rfl | rfl
  · exact ⟨true, Option.some.inj (hv.symm.trans errors)⟩
  · rw [machine] at hv
    cases hv

/-- A text that stands for no turns the switch on. -/
theorem load_text_switch : ∃ s, load (switchSources "\"no\"\n") = .ok s ∧ ¬ s.WellTyped ∧
    s.onlyErrors.truthy := by
  refine ⟨_, load_switchSources rfl, fun typed => ?_, rfl⟩
  obtain ⟨b, hb⟩ := typed.switches onlyErrorsField (by simp [switchFields])
  cases hb

end Settings

end CodeMetrics
