import CodeMetrics.Proofs.Settings.Layers
import CodeMetrics.Proofs.Text.Utf8
import CodeMetrics.Proofs.Toml.Hexadecimal

/-!
# The checks of the sources of settings

Loading settings makes a fixed list of checks, each of which can be made whatever the others find
(`Sources.checks`): the contents of the project's file, whether the named file is there, its
contents, the variables of the environment in the order of the fields, the names in the merged
values, and the two thresholds.  Loading fails exactly with the failure of the first check that
fails (`load_first_failing_check`).

Each of these failures is a fault of the settings, except one: the value of a threshold that is to
be shown as wrong may hold a whole number that is too long to be shown (`unwritable_threshold`).
-/

namespace CodeMetrics

namespace Settings

/-! ## The checks -/

/-- The failure of a settings file whose contents are no table. -/
def contentsCheck (path : String) (node : Node) : Option Failure :=
  (errorOf? (decodeFile path node)).map .fault

/-- The failure of a variable that is set to a text that cannot be read. -/
def variableCheck (environment : String → Option String) (field : String × Environment.Target) :
    Option Failure :=
  (environment (Environment.variableName field.1)).bind fun s =>
    (errorOf? (Environment.readAs field.2 s)).map fun f =>
      .fault (.setting (Environment.variableName field.1) (.text s) f.message)

/-- The failure of a threshold that is no whole number from zero on. -/
def thresholdCheck (field : String) (v : Value) : Option Failure :=
  let refuse (reason : String) : Option Failure :=
    some (if v.printable then .fault (.setting field v reason) else .breakdown .badValue)
  match v with
  | .int n => if n < 0 then refuse "must be non-negative" else none
  | _ => refuse "must be an integer"

/-- The failure of the first name that is no field's. -/
def namesCheck (fields : List (String × Value)) : Option Failure :=
  (unexpected? fields).map loadFailure

namespace Sources

/-- The table of the project's file; an empty one if it cannot be read. -/
def projectTable (sources : Sources) : Toml.Table :=
  (readProject sources.directory sources.project).toOption.getD []

/-- The table of the file that is named; an empty one if it cannot be read. -/
def namedTable (sources : Sources) : Toml.Table := (readNamed sources.named).toOption.getD []

/-- What is found wrong when the files and the environment are read, check by check. -/
def readingChecks (sources : Sources) : List (Option Failure) :=
  [if sources.project.present then
      contentsCheck (sources.directory ++ "/" ++ projectFile) sources.project
    else none,
    sources.named.bind fun (path, node) =>
      if node.present then none
      else some (.fault (configurationFault ("Config file not found: " ++ path))),
    sources.named.bind fun (path, node) => contentsCheck path node] ++
  Environment.targets.map (variableCheck sources.environment)

/-- What is found wrong with the merged values, check by check.  The names are those of both files
and of the values that are given, and a threshold is the value of its highest source. -/
def mergedChecks (sources : Sources) : List (Option Failure) :=
  namesCheck (sources.projectTable ++ sources.namedTable ++ sources.givenValues) ::
  [linesField, complexityField].map fun field =>
    thresholdCheck field (sources.value sources.projectTable sources.namedTable field)

/-- What each check of the sources finds wrong, in the order of the checks. -/
def checks (sources : Sources) : List (Option Failure) :=
  sources.readingChecks ++ sources.mergedChecks

end Sources

/-! ## What the steps of loading end with -/

theorem findSome?_id_cons {α : Type} (check : Option α) (rest : List (Option α)) :
    (check :: rest).findSome? id = check.or (rest.findSome? id) := by
  cases check <;> simp

theorem errorOf?_readFile (path : String) (node : Node) :
    (errorOf? (readFile path node)).map .fault = contentsCheck path node := by
  rw [readFile, errorOf?_map, contentsCheck]

theorem errorOf?_readNamed (named : Option (String × Node)) :
    (errorOf? (readNamed named)).map Failure.fault =
      (named.bind fun (path, node) =>
        if node.present then none
        else some (.fault (configurationFault ("Config file not found: " ++ path)))).or
      (named.bind fun (path, node) => contentsCheck path node) := by
  rcases named with _ | ⟨path, node⟩
  · rfl
  · simp only [readNamed, Option.bind_some]
    by_cases h : node.present
    · rw [if_pos h, if_pos h, Option.none_or]
      exact errorOf?_readFile path node
    · rw [if_neg h, if_neg h]
      rfl

theorem errorOf?_readVariables (environment : String → Option String)
    (fields : List (String × Environment.Target)) :
    (errorOf? (Environment.readVariables environment fields)).map .fault =
      (fields.map (variableCheck environment)).findSome? id := by
  induction fields with
  | nil => rfl
  | cons f rest ih =>
    obtain ⟨field, target⟩ := f
    rw [Environment.readVariables, List.map_cons, List.findSome?_cons, ← ih]
    cases hs : environment (Environment.variableName field) with
    | none => simp [variableCheck, hs]
    | some s =>
      cases hv : Environment.readAs target s with
      | error f => simp [variableCheck, hs, hv]
      | ok v => simp [variableCheck, hs, hv]

theorem errorOf?_threshold (field : String) (v : Value) :
    (errorOf? (threshold field v)).map loadFailure = thresholdCheck field v := by
  have hrefuse (reason : String) :
      (errorOf? (if v.printable then (.error (.invalid field v reason) : Except SettingsFault Nat)
        else .error .unwritable)).map loadFailure =
      some (if v.printable then .fault (.setting field v reason) else .breakdown .badValue) := by
    split <;> rfl
  unfold threshold thresholdCheck
  cases v with
  | int n =>
    dsimp only
    split
    · exact hrefuse _
    · rfl
  | _ => exact hrefuse _

theorem errorOf?_ofFields (fields : List (String × Value)) :
    (errorOf? (ofFields fields)).map loadFailure =
      (namesCheck fields).or
        (([linesField, complexityField].map fun field => thresholdCheck field
          ((fields.lookup field).getD (standardValue field))).findSome? id) := by
  have hthresholds : errorOf? (do
      let maxLines ← threshold linesField ((fields.lookup linesField).getD (.int standard.maxLines))
      let maxComplexity ← threshold complexityField
        ((fields.lookup complexityField).getD (.int standard.maxComplexity))
      (.ok ⟨maxLines, maxComplexity, (fields.lookup onlyErrorsField).getD standard.onlyErrors,
        (fields.lookup machineOnlyField).getD standard.machineOnly⟩ :
          Except SettingsFault Settings)) =
      (errorOf? (threshold linesField ((fields.lookup linesField).getD
        (standardValue linesField)))).or (errorOf? (threshold complexityField
          ((fields.lookup complexityField).getD (standardValue complexityField)))) := by
    refine errorOf?_bind fun maxLines _ => ?_
    exact errorOf?_bind_of_ok fun maxComplexity _ => rfl
  unfold ofFields namesCheck
  rcases unexpected? fields with _ | f
  · simp only [hthresholds, ← errorOf?_threshold, Option.map_or, Option.map_none, Option.none_or,
      List.map_cons, List.map_nil, findSome?_id_cons, List.findSome?_nil, Option.or_none]
  · rfl

/-! ## The merged values -/

theorem unexpected?_eq_find?_keys (fields : List (String × Value)) :
    unexpected? fields = ((fields.map Prod.fst).find? (!fieldNames.contains ·)).map fun name =>
      if name = "self" then .receiver else .unexpected name := by
  unfold unexpected?
  rw [List.find?_map, Option.map_map]
  rfl

variable {sources : Sources}

/-- The first unknown name in the merged values is the first in the sources, one after the other;
the environment has none. -/
theorem unexpected?_layers (project named : Toml.Table) :
    unexpected? ((sources.layers project named).foldl Value.overlay []) =
      unexpected? (project ++ named ++ sources.givenValues) := by
  have henvironment : ((Environment.values sources.environment).map Prod.fst).find?
      (!fieldNames.contains ·) = none := by
    rw [List.find?_eq_none, List.forall_mem_map]
    intro e he
    simpa using Environment.mem_fieldNames_of_mem_values he
  rw [unexpected?_eq_find?_keys, unexpected?_eq_find?_keys, Value.find?_keys_layers]
  simp only [Sources.layers, List.flatten_cons, List.flatten_nil, List.nil_append, List.append_nil,
    List.map_append, List.find?_append, henvironment, Option.none_or, Option.or_assoc]

theorem namesCheck_layers (project named : Toml.Table) :
    namesCheck ((sources.layers project named).foldl Value.overlay []) =
      namesCheck (project ++ named ++ sources.givenValues) := by
  rw [namesCheck, unexpected?_layers, namesCheck]

theorem readable_of_readVariables {environment : String → Option String}
    {fields : List (String × Environment.Target)} {values : List (String × Value)}
    (h : Environment.readVariables environment fields = .ok values) :
    Environment.Readable environment fields := by
  have hnone := (errorOf?_readVariables environment fields).symm
  rw [h, errorOf?_ok, Option.map_none, List.findSome?_eq_none_iff, List.forall_mem_map] at hnone
  intro f hf s hs
  have hcheck := hnone f hf
  rw [id, variableCheck, hs, Option.bind_some, Option.map_eq_none_iff] at hcheck
  exact errorOf?_eq_none_iff.1 hcheck

/-- Sources whose values can be merged can be read. -/
theorem reads_of_merge {merged : List (String × Value)} (h : merge sources = .ok merged) :
    sources.Reads sources.projectTable sources.namedTable := by
  unfold merge at h
  obtain ⟨project, hproject, h⟩ := bind_eq_ok_iff.1 h
  obtain ⟨named, hnamed, h⟩ := bind_eq_ok_iff.1 h
  obtain ⟨environment, henvironment, -⟩ := bind_eq_ok_iff.1 h
  have hp : sources.projectTable = project := by rw [Sources.projectTable, hproject]; rfl
  have hn : sources.namedTable = named := by rw [Sources.namedTable, hnamed]; rfl
  refine ⟨?_, ?_, readable_of_readVariables henvironment⟩
  · rw [hp]
    unfold readProject at hproject
    split at hproject
    · obtain ⟨table, decoded, htable⟩ := map_eq_ok_iff.1 hproject
      exact .inr ⟨table, decoded, htable.symm⟩
    · next absent => exact .inl ⟨Bool.eq_false_iff.2 absent, (Except.ok.inj hproject).symm⟩
  · rw [hn]
    unfold readNamed at hnamed
    split at hnamed
    · next none => exact .inl ⟨none, (Except.ok.inj hnamed).symm⟩
    · next path node some =>
      split at hnamed
      · obtain ⟨table, decoded, htable⟩ := map_eq_ok_iff.1 hnamed
        exact .inr ⟨path, node, table, some, decoded, htable.symm⟩
      · cases hnamed

theorem merge_eq_ok {merged : List (String × Value)} (h : merge sources = .ok merged) :
    merged = (sources.layers sources.projectTable sources.namedTable).foldl Value.overlay [] :=
  Except.ok.inj (h.symm.trans (merge_of_reads (reads_of_merge h)))

/-! ## The first check that fails -/

theorem errorOf?_merge (sources : Sources) :
    errorOf? (merge sources) = (errorOf? (readProject sources.directory sources.project)).or
      ((errorOf? (readNamed sources.named)).or
        (errorOf? (Environment.read sources.environment))) := by
  unfold merge
  refine errorOf?_bind fun project _ => ?_
  refine errorOf?_bind fun named _ => ?_
  exact errorOf?_bind_of_ok fun environment _ => rfl

/-- Loading ends with the failure of the first check that fails. -/
theorem errorOf?_load (direct : "config_file" ∉ sources.given.map Prod.fst) :
    errorOf? (load sources) = sources.checks.findSome? id := by
  have hdirect : ¬ (sources.given.map Prod.fst).contains "config_file" := fun h =>
    direct (List.contains_iff_mem.1 h)
  have hproject : (errorOf? (readProject sources.directory sources.project)).map Failure.fault =
      if sources.project.present then
        contentsCheck (sources.directory ++ "/" ++ projectFile) sources.project
      else none := by
    unfold readProject
    split
    · exact errorOf?_readFile _ _
    · rfl
  have hmerged : ∀ merged, (merge sources).mapError Failure.fault = .ok merged →
      errorOf? ((ofFields merged).mapError loadFailure) =
        (namesCheck (sources.projectTable ++ sources.namedTable ++ sources.givenValues)).or
          (([linesField, complexityField].map fun field => thresholdCheck field
            (sources.value sources.projectTable sources.namedTable field)).findSome? id) := by
    intro merged h
    obtain rfl := merge_eq_ok (mapError_eq_ok_iff.1 h)
    rw [errorOf?_mapError, errorOf?_ofFields, namesCheck_layers]
    simp only [Value.lookup_layers, List.lookup_nil, Option.or_none]
    rfl
  unfold load
  rw [if_neg hdirect, errorOf?_bind hmerged, errorOf?_mapError, errorOf?_merge, Option.map_or,
    Option.map_or, hproject, errorOf?_readNamed, Environment.read, errorOf?_readVariables]
  simp only [Sources.checks, Sources.readingChecks, Sources.mergedChecks, List.findSome?_append,
    findSome?_id_cons, List.findSome?_nil, Option.none_or, Option.or_assoc]

/-! ## What the failures are -/

theorem kind_of_contentsCheck {path : String} {node : Node} {e : Failure}
    (h : contentsCheck path node = some e) : ∃ f, e = .fault f ∧ f.kind = .configuration := by
  obtain ⟨f, hf, rfl⟩ := Option.map_eq_some_iff.1 h
  rw [errorOf?_eq_some_iff] at hf
  refine ⟨f, rfl, ?_⟩
  unfold decodeFile at hf
  dsimp only at hf
  repeat' split at hf
  all_goals
    cases hf
    try rfl

theorem kind_of_variableCheck {environment : String → Option String}
    {field : String × Environment.Target} {e : Failure}
    (h : variableCheck environment field = some e) : ∃ f, e = .fault f ∧ f.kind = .setting := by
  obtain ⟨s, -, h⟩ := Option.bind_eq_some_iff.1 h
  obtain ⟨f, -, rfl⟩ := Option.map_eq_some_iff.1 h
  exact ⟨_, rfl, rfl⟩

theorem kind_of_namesCheck {fields : List (String × Value)} {e : Failure}
    (h : namesCheck fields = some e) : ∃ f, e = .fault f ∧ f.kind = .configuration := by
  rw [namesCheck, unexpected?_eq_find?_keys, Option.map_map] at h
  obtain ⟨name, -, rfl⟩ := Option.map_eq_some_iff.1 h
  by_cases hself : name = "self"
  · exact ⟨_, by rw [Function.comp_apply, if_pos hself]; rfl, rfl⟩
  · exact ⟨_, by rw [Function.comp_apply, if_neg hself]; rfl, rfl⟩

/-- A threshold is refused with a fault if it can be shown. -/
theorem kind_of_thresholdCheck {field : String} {v : Value} {e : Failure}
    (h : thresholdCheck field v = some e) :
    (∃ f, e = .fault f ∧ f.kind = .setting) ∨ (e = .breakdown .badValue ∧ ¬ v.printable) := by
  have hrefuse (reason : String)
      (h : some (if v.printable then Failure.fault (.setting field v reason)
        else .breakdown .badValue) = some e) :
      (∃ f, e = .fault f ∧ f.kind = .setting) ∨ (e = .breakdown .badValue ∧ ¬ v.printable) := by
    obtain rfl := Option.some.inj h
    by_cases hp : v.printable
    · rw [if_pos hp]
      exact .inl ⟨_, rfl, rfl⟩
    · rw [if_neg hp]
      exact .inr ⟨rfl, hp⟩
  unfold thresholdCheck at h
  dsimp only at h
  split at h
  · split at h
    · exact hrefuse _ h
    · cases h
  · exact hrefuse _ h

/-- Every failure of a check is a fault of the settings, except that of a threshold that cannot be
shown. -/
theorem kind_of_mem_checks {e : Failure} (h : some e ∈ sources.checks) :
    (∃ f, e = .fault f ∧ (f.kind = .configuration ∨ f.kind = .setting)) ∨
      (e = .breakdown .badValue ∧ ∃ field ∈ [linesField, complexityField],
        ¬ (sources.value sources.projectTable sources.namedTable field).printable) := by
  have general (h : ∃ f, e = .fault f ∧ f.kind = .configuration) :
      ∃ f, e = .fault f ∧ (f.kind = .configuration ∨ f.kind = .setting) := by
    obtain ⟨f, rfl, hf⟩ := h
    exact ⟨f, rfl, .inl hf⟩
  have setting (h : ∃ f, e = .fault f ∧ f.kind = .setting) :
      ∃ f, e = .fault f ∧ (f.kind = .configuration ∨ f.kind = .setting) := by
    obtain ⟨f, rfl, hf⟩ := h
    exact ⟨f, rfl, .inr hf⟩
  simp only [Sources.checks, Sources.readingChecks, Sources.mergedChecks, List.mem_append,
    List.mem_cons, List.not_mem_nil, or_false, List.mem_map, or_assoc] at h
  rcases h with hproject | hpresent | hnamed | ⟨field, -, hvariable⟩ | hnames | ⟨field, hfield, hv⟩
  · split at hproject
    · exact .inl (general (kind_of_contentsCheck hproject.symm))
    · cases hproject
  · obtain ⟨⟨path, node⟩, -, hpresent⟩ := Option.bind_eq_some_iff.1 hpresent.symm
    dsimp only at hpresent
    split at hpresent
    · cases hpresent
    · obtain rfl := Option.some.inj hpresent
      exact .inl ⟨_, rfl, .inl rfl⟩
  · obtain ⟨⟨path, node⟩, -, hcontents⟩ := Option.bind_eq_some_iff.1 hnamed.symm
    exact .inl (general (kind_of_contentsCheck hcontents))
  · exact .inl (setting (kind_of_variableCheck hvariable))
  · exact .inl (general (kind_of_namesCheck hnames.symm))
  · rcases kind_of_thresholdCheck hv with h | ⟨he, hp⟩
    · exact .inl (setting h)
    · exact .inr ⟨he, field, by simpa using hfield, hp⟩

/-! ## Loading -/

/-- Loading fails exactly with the failure of the first check that fails, whatever the checks after
it would find, and succeeds when no check fails.  The failure is a fault of the settings unless the
value of a threshold cannot be shown.  A variable that cannot be read is such a check, so loading
fails, and in the same way whatever values are given directly.  The named file itself cannot be
given as a value. -/
theorem load_first_failing_check (sources : Sources)
    (direct : "config_file" ∉ sources.given.map Prod.fst) :
    (∀ e, load sources = .error e ↔ ∃ passed later, sources.checks = passed ++ some e :: later ∧
        ∀ check ∈ passed, check = none) ∧
      ((∃ s, load sources = .ok s) ↔ ∀ check ∈ sources.checks, check = none) ∧
      (∀ e, load sources = .error e →
        (∃ f, e = .fault f ∧ (f.kind = .configuration ∨ f.kind = .setting)) ∨
          (e = .breakdown .badValue ∧ ∃ field ∈ [linesField, complexityField],
            ¬ (sources.value sources.projectTable sources.namedTable field).printable)) ∧
      ∀ field ∈ Environment.targets, ∀ s f,
        sources.environment (Environment.variableName field.1) = some s →
        Environment.readAs field.2 s = .error f →
        ∃ e, ∀ given : List (String × Value), "config_file" ∉ given.map Prod.fst →
          load { sources with given } = .error e := by
  have herror : ∀ e, load sources = .error e ↔ ∃ passed later,
      sources.checks = passed ++ some e :: later ∧ ∀ check ∈ passed, check = none := by
    intro e
    rw [← errorOf?_eq_some_iff, errorOf?_load direct, List.findSome?_eq_some_iff]
    constructor
    · rintro ⟨passed, check, later, hchecks, rfl, hpassed⟩
      exact ⟨passed, later, hchecks, hpassed⟩
    · rintro ⟨passed, later, hchecks, hpassed⟩
      exact ⟨passed, some e, later, hchecks, rfl, hpassed⟩
  refine ⟨herror, ?_, ?_, ?_⟩
  · rw [← errorOf?_eq_none_iff, errorOf?_load direct, List.findSome?_eq_none_iff]
    rfl
  · intro e he
    obtain ⟨passed, later, hchecks, -⟩ := (herror e).1 he
    exact kind_of_mem_checks (by simp [hchecks])
  · intro field hfield s f hs hf
    have hreading : ∃ e, sources.readingChecks.findSome? id = some e := by
      rw [← Option.isSome_iff_exists, List.findSome?_isSome_iff]
      refine ⟨variableCheck sources.environment field, ?_, ?_⟩
      · exact List.mem_append_right _ (List.mem_map_of_mem hfield)
      · simp [variableCheck, hs, hf]
    obtain ⟨e, he⟩ := hreading
    refine ⟨e, fun given direct => ?_⟩
    -- What is read does not depend on the values that are given.
    have hsame : ({ sources with given } : Sources).readingChecks = sources.readingChecks := rfl
    rw [← errorOf?_eq_some_iff, errorOf?_load direct, Sources.checks, List.findSome?_append, hsame,
      he]
    rfl

/-- Sources with several faults at once: a variable that is no number although its field is also
given, a name that is no field's, and a threshold that is a text, besides the file that is named. -/
def faultySources (named : Option (String × Node)) : Sources where
  directory := "/work"
  project := .file "max_sub_lines = 'many'".toUTF8.data.toList
  named := named
  environment := fun name => if name = "METRICS_LITE_MAX_SUB_COMPLEXITY" then some "ten" else none
  given := [(complexityField, .int 5), ("depth", .int 1)]

theorem load_first_failing_check_sample :
    "config_file" ∉ (faultySources none).given.map Prod.fst ∧
      load (faultySources (some ("custom.toml", .directory))) = .error (.fault (configurationFault
        "Invalid config file 'custom.toml': [Errno 21] Is a directory: 'custom.toml'")) ∧
      load (faultySources none) = .error (.fault (.setting "METRICS_LITE_MAX_SUB_COMPLEXITY"
        (.text "ten") "invalid literal for int() with base 10: 'ten'")) := by
  have direct : "config_file" ∉ (faultySources none).given.map Prod.fst := by decide
  have project :
      contentsCheck ("/work" ++ "/" ++ projectFile) (faultySources none).project = none :=
    rfl
  have named : contentsCheck "custom.toml" .directory = some (.fault (configurationFault
      "Invalid config file 'custom.toml': [Errno 21] Is a directory: 'custom.toml'")) := by
    have message : "Invalid config file '" ++ "custom.toml" ++ "': " ++
        OpenFault.directory.message "custom.toml" =
        "Invalid config file 'custom.toml': [Errno 21] Is a directory: 'custom.toml'" := by
      decide +kernel
    rw [← message]
    rfl
  have lines : variableCheck (faultySources none).environment (linesField, .count) = none := by
    have unset : (faultySources none).environment (Environment.variableName linesField) = none := by
      decide +kernel
    simp [variableCheck, unset]
  have complexity : variableCheck (faultySources none).environment (complexityField, .count) =
      some (.fault (.setting "METRICS_LITE_MAX_SUB_COMPLEXITY" (.text "ten")
        "invalid literal for int() with base 10: 'ten'")) := by
    have name : Environment.variableName complexityField = "METRICS_LITE_MAX_SUB_COMPLEXITY" := by
      decide +kernel
    have read : errorOf? (Environment.readInt "ten") = some (.noNumber "ten") := by decide +kernel
    have message : (Environment.ReadFault.noNumber "ten").message =
        "invalid literal for int() with base 10: 'ten'" := by
      decide +kernel
    have set : (faultySources none).environment "METRICS_LITE_MAX_SUB_COMPLEXITY" = some "ten" :=
      rfl
    simp [variableCheck, name, set, Environment.readAs, read, message]
  refine ⟨direct, ?_, ?_⟩
  · obtain ⟨first, -⟩ :=
      load_first_failing_check (faultySources (some ("custom.toml", .directory))) direct
    refine (first _).2 ⟨[_, none], _, congrArg (none :: none :: · :: _) named, ?_⟩
    simp only [List.forall_mem_cons]
    exact ⟨trivial, trivial, List.forall_mem_nil _⟩
  · obtain ⟨first, -⟩ := load_first_failing_check (faultySources none) direct
    refine (first _).2 ⟨[_, none, none, _], _,
      congrArg (_ :: none :: none :: _ :: · :: _) complexity, ?_⟩
    simp only [List.forall_mem_cons]
    exact ⟨project, trivial, trivial, lines, List.forall_mem_nil _⟩

/-- The project's file is the only source. -/
def projectOnly (octets : List UInt8) : Sources :=
  ⟨"/work", .file octets, none, fun _ => none, []⟩

/-- A table of the project's file that decides about all settings. -/
theorem projectOnly_reads {octets : List UInt8} {table : Toml.Table}
    (decoded : decodeFile ("/work" ++ "/" ++ projectFile) (.file octets) = .ok table) :
    (projectOnly octets).Reads (effectiveTable table) [] :=
  ⟨.inr ⟨table, decoded, rfl⟩, .inl ⟨rfl, rfl⟩, fun _ _ _ => nofun⟩

/-- An array is refused as a threshold, but with a long number in it the fault cannot be told. -/
theorem load_long_array {octets : List UInt8} {n : Int}
    (decoded : decodeFile ("/work" ++ "/" ++ projectFile) (.file octets) =
      .ok [(linesField, .list [.int n])])
    (hn : Value.unwritable ≤ n.natAbs) :
    load (projectOnly octets) = .error (.breakdown .badValue) := by
  have merged : (merge (projectOnly octets)).mapError Failure.fault =
      .ok [(linesField, .list [.int n])] :=
    mapError_eq_ok_iff.2 (merge_of_reads (projectOnly_reads decoded))
  have names : unexpected? [(linesField, .list [.int n])] = none := by
    simp [unexpected?, fieldNames]
  have refused : threshold linesField (.list [.int n]) = .error .unwritable := by
    simp [threshold, Value.printable, Value.printableAll, hn]
  have fields : ofFields [(linesField, .list [.int n])] = .error .unwritable := by
    have given (default : Value) :
        ([(linesField, Value.list [.int n])].lookup linesField).getD default = .list [.int n] := by
      simp
    unfold ofFields
    simp only [names, given, refused, bind, Except.bind]
  unfold load
  rw [if_neg (by simp [projectOnly]), merged]
  simp only [bind, Except.bind, fields]
  rfl

/-- A settings file whose threshold is an array of one number with many hexadecimal digits. -/
def longNumberFile (digits : Nat) : List UInt8 :=
  (String.ofList (Toml.arrayLine linesField.toList (List.replicate digits 'f'))).toUTF8.data.toList

theorem decodeFile_longNumberFile (path : String) (digits : Nat) :
    decodeFile path (.file (longNumberFile digits)) = .ok [(linesField,
      .list [.int (Toml.numberIn 16 ('0' :: '0' :: List.replicate digits 'f'))])] := by
  have hf : ∀ c ∈ List.replicate digits 'f', Toml.isHexDigit c ∧ c ≠ '_' := by
    intro c hc
    rw [List.eq_of_mem_replicate hc]
    decide
  have key : linesField.toList = 'm' :: "ax_sub_lines".toList := by decide +kernel
  have keyChars : "ax_sub_lines".toList.all Toml.isKeyChar := by decide +kernel
  have read := Toml.read_arrayLine (c := 'm') (by decide) (List.all_eq_true.1 keyChars) hf
  rw [← key, String.ofList_toList] at read
  unfold decodeFile longNumberFile
  simp only [Node.contents, decodeUtf8_toUTF8, read]

theorem load_longNumberFile {digits : Nat} (h : Value.unwritable < 16 ^ digits) :
    load (projectOnly (longNumberFile digits)) = .error (.breakdown .badValue) := by
  refine load_long_array (decodeFile_longNumberFile _ digits) ?_
  have hnumber := Toml.numberIn_replicate digits
  rw [Int.natAbs_natCast]
  omega

theorem unwritable_threshold :
    load (projectOnly (longNumberFile 3600)) = .error (.breakdown .badValue) :=
  load_longNumberFile (by decide +kernel)

end Settings

end CodeMetrics
