import CodeMetrics.Settings.Load
import CodeMetrics.Proofs.Except
import CodeMetrics.Proofs.Value.Entries

/-!
# Where each setting comes from

Settings are loaded field by field: each has the value of the highest source that has one, the values
that are given directly standing above the environment, the named file, the project's file and the
standard.  `load_layered` says so for all sources that can be read, and when loading succeeds: no
source may hold an unknown name, but thresholds are checked only in the value that wins.
-/

namespace CodeMetrics

/-! ## Settings from fields -/

namespace Settings

/-- The value of a field where nothing else is said. -/
def standardValue (field : String) : Value := (standard.toFields.lookup field).getD .null

theorem threshold_eq_ok_iff {name : String} {v : Value} {n : Nat} :
    threshold name v = .ok n ↔ v = .int n := by
  unfold threshold
  cases v with
  | int i =>
    dsimp only
    by_cases h : i < 0
    · rw [if_pos h]
      refine iff_of_false ?_ ?_
      · split <;> exact nofun
      · intro hi
        have := Value.int.inj hi
        omega
    · rw [if_neg h, Except.ok.injEq, Value.int.injEq]
      omega
  | _ =>
    dsimp only
    split <;> exact ⟨nofun, nofun⟩

theorem unexpected?_eq_none_iff {fields : List (String × Value)} :
    unexpected? fields = none ↔ ∀ e ∈ fields, e.1 ∈ fieldNames := by
  unfold unexpected?
  rw [Option.map_eq_none_iff, List.find?_eq_none]
  simp

/-- Fields make up settings when each name is a field's and the thresholds are whole numbers from
zero on; the settings then hold the values of the fields, or the standard ones. -/
theorem ofFields_eq_ok_iff {fields : List (String × Value)} {s : Settings} :
    ofFields fields = .ok s ↔
      (∀ e ∈ fields, e.1 ∈ fieldNames) ∧
        s.toFields =
          fieldNames.map fun name => (name, (fields.lookup name).getD (standardValue name)) := by
  have hfields : (s.toFields =
      fieldNames.map fun name => (name, (fields.lookup name).getD (standardValue name))) ↔
      (fields.lookup linesField).getD (.int standard.maxLines) = .int s.maxLines ∧
      (fields.lookup complexityField).getD (.int standard.maxComplexity) =
        .int s.maxComplexity ∧
      (fields.lookup onlyErrorsField).getD standard.onlyErrors = s.onlyErrors ∧
      (fields.lookup machineOnlyField).getD standard.machineOnly = s.machineOnly := by
    simp only [toFields, fieldNames, List.map_cons, List.map_nil, List.cons.injEq, Prod.mk.injEq,
      true_and, and_true]
    constructor
    · rintro ⟨hl, hc, ho, hm⟩
      exact ⟨hl.symm, hc.symm, ho.symm, hm.symm⟩
    · rintro ⟨hl, hc, ho, hm⟩
      exact ⟨hl.symm, hc.symm, ho.symm, hm.symm⟩
  rw [hfields, ← unexpected?_eq_none_iff]
  unfold ofFields
  rcases hu : unexpected? fields with _ | f
  · simp only [bind_eq_ok_iff, threshold_eq_ok_iff, true_and]
    constructor
    · rintro ⟨maxLines, hl, maxComplexity, hc, h⟩
      obtain rfl := Except.ok.inj h
      exact ⟨hl, hc, rfl, rfl⟩
    · rintro ⟨hl, hc, ho, hm⟩
      refine ⟨s.maxLines, hl, s.maxComplexity, hc, ?_⟩
      rw [ho, hm]
  · exact ⟨nofun, nofun⟩

end Settings

/-! ## The environment -/

namespace Environment

/-- Every variable of a field that is set can be read. -/
def Readable (environment : String → Option String) (fields : List (String × Target)) : Prop :=
  ∀ f ∈ fields, ∀ s, environment (variableName f.1) = some s → ∃ v, readAs f.2 s = .ok v

/-- The value of a field that its variable gives, if it is set and can be read. -/
def fieldValue? (environment : String → Option String) (f : String × Target) :
    Option (String × Value) :=
  (environment (variableName f.1)).bind fun s =>
    (readAs f.2 s).toOption.map fun v => (f.1, v)

/-- The values that the environment gives. -/
def values (environment : String → Option String) : List (String × Value) :=
  targets.filterMap (fieldValue? environment)

theorem readVariables_of_readable {environment : String → Option String}
    {fields : List (String × Target)} (h : Readable environment fields) :
    readVariables environment fields = .ok (fields.filterMap (fieldValue? environment)) := by
  induction fields with
  | nil => rfl
  | cons f rest ih =>
    obtain ⟨field, target⟩ := f
    obtain ⟨hf, hrest⟩ := List.forall_mem_cons.1 h
    have ih := ih hrest
    rw [readVariables]
    cases hs : environment (variableName field) with
    | none =>
      have hnone : fieldValue? environment (field, target) = none := by simp [fieldValue?, hs]
      simp only [List.filterMap_cons, hnone, ih]
    | some s =>
      obtain ⟨v, hv⟩ := hf s hs
      have hsome : fieldValue? environment (field, target) = some (field, v) := by
        simp [fieldValue?, hs, show readAs target s = .ok v from hv, Except.toOption]
      simp only [List.filterMap_cons, hsome, show readAs target s = .ok v from hv, ih]
      rfl

/-- The environment knows no other names than those of the fields. -/
theorem mem_fieldNames_of_mem_values {environment : String → Option String}
    {e : String × Value} (h : e ∈ values environment) : e.1 ∈ Settings.fieldNames := by
  obtain ⟨f, hf, he⟩ := List.mem_filterMap.1 h
  obtain ⟨s, -, he⟩ := Option.bind_eq_some_iff.1 he
  obtain ⟨v, -, rfl⟩ := Option.map_eq_some_iff.1 he
  have hnames : Settings.fieldNames = targets.map Prod.fst := rfl
  rw [hnames]
  exact List.mem_map_of_mem hf

end Environment

/-! ## Files -/

namespace Settings

/-- The sources can be read: the project's file is absent or holds a table, and so for the file that
is named, which must be there; what counts of the tables is `project` and `named`.  Every variable
of a field that is set can be read too. -/
structure Sources.Reads (sources : Sources) (project named : Toml.Table) : Prop where
  project : (sources.project.present = false ∧ project = []) ∨
    ∃ table, decodeFile (sources.directory ++ "/" ++ projectFile) sources.project = .ok table ∧
      project = effectiveTable table
  named : (sources.named = none ∧ named = []) ∨
    ∃ path node table, sources.named = some (path, node) ∧ decodeFile path node = .ok table ∧
      named = effectiveTable table
  environment : Environment.Readable sources.environment Environment.targets

theorem present_of_decodeFile {path : String} {node : Node} {table : Toml.Table}
    (h : decodeFile path node = .ok table) : node.present := by
  cases node with
  | file octets => rfl
  | directory => rfl
  | absent => cases h
  | behindFile => cases h

theorem readFile_of_decodeFile {path : String} {node : Node} {table : Toml.Table}
    (h : decodeFile path node = .ok table) : readFile path node = .ok (effectiveTable table) := by
  rw [readFile, h]
  rfl

/-- The values that are given directly. -/
def Sources.givenValues (sources : Sources) : List (String × Value) :=
  sources.given.filter fun (_, v) => isGiven v

/-- The tables of all sources, the lowest first. -/
def Sources.layers (sources : Sources) (project named : Toml.Table) :
    List (List (String × Value)) :=
  [project, named, Environment.values sources.environment, sources.givenValues]

/-- The value of a field: that of the highest source that has one, or the standard one. -/
def Sources.value (sources : Sources) (project named : Toml.Table) (field : String) : Value :=
  (Value.winner? (sources.layers project named).reverse field).getD (standardValue field)

variable {sources : Sources} {project named : Toml.Table}

theorem merge_of_reads (reads : sources.Reads project named) :
    merge sources = .ok ((sources.layers project named).foldl Value.overlay []) := by
  obtain ⟨hproject, hnamed, henvironment⟩ := reads
  have hp : readProject sources.directory sources.project = .ok project := by
    unfold readProject
    rcases hproject with ⟨absent, rfl⟩ | ⟨table, decoded, rfl⟩
    · rw [absent]
      rfl
    · rw [if_pos (present_of_decodeFile decoded)]
      exact readFile_of_decodeFile decoded
  have hn : readNamed sources.named = .ok named := by
    rcases hnamed with ⟨none, rfl⟩ | ⟨path, node, table, some, decoded, rfl⟩
    · rw [none]
      rfl
    · rw [some, readNamed, if_pos (present_of_decodeFile decoded)]
      exact readFile_of_decodeFile decoded
  have he := Environment.readVariables_of_readable henvironment
  unfold merge
  refine bind_eq_ok_iff.2 ⟨_, hp, ?_⟩
  refine bind_eq_ok_iff.2 ⟨_, hn, ?_⟩
  exact bind_eq_ok_iff.2 ⟨_, he, rfl⟩

/-- Every name in the merged values is a field's exactly when the names in both files and of all
values that are given are. -/
theorem names_of_layers (sources : Sources) (project named : Toml.Table) :
    (∀ e ∈ (sources.layers project named).foldl Value.overlay [], e.1 ∈ fieldNames) ↔
      (∀ e ∈ project ++ named, e.1 ∈ fieldNames) ∧
        ∀ e ∈ sources.given, isGiven e.2 → e.1 ∈ fieldNames := by
  have hkeys : ∀ entries : List (String × Value),
      (∀ e ∈ entries, e.1 ∈ fieldNames) ↔ ∀ k ∈ entries.map Prod.fst, k ∈ fieldNames :=
    fun entries => List.forall_mem_map.symm
  rw [hkeys]
  simp only [Value.mem_keys_layers]
  constructor
  · intro h
    refine ⟨fun e he => ?_, fun e he hg => ?_⟩
    · rcases List.mem_append.1 he with he | he
      · exact h e.1 (.inr ⟨project, by simp [Sources.layers], List.mem_map_of_mem he⟩)
      · exact h e.1 (.inr ⟨named, by simp [Sources.layers], List.mem_map_of_mem he⟩)
    · have hmem : e ∈ sources.givenValues := List.mem_filter.2 ⟨he, hg⟩
      exact h e.1 (.inr ⟨sources.givenValues, by simp [Sources.layers], List.mem_map_of_mem hmem⟩)
  · rintro ⟨hfiles, hgiven⟩ k (hk | ⟨layer, hlayer, hk⟩)
    · cases hk
    · obtain ⟨e, he, rfl⟩ := List.mem_map.1 hk
      simp only [Sources.layers, List.mem_cons, List.not_mem_nil, or_false] at hlayer
      rcases hlayer with rfl | rfl | rfl | rfl
      · exact hfiles e (List.mem_append_left _ he)
      · exact hfiles e (List.mem_append_right _ he)
      · exact Environment.mem_fieldNames_of_mem_values he
      · obtain ⟨he, hg⟩ := List.mem_filter.1 he
        exact hgiven e he hg

/-! ## Loading -/

theorem load_eq_ok_iff (reads : sources.Reads project named) {s : Settings} :
    load sources = .ok s ↔
      "config_file" ∉ sources.given.map Prod.fst ∧
        ((∀ e ∈ project ++ named, e.1 ∈ fieldNames) ∧
          ∀ e ∈ sources.given, isGiven e.2 → e.1 ∈ fieldNames) ∧
        s.toFields = fieldNames.map fun field => (field, sources.value project named field) := by
  have hvalue : ∀ field, (((sources.layers project named).foldl Value.overlay []).lookup
      field).getD (standardValue field) = sources.value project named field := by
    intro field
    rw [Value.lookup_layers, List.lookup_nil, Option.or_none]
    rfl
  unfold load
  by_cases hc : (sources.given.map Prod.fst).contains "config_file"
  · rw [if_pos hc]
    exact ⟨nofun, fun h => absurd (List.contains_iff_mem.1 hc) h.1⟩
  · have hnot : "config_file" ∉ sources.given.map Prod.fst := fun h =>
      hc (List.contains_iff_mem.2 h)
    rw [if_neg hc, merge_of_reads reads, and_iff_right hnot, ← names_of_layers]
    simp only [← hvalue]
    rw [← ofFields_eq_ok_iff]
    exact mapError_eq_ok_iff

/-- Take sources that can be read.  Loading succeeds exactly when every name in the two files and of
every value that is given is a field's, and the winning value of each threshold is a whole number
from zero on; the named file itself cannot be given as a value.  Each field then has the value of
the highest source that has one: the values given, the environment, the named file, the project's
file, the standard. -/
theorem load_layered (reads : sources.Reads project named) :
    ((∃ s, load sources = .ok s) ↔
      "config_file" ∉ sources.given.map Prod.fst ∧
        (∀ e ∈ project ++ named, e.1 ∈ fieldNames) ∧
        (∀ e ∈ sources.given, isGiven e.2 → e.1 ∈ fieldNames) ∧
        ∀ field ∈ [linesField, complexityField],
          ∃ n : Int, sources.value project named field = .int n ∧ 0 ≤ n) ∧
      ∀ s, load sources = .ok s →
        s.toFields = fieldNames.map fun field => (field, sources.value project named field) := by
  refine ⟨⟨?_, ?_⟩, fun s h => ((load_eq_ok_iff reads).1 h).2.2⟩
  · rintro ⟨s, h⟩
    obtain ⟨hc, ⟨hfiles, hgiven⟩, hvalues⟩ := (load_eq_ok_iff reads).1 h
    simp only [toFields, fieldNames, List.map_cons, List.map_nil, List.cons.injEq, Prod.mk.injEq,
      true_and, and_true] at hvalues
    obtain ⟨hlines, hcomplexity, -, -⟩ := hvalues
    refine ⟨hc, hfiles, hgiven, fun field hfield => ?_⟩
    simp only [List.mem_cons, List.not_mem_nil, or_false] at hfield
    rcases hfield with rfl | rfl
    · exact ⟨s.maxLines, hlines.symm, by omega⟩
    · exact ⟨s.maxComplexity, hcomplexity.symm, by omega⟩
  · rintro ⟨hc, hfiles, hgiven, hthresholds⟩
    obtain ⟨m, hm, hmpos⟩ := hthresholds linesField (by simp)
    obtain ⟨n, hn, hnpos⟩ := hthresholds complexityField (by simp)
    let s : Settings := ⟨m.toNat, n.toNat, sources.value project named onlyErrorsField,
      sources.value project named machineOnlyField⟩
    have hvalues :
        s.toFields = fieldNames.map fun field => (field, sources.value project named field) := by
      have hm' : (m.toNat : Int) = m := Int.toNat_of_nonneg hmpos
      have hn' : (n.toNat : Int) = n := Int.toNat_of_nonneg hnpos
      simp [s, toFields, fieldNames, hm, hn, hm', hn']
    exact ⟨s, (load_eq_ok_iff reads).2 ⟨hc, ⟨hfiles, hgiven⟩, hvalues⟩⟩

/-- Sources that all say something: the project's file has a table that hides an unknown name, and a
threshold in it that is no number but is set again. -/
def sampleSources : Sources where
  directory := "/work"
  project := .file
    "depth = 1\n[report]\nmax_sub_lines = 'many'\nshow_only_errors = true".toUTF8.data.toList
  named := some ("custom.toml",
    .file "max_sub_complexity = 25\nonly_machine_output = true".toUTF8.data.toList)
  environment := fun name => if name = "METRICS_LITE_MAX_SUB_LINES" then some " 1_0 " else none
  given := [(onlyErrorsField, .bool false), (linesField, .null)]

theorem load_layered_sample :
    ∃ project named, sampleSources.Reads project named ∧
      ∃ s, load sampleSources = .ok s ∧
        s.toFields = [(linesField, .int 10), (complexityField, .int 25),
          (onlyErrorsField, .bool false), (machineOnlyField, .bool true)] := by
  have set : sampleSources.environment (Environment.variableName linesField) = some " 1_0 " := by
    decide +kernel
  have unset : ∀ field ∈ [complexityField, onlyErrorsField, machineOnlyField],
      sampleSources.environment (Environment.variableName field) = none := by
    decide +kernel
  have ten : Environment.readAs .count " 1_0 " = .ok (.int 10) := by
    have : Environment.readInt " 1_0 " = .ok 10 := toOption_eq_some_iff.1 (by decide +kernel)
    rw [Environment.readAs, this]
    rfl
  have readable : Environment.Readable sampleSources.environment Environment.targets := by
    intro f hf s hs
    rcases List.mem_cons.1 hf with rfl | hf
    · obtain rfl := Option.some.inj (set.symm.trans hs)
      exact ⟨.int 10, ten⟩
    · have hfield : f.1 ∈ [complexityField, onlyErrorsField, machineOnlyField] :=
        List.mem_map_of_mem hf
      rw [unset f.1 hfield] at hs
      cases hs
  have reads : sampleSources.Reads [(linesField, .text "many"), (onlyErrorsField, .bool true)]
      [(complexityField, .int 25), (machineOnlyField, .bool true)] :=
    ⟨.inr ⟨[("depth", .int 1), ("report", .dict _)], rfl, rfl⟩, .inr ⟨_, _, _, rfl, rfl, rfl⟩,
      readable⟩
  have given : Environment.values sampleSources.environment = [(linesField, .int 10)] := by
    have hc := unset complexityField (by simp)
    have ho := unset onlyErrorsField (by simp)
    have hm := unset machineOnlyField (by simp)
    simp [Environment.values, Environment.targets, Environment.fieldValue?, set, hc, ho, hm, ten,
      Except.toOption]
  have values : (fieldNames.map fun field => (field, sampleSources.value
      [(linesField, .text "many"), (onlyErrorsField, .bool true)]
      [(complexityField, .int 25), (machineOnlyField, .bool true)] field)) =
      [(linesField, .int 10), (complexityField, .int 25), (onlyErrorsField, .bool false),
        (machineOnlyField, .bool true)] := by
    unfold Sources.value Sources.layers
    rw [given]
    rfl
  obtain ⟨succeeds, fields⟩ := load_layered reads
  obtain ⟨s, hs⟩ := succeeds.2 ⟨by decide +kernel, by decide +kernel, by decide +kernel, by
    intro field hfield
    simp only [fieldNames, List.map_cons, List.cons.injEq, Prod.mk.injEq, true_and] at values
    simp only [List.mem_cons, List.not_mem_nil, or_false] at hfield
    rcases hfield with rfl | rfl
    · exact ⟨10, values.1, by decide⟩
    · exact ⟨25, values.2.1, by decide⟩⟩
  exact ⟨_, _, reads, s, hs, (fields s hs).trans values⟩

end Settings

end CodeMetrics
