import CodeMetrics.Proofs.Settings.Spelling
import CodeMetrics.Proofs.Settings.Switches

/-!
# Variables and direct values

A field that has neither a variable nor a direct value can be set in either way: a variable with a
text of a value and the value itself lead to the same settings or the same failure, whatever all
other sources say (`load_set_eq_load_give`).  Merged values count only through the value of each
field and the first name that is no field's (`ofFields_congr`), and neither depends on which of the
two highest sources a field comes from.
-/

namespace CodeMetrics

/-! ## The environment with one more variable -/

namespace Environment

/-- The environment with a text for the variable of a field. -/
def set (environment : String → Option String) (field s : String) : String → Option String :=
  fun name => if name = variableName field then some s else environment name

theorem variableName_injective : ∀ f ∈ targets, ∀ g ∈ targets,
    variableName f.1 = variableName g.1 → f = g := by
  decide +kernel

variable {environment : String → Option String} {f : String × Target}

/-- The environment ends up with the value of the field's own variable. -/
theorem lastItem?_values (hf : f ∈ targets) :
    Value.lastItem? (values environment) f.1 = (fieldValue? environment f).map Prod.snd := by
  cases hitem : Value.lastItem? (values environment) f.1 with
  | none =>
    rw [Value.lastItem?_eq_none_iff] at hitem
    cases hvalue : fieldValue? environment f with
    | none => rfl
    | some e =>
      obtain ⟨s, -, he⟩ := Option.bind_eq_some_iff.1 hvalue
      obtain ⟨v, -, rfl⟩ := Option.map_eq_some_iff.1 he
      exact absurd rfl (hitem _ (List.mem_filterMap.2 ⟨f, hf, hvalue⟩))
  | some v =>
    obtain ⟨g, hg, hvalue⟩ := List.mem_filterMap.1 (Value.mem_of_lastItem? hitem)
    obtain ⟨s, -, he⟩ := Option.bind_eq_some_iff.1 hvalue
    obtain ⟨w, -, he⟩ := Option.map_eq_some_iff.1 he
    have hname : g.1 = f.1 := (Prod.mk.inj he).1
    have hfield : g = f := Prod.ext hname (target_unique g hg f hf hname)
    rw [← hfield, hvalue]
    rfl

theorem fieldValue?_set_self {v : Value} {s : String} (hread : readAs f.2 s = .ok v) :
    fieldValue? (set environment f.1 s) f = some (f.1, v) := by
  simp [fieldValue?, set, hread, Except.toOption]

theorem fieldValue?_set_of_ne {s : String} {g : String × Target} (hf : f ∈ targets)
    (hg : g ∈ targets) (h : g ≠ f) :
    fieldValue? (set environment f.1 s) g = fieldValue? environment g := by
  have hname : variableName g.1 ≠ variableName f.1 := fun e => h (variableName_injective g hg f hf e)
  rw [fieldValue?, set, if_neg hname, fieldValue?]

/-- A variable that can be read leaves the failures of the environment as they are. -/
theorem errorOf?_read_set (hf : f ∈ targets) {v : Value} {s : String}
    (hread : readAs f.2 s = .ok v) (unset : environment (variableName f.1) = none) :
    errorOf? (read (set environment f.1 s)) = errorOf? (read environment) := by
  have fault : Function.Injective Failure.fault := fun _ _ h => Failure.fault.inj h
  apply Option.map_injective fault
  show (errorOf? (readVariables _ targets)).map _ = (errorOf? (readVariables _ targets)).map _
  rw [Settings.errorOf?_readVariables, Settings.errorOf?_readVariables]
  congr 1
  apply List.map_congr_left
  intro g hg
  by_cases h : g = f
  · subst h
    simp [Settings.variableCheck, set, unset, hread]
  · have hname : variableName g.1 ≠ variableName f.1 :=
      fun e => h (variableName_injective g hg f hf e)
    rw [Settings.variableCheck, set, if_neg hname, Settings.variableCheck]

end Environment

/-! ## One more direct value -/

namespace Value

theorem lastItem?_append {α : Type} (before after : List (String × α)) (k : String) :
    lastItem? (before ++ after) k = (lastItem? after k).or (lastItem? before k) := by
  unfold lastItem?
  rw [List.reverse_append, List.lookup_append]

theorem lastItem?_insert {α : Type} (before after : List (String × α)) (key k : String) (item : α) :
    lastItem? (before ++ (key, item) :: after) k =
      (lastItem? after k).or (if k = key then some item else lastItem? before k) := by
  rw [lastItem?_append, lastItem?_cons, Option.or_assoc]
  by_cases h : k = key <;> simp [h]

end Value

namespace Settings

/-! ## Loading through fields and names -/

/-- Values make up the same settings, or have the same fault, if each field has the same value in
them and their first unknown name is the same. -/
theorem ofFields_congr {fields fields' : List (String × Value)}
    (names : unexpected? fields = unexpected? fields')
    (values : ∀ field ∈ fieldNames, fields.lookup field = fields'.lookup field) :
    ofFields fields = ofFields fields' := by
  have hl := values linesField (by simp [fieldNames])
  have hc := values complexityField (by simp [fieldNames])
  have ho := values onlyErrorsField (by simp [fieldNames])
  have hm := values machineOnlyField (by simp [fieldNames])
  unfold ofFields
  simp only [names, hl, hc, ho, hm]

theorem load_congr {sources sources' : Sources}
    (direct : "config_file" ∈ sources.given.map Prod.fst ↔
      "config_file" ∈ sources'.given.map Prod.fst)
    (fails : errorOf? (merge sources) = errorOf? (merge sources'))
    (fields : ∀ merged merged', merge sources = .ok merged → merge sources' = .ok merged' →
      ofFields merged = ofFields merged') :
    load sources = load sources' := by
  unfold load
  by_cases h : "config_file" ∈ sources.given.map Prod.fst
  · rw [if_pos (List.contains_iff_mem.2 h), if_pos (List.contains_iff_mem.2 (direct.1 h))]
  · rw [if_neg (fun hc => h (List.contains_iff_mem.1 hc)),
      if_neg (fun hc => h (direct.2 (List.contains_iff_mem.1 hc)))]
    cases hm : merge sources with
    | error e =>
      rw [hm, errorOf?_error, eq_comm, errorOf?_eq_some_iff] at fails
      rw [fails]
    | ok merged =>
      rw [hm, errorOf?_ok, eq_comm, errorOf?_eq_none_iff] at fails
      obtain ⟨merged', hm'⟩ := fails
      rw [hm']
      exact congrArg (Except.mapError loadFailure) (fields merged merged' hm hm')

theorem lookup_merged (sources : Sources) (project named : Toml.Table) (field : String) :
    ((sources.layers project named).foldl Value.overlay []).lookup field =
      (Value.lastItem? sources.givenValues field).or
        ((Value.lastItem? (Environment.values sources.environment) field).or
          (Value.winner? [named, project] field)) := by
  rw [Value.lookup_layers, List.lookup_nil, Option.or_none, ← Value.winner?_cons,
    ← Value.winner?_cons]
  rfl

/-! ## Two ways to set a field -/

section

variable {f : String × Environment.Target} {v : Value} {s : String} {sources : Sources}
  {before after : List (String × Value)}

/-- The sources with a text for the variable of a field. -/
def Sources.set (sources : Sources) (field s : String) : Sources :=
  { sources with environment := Environment.set sources.environment field s }

/-- The sources with other direct values. -/
def Sources.give (sources : Sources) (given : List (String × Value)) : Sources :=
  { sources with given := given }

theorem isGiven_of_writes {target : Environment.Target} (writes : Environment.Writes target v s) :
    isGiven v := by
  cases writes <;> rfl

theorem givenValues_give_append (lower upper : List (String × Value)) :
    (sources.give (lower ++ upper)).givenValues =
      (sources.give lower).givenValues ++ (sources.give upper).givenValues :=
  List.filter_append lower upper

theorem givenValues_of_given (given : sources.given = before ++ after) :
    sources.givenValues = (sources.give before).givenValues ++ (sources.give after).givenValues := by
  rw [← givenValues_give_append, ← given]
  rfl

theorem givenValues_give_cons (hv : isGiven v) (field : String) :
    (sources.give ((field, v) :: after)).givenValues =
      (field, v) :: (sources.give after).givenValues :=
  List.filter_cons_of_pos hv

theorem lastItem?_givenValues_eq_none {field : String}
    (ungiven : ∀ e ∈ sources.given, e.1 = field → e.2 = .null) :
    Value.lastItem? sources.givenValues field = none := by
  rw [Value.lastItem?_eq_none_iff]
  intro e he hname
  obtain ⟨hmem, hgiven⟩ := List.mem_filter.1 he
  have hgiven : isGiven e.2 := hgiven
  rw [ungiven e hmem hname] at hgiven
  cases hgiven

theorem lookup_merged_set (hf : f ∈ Environment.targets)
    (hread : Environment.readAs f.2 s = .ok v)
    (ungiven : ∀ e ∈ sources.given, e.1 = f.1 → e.2 = .null) (project named : Toml.Table)
    {field : String} (hfield : field ∈ fieldNames) :
    (((sources.set f.1 s).layers project named).foldl Value.overlay []).lookup field =
      if field = f.1 then some v
      else ((sources.layers project named).foldl Value.overlay []).lookup field := by
  have hnames : fieldNames = Environment.targets.map Prod.fst := rfl
  rw [hnames] at hfield
  obtain ⟨g, hg, rfl⟩ := List.mem_map.1 hfield
  rw [lookup_merged, lookup_merged, Sources.set, Environment.lastItem?_values hg,
    Environment.lastItem?_values hg]
  by_cases h : g = f
  · subst h
    rw [if_pos rfl, Environment.fieldValue?_set_self hread]
    show (Value.lastItem? sources.givenValues g.1).or _ = _
    rw [lastItem?_givenValues_eq_none ungiven]
    rfl
  · have hname : g.1 ≠ f.1 := fun e => h (Prod.ext e (Environment.target_unique g hg f hf e))
    rw [if_neg hname, Environment.fieldValue?_set_of_ne hf hg h]
    rfl

theorem lookup_merged_give (hv : isGiven v) (given : sources.given = before ++ after)
    {field : String} (ungiven : ∀ e ∈ sources.given, e.1 = field → e.2 = .null)
    (project named : Toml.Table) (name : String) :
    (((sources.give (before ++ (field, v) :: after)).layers project named).foldl Value.overlay
        []).lookup name =
      if name = field then some v
      else ((sources.layers project named).foldl Value.overlay []).lookup name := by
  rw [lookup_merged, lookup_merged, givenValues_give_append, givenValues_give_cons hv,
    givenValues_of_given given, Value.lastItem?_insert, Value.lastItem?_append]
  by_cases h : name = field
  · subst h
    have hnone : Value.lastItem? (sources.give after).givenValues name = none := by
      apply lastItem?_givenValues_eq_none
      intro e he
      exact ungiven e (given ▸ List.mem_append_right before he)
    rw [if_pos rfl, if_pos rfl, hnone]
    rfl
  · rw [if_neg h, if_neg h]
    rfl

/-- A field's own name is not the first unknown one. -/
theorem unexpected?_insert {field : String} (hfield : field ∈ fieldNames) :
    unexpected? (before ++ (field, v) :: after) = unexpected? (before ++ after) := by
  unfold unexpected?
  rw [List.find?_append, List.find?_append, List.find?_cons_of_neg]
  simpa using hfield

theorem unexpected?_give {field : String} (hfield : field ∈ fieldNames) (hv : isGiven v)
    (given : sources.given = before ++ after) (fields : List (String × Value)) :
    unexpected? (fields ++ (sources.give (before ++ (field, v) :: after)).givenValues) =
      unexpected? (fields ++ sources.givenValues) := by
  rw [givenValues_give_append, givenValues_give_cons hv, ← List.append_assoc,
    unexpected?_insert hfield, List.append_assoc, ← givenValues_of_given given]

/-- Take a field whose variable is not set and that is not given directly.  A text of a value in the
variable and the value itself, given directly among the other values, lead to the same settings or to
the same failure, whatever the files, the other variables and the other values are.  In settings that
are loaded the field has the value. -/
theorem load_set_eq_load_give (hf : f ∈ Environment.targets) (writes : Environment.Writes f.2 v s)
    (unset : sources.environment (Environment.variableName f.1) = none)
    (given : sources.given = before ++ after)
    (ungiven : ∀ e ∈ sources.given, e.1 = f.1 → e.2 = .null) :
    load (sources.set f.1 s) = load (sources.give (before ++ (f.1, v) :: after)) ∧
      ∀ t, load (sources.set f.1 s) = .ok t → t.toFields.lookup f.1 = some v := by
  have hread := Environment.readAs_of_writes writes
  have hv := isGiven_of_writes writes
  have hfield : f.1 ∈ fieldNames := List.mem_map_of_mem hf
  constructor
  · apply load_congr
    · have hconfig : "config_file" ≠ f.1 := by
        intro h
        rw [← h] at hfield
        revert hfield
        decide
      show _ ∈ sources.given.map Prod.fst ↔ _ ∈ (before ++ (f.1, v) :: after).map Prod.fst
      simp [given, hconfig]
    · rw [errorOf?_merge, errorOf?_merge]
      rw [Sources.set, Environment.errorOf?_read_set hf hread unset]
      rfl
    · intro merged merged' hset hgive
      rw [merge_eq_ok hset, merge_eq_ok hgive]
      apply ofFields_congr
      · rw [unexpected?_layers, unexpected?_layers, unexpected?_give hfield hv given]
        rfl
      · intro field hmem
        rw [lookup_merged_set hf hread ungiven _ _ hmem, lookup_merged_give hv given ungiven]
        rfl
  · intro t ht
    have hvalue := lookup_merged_set hf hread ungiven (sources.set f.1 s).projectTable
      (sources.set f.1 s).namedTable hfield
    rw [if_pos rfl, Value.lookup_layers, List.lookup_nil, Option.or_none] at hvalue
    rw [lookup_of_load ht hfield, Sources.value, hvalue]
    rfl

end

/-- A text of the number seven: with a plus sign, two zeros, an underscore and blanks around. -/
def sevenText : Environment.NumberText 7 where
  before := [' ']
  sign := ['+']
  zeros := 2
  run := ['0', '_', '0', '7']
  after := ['\u00a0', '\n']
  blankBefore := List.all_eq_true.1 (by decide +kernel)
  signed := .plus (by decide)
  grouped := .spaced '0' (.next '0' (.last '7'))
  short := by decide
  blankAfter := List.all_eq_true.1 (by decide +kernel)

/-- Sources without variables, in which the threshold of the lines is given as nothing. -/
def unsetSources : Sources := { sampleSources with environment := fun _ => none }

theorem load_set_eq_load_give_sample :
    (linesField, .count) ∈ Environment.targets ∧
      Environment.Writes .count (.int 7) (String.ofList sevenText.chars) ∧
      unsetSources.environment (Environment.variableName linesField) = none ∧
      unsetSources.given = [(onlyErrorsField, .bool false)] ++ [(linesField, .null)] ∧
      (∀ e ∈ unsetSources.given, e.1 = linesField → e.2 = .null) ∧
      load (unsetSources.set linesField " +0_07\u00a0\n") =
        load (unsetSources.give [(onlyErrorsField, .bool false), (linesField, .int 7),
          (linesField, .null)]) ∧
      ∃ t, load (unsetSources.set linesField " +0_07\u00a0\n") = .ok t ∧ t.maxComplexity = 25 ∧
        t.toFields.lookup linesField = some (.int 7) := by
  have target : (linesField, Environment.Target.count) ∈ Environment.targets := by
    simp [Environment.targets]
  have writes := Environment.Writes.count sevenText
  have ungiven : ∀ e ∈ unsetSources.given, e.1 = linesField → e.2 = .null := by
    intro e he hname
    have apart : onlyErrorsField ≠ linesField := by decide
    rcases List.mem_cons.1 he with rfl | he
    · exact absurd hname apart
    · rw [List.mem_singleton.1 he]
  have loads : (load (unsetSources.set linesField " +0_07\u00a0\n")).toOption.map
      Settings.maxComplexity = some 25 := by
    decide +kernel
  obtain ⟨t, ht, hcomplexity⟩ := exists_of_toOption_map_eq_some loads
  have unset : unsetSources.environment (Environment.variableName linesField) = none := rfl
  have given : unsetSources.given = [(onlyErrorsField, .bool false)] ++ [(linesField, .null)] := rfl
  obtain ⟨same, value⟩ := load_set_eq_load_give target writes unset given ungiven
  exact ⟨target, writes, unset, given, ungiven, same, t, ht, hcomplexity, value t ht⟩

end Settings

end CodeMetrics
