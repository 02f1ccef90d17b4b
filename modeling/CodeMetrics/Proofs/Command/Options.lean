import CodeMetrics.Proofs.Command.Forms

/-!
# Options that keep to their part

Where every option changes what is visible of some settings in a way that depends on nothing else,
so does a whole command line (`readAll_respects`).  The options of a report do so for everything but
the journal: arguments for the journal change nothing else (`read_journalWords`).
-/

namespace CodeMetrics

variable {α β : Type}

/-- What is visible of the result of an argument. -/
def OptionStep.map (f : α → β) : OptionStep α → OptionStep β
  | done a => .done (f a)
  | needsValue set => .needsValue fun v => f (set v)

namespace CommandOption

/-- What is visible of settings decides what is visible of them after the option. -/
def Respects (f : α → β) : CommandOption α → Prop
  | flag set => ∀ a a', f a = f a' → f (set a) = f (set a')
  | valued set => ∀ v a a', f a = f a' → f (set v a) = f (set v a')

variable {names : OptionNames α} {f : α → β} {a a' : α}

/-- An argument that stands in front of the others whatever they are can be put there later. -/
theorem map_kept (f : α → β) (arg : String) (x : Except Misuse (α × List String)) :
    (x >>= fun (a, others) => .ok (a, arg :: others)).map (Prod.map f id) =
      (x.map (Prod.map f id)).map (Prod.map id (arg :: ·)) := by
  cases x <;> rfl

section

variable (h : ∀ name o, names name = some o → o.Respects f) (same : f a = f a')
include h same

theorem readLetters_respects (letters : List Char) :
    (readLetters names a letters).map (OptionStep.map f) =
      (readLetters names a' letters).map (OptionStep.map f) := by
  induction letters generalizing a a' with
  | nil => exact congrArg (fun b => Except.ok (OptionStep.done b)) same
  | cons c rest ih =>
    unfold readLetters
    cases hoption : names (String.ofList ['-', c]) with
    | none => rfl
    | some o =>
      have respects := h _ o hoption
      cases o with
      | flag set => exact ih (respects a a' same)
      | valued set =>
        dsimp only
        split
        · exact congrArg (fun g => Except.ok (OptionStep.needsValue g))
            (funext fun v => respects v a a' same)
        · exact congrArg (fun b => Except.ok (OptionStep.done b)) (respects _ a a' same)

theorem read_respects (arg : String) :
    (read names a arg).map (OptionStep.map f) = (read names a' arg).map (OptionStep.map f) := by
  unfold read
  generalize splitEquals arg.toList = parts
  obtain ⟨name, value?⟩ := parts
  dsimp only
  split
  · cases hoption : names (String.ofList name) with
    | none => cases value? <;> rfl
    | some o =>
      have respects := h _ o hoption
      cases o with
      | flag set =>
        cases value? with
        | none => exact congrArg (fun b => Except.ok (OptionStep.done b)) (respects a a' same)
        | some v => rfl
      | valued set =>
        cases value? with
        | none =>
          exact congrArg (fun g => Except.ok (OptionStep.needsValue g))
            (funext fun v => respects v a a' same)
        | some v => exact congrArg (fun b => Except.ok (OptionStep.done b)) (respects _ a a' same)
  · exact readLetters_respects h same _

theorem error_of_read {arg : String} {e : Misuse} (hread : read names a arg = .error e) :
    read names a' arg = .error e := by
  have hstep := read_respects h same arg
  rw [hread] at hstep
  cases hread' : read names a' arg with
  | error e' => rfl
  | ok step =>
    rw [hread'] at hstep
    cases hstep

theorem done_of_read {arg : String} {b : α} (hread : read names a arg = .ok (.done b)) :
    ∃ b', read names a' arg = .ok (.done b') ∧ f b = f b' := by
  have hstep := read_respects h same arg
  rw [hread] at hstep
  cases hread' : read names a' arg with
  | error e =>
    rw [hread'] at hstep
    cases hstep
  | ok step =>
    rw [hread'] at hstep
    cases step with
    | done b' => exact ⟨b', rfl, OptionStep.done.inj (Except.ok.inj hstep)⟩
    | needsValue set => cases Except.ok.inj hstep

theorem needsValue_of_read {arg : String} {set : String → α}
    (hread : read names a arg = .ok (.needsValue set)) :
    ∃ set', read names a' arg = .ok (.needsValue set') ∧ ∀ v, f (set v) = f (set' v) := by
  have hstep := read_respects h same arg
  rw [hread] at hstep
  cases hread' : read names a' arg with
  | error e =>
    rw [hread'] at hstep
    cases hstep
  | ok step =>
    rw [hread'] at hstep
    cases step with
    | done b' => cases Except.ok.inj hstep
    | needsValue set' =>
      exact ⟨set', rfl, congrFun (OptionStep.needsValue.inj (Except.ok.inj hstep))⟩

/-- The same arguments, read into settings that look the same, give settings that look the same. -/
theorem readAll_respects (mixed : Bool) (args : List String) :
    (readAll names mixed a args).map (Prod.map f id) =
      (readAll names mixed a' args).map (Prod.map f id) := by
  fun_induction readAll names mixed a args generalizing a' with
  | case1 a =>
    unfold readAll
    exact congrArg (fun b => Except.ok (b, [])) same
  | case2 a rest =>
    unfold readAll
    rw [if_pos rfl]
    exact congrArg (fun b => Except.ok (b, rest)) same
  | case3 a arg rest hdashes hoption e hread =>
    unfold readAll
    rw [if_neg hdashes, if_pos hoption, error_of_read h same hread]
  | case4 a arg hdashes hoption b rest hread ih =>
    obtain ⟨b', hread', hb⟩ := done_of_read h same hread
    rw [ih hb, readAll_done hdashes hoption hread']
  | case5 a arg hdashes hoption set hread =>
    obtain ⟨set', hread', -⟩ := needsValue_of_read h same hread
    unfold readAll
    rw [if_neg hdashes, if_pos hoption, hread']
  | case6 a arg hdashes hoption set v rest hread ih =>
    obtain ⟨set', hread', hset⟩ := needsValue_of_read h same hread
    rw [ih (hset v), readAll_needsValue hdashes hoption hread']
  | case7 a arg rest hdashes hoption hmixed ih =>
    conv => rhs; unfold readAll
    rw [if_neg hdashes, if_neg hoption, if_pos hmixed]
    exact (map_kept f arg _).trans ((congrArg _ (ih same)).trans (map_kept f arg _).symm)
  | case8 a arg rest hdashes hoption hmixed =>
    unfold readAll
    rw [if_neg hdashes, if_neg hoption, if_neg hmixed]
    exact congrArg (fun b => Except.ok (b, arg :: rest)) same

end

end CommandOption

/-! ## Arguments for the journal -/

/-- The arguments without those for the journal. -/
def ReportArguments.withoutJournal (a : ReportArguments) : ReportArguments :=
  { a with verbose := false, quiet := false, logFile := none }

namespace Request

/-- The request without what it asks of the journal. -/
def withoutJournal : Request → Request
  | version => version
  | report a records => report a.withoutJournal records
  | summary r => summary { r with verbose := false }

theorem respects_flag {set : ReportArguments → ReportArguments}
    (apart : ∀ a, (set a).withoutJournal = (set a.withoutJournal).withoutJournal) :
    (CommandOption.flag set).Respects ReportArguments.withoutJournal := by
  intro a a' same
  rw [apart, same, ← apart]

theorem respects_valued {set : String → ReportArguments → ReportArguments}
    (apart : ∀ v a, (set v a).withoutJournal = (set v a.withoutJournal).withoutJournal) :
    (CommandOption.valued set).Respects ReportArguments.withoutJournal := by
  intro v a a' same
  rw [apart, same, ← apart]

/-- No option of a report sets anything in a way that depends on the journal. -/
theorem respects_reportOptions (name : String) :
    ∀ o, reportOptions name = some o → o.Respects ReportArguments.withoutJournal := by
  have next {c : Prop} [Decidable c] {o' : CommandOption ReportArguments}
      {rest : Option (CommandOption ReportArguments)}
      (first : o'.Respects ReportArguments.withoutJournal)
      (others : ∀ o, rest = some o → o.Respects ReportArguments.withoutJournal) :
      ∀ o, (if c then some o' else rest) = some o → o.Respects ReportArguments.withoutJournal := by
    intro o h
    by_cases hc : c
    · rw [if_pos hc] at h
      exact Option.some.inj h ▸ first
    · rw [if_neg hc] at h
      exact others o h
  unfold reportOptions
  repeat' apply next
  all_goals
    first | exact respects_flag fun _ => rfl | exact respects_valued fun _ _ => rfl | exact nofun

/-- The arguments that say how much the journal takes. -/
def journalFlags : List String := ["--verbose", "-v", "--quiet", "-q"]

theorem exists_word_of_journalFlag {word : String} (h : word ∈ journalFlags) :
    ∃ o, ReportOption.Word word [o] ∧ (o = .verbose ∨ o = .quiet) := by
  simp only [journalFlags, List.mem_cons, List.not_mem_nil, or_false] at h
  rcases h with rfl | rfl | rfl | rfl
  · exact ⟨.verbose, .bare (by simp [ReportOption.forms]) (by decide +kernel), .inl rfl⟩
  · exact ⟨.verbose, .letters (.bare (by simp [ReportOption.forms]) .nil)
      (List.cons_ne_nil 'v' []), .inl rfl⟩
  · exact ⟨.quiet, .bare (by simp [ReportOption.forms]) (by decide +kernel), .inr rfl⟩
  · exact ⟨.quiet, .letters (.bare (by simp [ReportOption.forms]) .nil)
      (List.cons_ne_nil 'q' []), .inr rfl⟩

theorem read_journalFlag {word : String} (h : word ∈ journalFlags) (a : ReportArguments) :
    word ≠ "--" ∧ CommandOption.isOption word ∧ ∃ b, b.withoutJournal = a.withoutJournal ∧
      CommandOption.read reportOptions a word = .ok (.done b) := by
  obtain ⟨o, hsaid, ho⟩ := exists_word_of_journalFlag h
  obtain ⟨hdashes, hoption, hread⟩ := ReportOption.read_of_word hsaid a
  refine ⟨hdashes, hoption, o.set a, ?_, hread⟩
  rcases ho with rfl | rfl <;> rfl

theorem read_journalFile (a : ReportArguments) :
    CommandOption.isOption "--log-file" ∧ CommandOption.read reportOptions a "--log-file" =
      .ok (.needsValue fun path => { a with logFile := some path }) := by
  have hsaid : ReportOption.OpenWord "--log-file" [] .logFile :=
    .valued (by simp [ReportOption.forms]) (by decide +kernel)
  exact (ReportOption.read_of_openWord hsaid a).2

/-- Arguments that say how much the journal takes and where it goes. -/
inductive JournalWords : List String → Prop
  | nil : JournalWords []
  | flag {word : String} {words : List String} (h : word ∈ journalFlags)
      (rest : JournalWords words) : JournalWords (word :: words)
  | file (path : String) {words : List String} (rest : JournalWords words) :
      JournalWords ("--log-file" :: path :: words)

theorem readAll_journalWords {words : List String} (h : JournalWords words) (args : List String)
    (a : ReportArguments) :
    (CommandOption.readAll reportOptions true a (words ++ args)).map
        (Prod.map ReportArguments.withoutJournal id) =
      (CommandOption.readAll reportOptions true a args).map
        (Prod.map ReportArguments.withoutJournal id) := by
  induction h generalizing a with
  | nil => rfl
  | flag hword rest ih =>
    obtain ⟨hdashes, hoption, b, hb, hread⟩ := read_journalFlag hword a
    rw [List.cons_append, CommandOption.readAll_done hdashes hoption hread, ih]
    exact CommandOption.readAll_respects respects_reportOptions hb true args
  | file path rest ih =>
    obtain ⟨hoption, hread⟩ := read_journalFile a
    rw [List.cons_append, List.cons_append,
      CommandOption.readAll_needsValue (by decide) hoption hread, ih]
    have hsame : ({ a with logFile := some path } : ReportArguments).withoutJournal =
        a.withoutJournal := rfl
    exact CommandOption.readAll_respects respects_reportOptions hsame true args

/-- A report without its journal is made of what the options give without the journal. -/
theorem read_report_withoutJournal (args : List String) :
    (read ("report" :: args)).map withoutJournal =
      ((CommandOption.readAll reportOptions true
        ⟨none, none, none, none, none, false, false, none⟩ args).map
          (Prod.map ReportArguments.withoutJournal id)).bind fun
        | (a, [records]) => .ok (.report a records)
        | _ => .error .misuse := by
  have command : CommandOption.readAll programOptions false false ("report" :: args) =
      .ok (false, "report" :: args) := by
    unfold CommandOption.readAll
    rw [if_neg (by decide), if_neg (by decide +kernel)]
    rfl
  unfold read
  rw [command]
  change (readReport args).map withoutJournal = _
  unfold readReport
  dsimp only
  cases CommandOption.readAll reportOptions true
    ⟨none, none, none, none, none, false, false, none⟩ args with
  | error e => rfl
  | ok result => obtain ⟨a, _ | ⟨_, _ | ⟨_, _⟩⟩⟩ := result <;> rfl

/-- Arguments for the journal, put before the others, change a report in nothing else. -/
theorem read_journalWords {words : List String} (h : JournalWords words) (args : List String) :
    (read ("report" :: (words ++ args))).map withoutJournal =
      (read ("report" :: args)).map withoutJournal := by
  rw [read_report_withoutJournal, read_report_withoutJournal, readAll_journalWords h]

end Request

end CodeMetrics
