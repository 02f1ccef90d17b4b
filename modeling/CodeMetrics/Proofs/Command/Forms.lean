import CodeMetrics.Command.Request
import CodeMetrics.Proofs.Except
import Mathlib.Data.List.TakeWhile

/-!
# How the options of a report are written

The arguments of a report are options and others.  They say the options that stand among them, each
with its value, one after the other.  How an option is written is a relation that does not know the
reader: by a long name or by letters joined behind one hyphen, with the value in the same argument
or in the next one (`Says`).  The reader reads what the arguments say (`readAll_of_says`), and reads
nothing that they do not say (`says_of_readAll`).
-/

namespace CodeMetrics

namespace CommandOption

variable {α : Type} {names : OptionNames α} {a : α}

theorem readAll_done {arg : String} (hdashes : arg ≠ "--") (hoption : isOption arg) {b : α}
    (hread : read names a arg = .ok (.done b)) (mixed : Bool) (rest : List String) :
    readAll names mixed a (arg :: rest) = readAll names mixed b rest := by
  conv => lhs; unfold readAll
  rw [if_neg hdashes, if_pos hoption, hread]

theorem readAll_needsValue {arg : String} (hdashes : arg ≠ "--") (hoption : isOption arg)
    {set : String → α} (hread : read names a arg = .ok (.needsValue set)) (mixed : Bool)
    (v : String) (rest : List String) :
    readAll names mixed a (arg :: v :: rest) = readAll names mixed (set v) rest := by
  conv => lhs; unfold readAll
  rw [if_neg hdashes, if_pos hoption, hread]

end CommandOption

/-- An option of a report, with the value that is written for it. -/
inductive ReportOption where
  | maxLines (value : String)
  | maxComplexity (value : String)
  | onlyErrors (on : Bool)
  | machineOnly (on : Bool)
  | config (path : String)
  | verbose
  | quiet
  | logFile (path : String)
deriving DecidableEq

/-- An option as it is named: complete, or without the value that it needs. -/
inductive OptionForm where
  | bare (o : ReportOption)
  | valued (o : String → ReportOption)

namespace ReportOption

/-- The names of the options. -/
def forms : List (String × OptionForm) :=
  [("--max-sub-lines", .valued maxLines), ("--max-sub-complexity", .valued maxComplexity),
    ("--show-only-errors", .bare (onlyErrors true)), ("--show-all", .bare (onlyErrors false)),
    ("--only-json", .bare (machineOnly true)), ("--with-tables", .bare (machineOnly false)),
    ("--config", .valued config), ("-c", .valued config), ("--verbose", .bare verbose),
    ("-v", .bare verbose), ("--quiet", .bare quiet), ("-q", .bare quiet),
    ("--log-file", .valued logFile)]

/-- Letters behind one hyphen that are options by themselves.  The last may have its value behind
it. -/
inductive Letters : List Char → List ReportOption → Prop
  | nil : Letters [] []
  | bare {c : Char} {o : ReportOption} {cs : List Char} {os : List ReportOption}
      (h : (String.ofList ['-', c], .bare o) ∈ forms) (rest : Letters cs os) :
      Letters (c :: cs) (o :: os)
  | valued {c : Char} {o : String → ReportOption} {v : List Char}
      (h : (String.ofList ['-', c], .valued o) ∈ forms) (given : v ≠ []) :
      Letters (c :: v) [o (String.ofList v)]

/-- Letters behind one hyphen of which the last still needs its value. -/
inductive OpenLetters : List Char → List ReportOption → (String → ReportOption) → Prop
  | valued {c : Char} {o : String → ReportOption}
      (h : (String.ofList ['-', c], .valued o) ∈ forms) : OpenLetters [c] [] o
  | bare {c : Char} {o : ReportOption} {cs : List Char} {os : List ReportOption}
      {o' : String → ReportOption} (h : (String.ofList ['-', c], .bare o) ∈ forms)
      (rest : OpenLetters cs os o') : OpenLetters (c :: cs) (o :: os) o'

/-- An argument that says options by itself. -/
inductive Word : String → List ReportOption → Prop
  | bare {name : String} {o : ReportOption} (h : (name, .bare o) ∈ forms)
      (long : name.startsWith "--") : Word name [o]
  | valued {name : String} {o : String → ReportOption} (h : (name, .valued o) ∈ forms)
      (long : name.startsWith "--") (v : String) : Word (name ++ "=" ++ v) [o v]
  | letters {cs : List Char} {os : List ReportOption} (h : Letters cs os) (some : cs ≠ []) :
      Word (String.ofList ('-' :: cs)) os

/-- An argument that says options, of which the last has the next argument as its value. -/
inductive OpenWord : String → List ReportOption → (String → ReportOption) → Prop
  | valued {name : String} {o : String → ReportOption} (h : (name, .valued o) ∈ forms)
      (long : name.startsWith "--") : OpenWord name [] o
  | letters {cs : List Char} {os : List ReportOption} {o : String → ReportOption}
      (h : OpenLetters cs os o) : OpenWord (String.ofList ('-' :: cs)) os o

/-- The arguments say options, one after the other, and there are other arguments among them.  Two
hyphens end the options. -/
inductive Says : List String → List ReportOption → List String → Prop
  | nil : Says [] [] []
  | ended (others : List String) : Says ("--" :: others) [] others
  | other {arg : String} {args others : List String} {said : List ReportOption}
      (h : arg = "-" ∨ ¬ arg.startsWith "-") (rest : Says args said others) :
      Says (arg :: args) said (arg :: others)
  | word {arg : String} {args others : List String} {os said : List ReportOption}
      (h : Word arg os) (rest : Says args said others) : Says (arg :: args) (os ++ said) others
  | openWord {arg : String} {args others : List String} {os said : List ReportOption}
      {o : String → ReportOption} (h : OpenWord arg os o) (v : String)
      (rest : Says args said others) : Says (arg :: v :: args) (os ++ o v :: said) others

/-! ## Reading one argument -/

/-- What an option sets among the arguments. -/
def set : ReportOption → ReportArguments → ReportArguments
  | maxLines v, a => { a with maxLines := some v }
  | maxComplexity v, a => { a with maxComplexity := some v }
  | onlyErrors on, a => { a with onlyErrors := some on }
  | machineOnly on, a => { a with machineOnly := some on }
  | config path, a => { a with config := some path }
  | verbose, a => { a with verbose := true }
  | quiet, a => { a with quiet := true }
  | logFile path, a => { a with logFile := some path }

/-- What options set, one after the other. -/
def setAll (said : List ReportOption) (a : ReportArguments) : ReportArguments :=
  said.foldl (fun a o => o.set a) a

theorem setAll_append (said more : List ReportOption) (a : ReportArguments) :
    setAll (said ++ more) a = setAll more (setAll said a) := List.foldl_append

end ReportOption

/-- What the reader does with an option that has this form. -/
def OptionForm.command : OptionForm → CommandOption ReportArguments
  | bare o => .flag o.set
  | valued o => .valued fun v => (o v).set

namespace ReportOption

theorem reportOptions_of_mem {name : String} {form : OptionForm} (h : (name, form) ∈ forms) :
    Request.reportOptions name = some form.command := by
  have all : ∀ p ∈ forms, Request.reportOptions p.1 = some p.2.command := by
    unfold forms
    repeat refine List.forall_mem_cons.2 ⟨rfl, ?_⟩
    exact List.forall_mem_nil _
  exact all _ h

/-- The reader knows no other names. -/
theorem exists_form {name : String} {option : CommandOption ReportArguments}
    (h : Request.reportOptions name = some option) :
    ∃ form, (name, form) ∈ forms ∧ form.command = option := by
  by_cases hname : name ∈ forms.map Prod.fst
  · obtain ⟨⟨_, form⟩, hform, rfl⟩ := List.mem_map.1 hname
    rw [reportOptions_of_mem hform] at h
    exact ⟨form, hform, Option.some.inj h⟩
  · simp only [forms, List.map_cons, List.map_nil, List.mem_cons, List.not_mem_nil, not_or] at hname
    simp only [Request.reportOptions, hname, or_self, if_false, reduceCtorEq] at h

theorem exists_bare {name : String} {f : ReportArguments → ReportArguments}
    (h : Request.reportOptions name = some (.flag f)) :
    ∃ o, (name, .bare o) ∈ forms ∧ f = o.set := by
  obtain ⟨form, hform, hcommand⟩ := exists_form h
  cases form with
  | bare o => exact ⟨o, hform, (CommandOption.flag.inj hcommand).symm⟩
  | valued o => cases hcommand

theorem exists_valued {name : String} {f : String → ReportArguments → ReportArguments}
    (h : Request.reportOptions name = some (.valued f)) :
    ∃ o, (name, .valued o) ∈ forms ∧ f = fun v => (o v).set := by
  obtain ⟨form, hform, hcommand⟩ := exists_form h
  cases form with
  | bare o => cases hcommand
  | valued o => exact ⟨o, hform, (CommandOption.valued.inj hcommand).symm⟩

/-- A name has two characters or more, none of them an equals sign. -/
theorem name_of_mem {name : String} {form : OptionForm} (h : (name, form) ∈ forms) :
    '=' ∉ name.toList ∧ 2 ≤ name.toList.length ∧ name ≠ "--" := by
  have all : ∀ p ∈ forms, '=' ∉ p.1.toList ∧ 2 ≤ p.1.toList.length ∧ p.1 ≠ "--" := by decide
  exact all _ h

open CommandOption (splitEquals isOption readLetters readAll)

theorem splitEquals_of_notMem {s : List Char} (h : '=' ∉ s) : splitEquals s = (s, none) := by
  have hall : ∀ c ∈ s, decide (c ≠ '=') := fun c hc => decide_eq_true fun hs => h (hs ▸ hc)
  unfold splitEquals
  rw [List.dropWhile_eq_nil_iff.2 hall]

theorem splitEquals_append {s : List Char} (h : '=' ∉ s) (v : List Char) :
    splitEquals (s ++ '=' :: v) = (s, some v) := by
  have hall : ∀ c ∈ s, decide (c ≠ '=') := fun c hc => decide_eq_true fun hs => h (hs ▸ hc)
  unfold splitEquals
  rw [List.dropWhile_append_of_pos hall, List.takeWhile_append_of_pos hall]
  exact congrArg (fun front => (front, some v)) (List.append_nil s)

/-- An argument is the name before its equals sign, and what stands behind. -/
theorem of_splitEquals {s name : List Char} {value? : Option (List Char)}
    (h : splitEquals s = (name, value?)) :
    s = name ++ (value?.map fun v => '=' :: v).getD [] := by
  unfold splitEquals at h
  have hsplit := List.takeWhile_append_dropWhile (p := fun c => decide (c ≠ '=')) (l := s)
  split at h
  · next hnil =>
    obtain ⟨rfl, rfl⟩ := Prod.mk.inj h
    exact (List.append_nil s).symm
  · next c value hcons =>
    obtain ⟨rfl, rfl⟩ := Prod.mk.inj h
    have hc := List.head_dropWhile_not (fun c => decide (c ≠ '=')) (l := s) (by rw [hcons]; nofun)
    simp only [hcons, List.head_cons, decide_eq_false_iff_not, ne_eq, not_not] at hc
    rw [hcons, hc] at hsplit
    exact hsplit.symm

theorem startsWith_dashes_iff {arg : String} :
    arg.startsWith "--" ↔ ['-', '-'] <+: arg.toList := String.startsWith_string_iff

/-- An option has something behind its first hyphen. -/
theorem isOption_iff {arg : String} :
    isOption arg ↔ ∃ cs, cs ≠ [] ∧ arg = String.ofList ('-' :: cs) := by
  have hstart : arg.startsWith "-" ↔ ['-'] <+: arg.toList := String.startsWith_string_iff
  rw [isOption, Bool.and_eq_true, hstart, decide_eq_true_eq]
  constructor
  · rintro ⟨⟨cs, hcs⟩, hne⟩
    refine ⟨cs, fun hnil => hne (String.toList_injective ?_), String.toList_injective ?_⟩
    · rw [← hcs, hnil]
      rfl
    · rw [← hcs, String.toList_ofList]
      rfl
  · rintro ⟨cs, hcs, rfl⟩
    refine ⟨⟨cs, (String.toList_ofList ..).symm⟩, fun heq => hcs ?_⟩
    have hlist := congrArg String.toList heq
    rw [String.toList_ofList] at hlist
    exact (List.cons.inj hlist).2

theorem not_isOption_iff {arg : String} :
    isOption arg = false ↔ arg = "-" ∨ ¬ arg.startsWith "-" := by
  rw [isOption, Bool.and_eq_false_iff, decide_eq_false_iff_not, not_not, Bool.not_eq_true, or_comm]

variable {cs : List Char} {os : List ReportOption} {o : String → ReportOption} {arg : String}
  {a b : ReportArguments}

theorem read_short (h : ¬ (String.ofList ('-' :: cs)).startsWith "--") (a : ReportArguments) :
    CommandOption.read Request.reportOptions a (String.ofList ('-' :: cs)) =
      readLetters Request.reportOptions a cs := by
  unfold CommandOption.read
  split
  rw [if_neg h, String.toList_ofList]
  rfl

/-! ### Letters -/

theorem readLetters_of_letters (h : Letters cs os) (a : ReportArguments) :
    readLetters Request.reportOptions a cs = .ok (.done (setAll os a)) := by
  induction h generalizing a with
  | nil => rfl
  | bare h rest ih =>
    rw [readLetters, reportOptions_of_mem h]
    exact ih _
  | valued h given =>
    rw [readLetters, reportOptions_of_mem h]
    exact if_neg (mt List.isEmpty_iff.1 given)

theorem readLetters_of_openLetters (h : OpenLetters cs os o) (a : ReportArguments) :
    readLetters Request.reportOptions a cs =
      .ok (.needsValue fun v => setAll (os ++ [o v]) a) := by
  induction h generalizing a with
  | valued h =>
    rw [readLetters, reportOptions_of_mem h]
    rfl
  | bare h rest ih =>
    rw [readLetters, reportOptions_of_mem h]
    exact ih _

theorem letters_of_readLetters (h : readLetters Request.reportOptions a cs = .ok (.done b)) :
    ∃ os, Letters cs os ∧ b = setAll os a := by
  induction cs generalizing a with
  | nil => exact ⟨[], .nil, (OptionStep.done.inj (Except.ok.inj h)).symm⟩
  | cons c rest ih =>
    unfold readLetters at h
    split at h
    · cases h
    · next f hname =>
      obtain ⟨o, hform, rfl⟩ := exists_bare hname
      obtain ⟨os, hletters, hb⟩ := ih h
      exact ⟨o :: os, .bare hform hletters, hb⟩
    · next f hname =>
      obtain ⟨o, hform, rfl⟩ := exists_valued hname
      split at h
      · cases h
      · next hrest =>
        exact ⟨_, .valued hform (mt List.isEmpty_iff.2 hrest),
          (OptionStep.done.inj (Except.ok.inj h)).symm⟩

theorem openLetters_of_readLetters {f : String → ReportArguments}
    (h : readLetters Request.reportOptions a cs = .ok (.needsValue f)) :
    ∃ os o, OpenLetters cs os o ∧ f = fun v => setAll (os ++ [o v]) a := by
  induction cs generalizing a with
  | nil => cases h
  | cons c rest ih =>
    unfold readLetters at h
    split at h
    · cases h
    · next g hname =>
      obtain ⟨o, hform, rfl⟩ := exists_bare hname
      obtain ⟨os, o', hletters, hf⟩ := ih h
      exact ⟨o :: os, o', .bare hform hletters, hf⟩
    · next g hname =>
      obtain ⟨o, hform, rfl⟩ := exists_valued hname
      split at h
      · next hrest =>
        rw [List.isEmpty_iff.1 hrest]
        exact ⟨[], o, .valued hform, (OptionStep.needsValue.inj (Except.ok.inj h)).symm⟩
      · cases h

/-! ### Words -/

/-- Letters of options are no hyphens. -/
theorem not_startsWith_dashes {c : Char} {form : OptionForm}
    (h : (String.ofList ['-', c], form) ∈ forms) (rest : List Char) :
    ¬ (String.ofList ('-' :: c :: rest)).startsWith "--" := by
  rw [startsWith_dashes_iff, String.toList_ofList]
  rintro ⟨t, ht⟩
  obtain rfl : '-' = c := (List.cons.inj (List.cons.inj ht).2).1
  exact (name_of_mem h).2.2 rfl

theorem Letters.isShort (h : Letters cs os) :
    ¬ (String.ofList ('-' :: cs)).startsWith "--" := by
  cases h with
  | nil => decide +kernel
  | bare h rest => exact not_startsWith_dashes h _
  | valued h given => exact not_startsWith_dashes h _

theorem OpenLetters.isShort (h : OpenLetters cs os o) :
    ¬ (String.ofList ('-' :: cs)).startsWith "--" := by
  cases h with
  | valued h => exact not_startsWith_dashes h _
  | bare h rest => exact not_startsWith_dashes h _

theorem ne_dashes_of_isShort (h : ¬ (String.ofList ('-' :: cs)).startsWith "--") :
    String.ofList ('-' :: cs) ≠ "--" := by
  rintro heq
  rw [heq] at h
  exact h (by decide +kernel)

theorem isOption_of_startsWith_dashes (h : arg.startsWith "--") : isOption arg := by
  obtain ⟨t, ht⟩ := startsWith_dashes_iff.1 h
  refine isOption_iff.2 ⟨'-' :: t, nofun, String.toList_injective ?_⟩
  rw [← ht, String.toList_ofList]
  rfl

/-- A long name is read as the option that it names. -/
theorem read_name {name : String} {form : OptionForm} (h : (name, form) ∈ forms)
    (long : name.startsWith "--") (a : ReportArguments) :
    name ≠ "--" ∧ isOption name ∧ CommandOption.read Request.reportOptions a name =
      match form with
      | .bare o => .ok (.done (o.set a))
      | .valued o => .ok (.needsValue fun v => (o v).set a) := by
  obtain ⟨hequals, -, hdashes⟩ := name_of_mem h
  refine ⟨hdashes, isOption_of_startsWith_dashes long, ?_⟩
  unfold CommandOption.read
  rw [splitEquals_of_notMem hequals]
  dsimp only
  rw [if_pos long, String.ofList_toList, reportOptions_of_mem h]
  cases form <;> rfl

theorem read_of_word (h : Word arg os) (a : ReportArguments) :
    arg ≠ "--" ∧ isOption arg ∧
      CommandOption.read Request.reportOptions a arg = .ok (.done (setAll os a)) := by
  cases h with
  | bare hform long => exact read_name hform long a
  | @valued name o hform long v =>
    obtain ⟨hequals, -, -⟩ := name_of_mem hform
    have hlist : (name ++ "=" ++ v).toList = name.toList ++ '=' :: v.toList := by
      rw [String.toList_append, String.toList_append, List.append_assoc]
      rfl
    have hlong : (name ++ "=" ++ v).startsWith "--" := by
      rw [startsWith_dashes_iff, hlist]
      exact (startsWith_dashes_iff.1 long).trans (List.prefix_append ..)
    refine ⟨fun hdashes => ?_, isOption_of_startsWith_dashes hlong, ?_⟩
    · have hmem : '=' ∈ (name ++ "=" ++ v).toList := by
        rw [hlist]
        exact List.mem_append_right _ List.mem_cons_self
      rw [hdashes] at hmem
      exact absurd hmem (by decide)
    · unfold CommandOption.read
      rw [hlist, splitEquals_append hequals]
      dsimp only
      rw [if_pos hlong, String.ofList_toList, reportOptions_of_mem hform]
      dsimp only [OptionForm.command]
      rw [String.ofList_toList]
      rfl
  | letters hletters some =>
    have hshort := hletters.isShort
    refine ⟨ne_dashes_of_isShort hshort, isOption_iff.2 ⟨_, some, rfl⟩, ?_⟩
    rw [read_short hshort, readLetters_of_letters hletters]

theorem read_of_openWord (h : OpenWord arg os o) (a : ReportArguments) :
    arg ≠ "--" ∧ isOption arg ∧ CommandOption.read Request.reportOptions a arg =
      .ok (.needsValue fun v => setAll (os ++ [o v]) a) := by
  cases h with
  | valued hform long => exact read_name hform long a
  | letters hletters =>
    have hshort := hletters.isShort
    refine ⟨ne_dashes_of_isShort hshort, isOption_iff.2 ⟨_, ?_, rfl⟩, ?_⟩
    · rintro rfl
      cases hletters
    · rw [read_short hshort, readLetters_of_openLetters hletters]

/-- The name of a long option is long when something stands behind it. -/
theorem startsWith_dashes_of_append {name : String} {form : OptionForm} (h : (name, form) ∈ forms)
    {rest : List Char} (long : ['-', '-'] <+: name.toList ++ rest) : name.startsWith "--" := by
  obtain ⟨-, hlength, -⟩ := name_of_mem h
  have hprefix := List.prefix_of_prefix_length_le long (List.prefix_append ..) hlength
  exact startsWith_dashes_iff.2 hprefix

/-- An argument that the reader takes for an option says options. -/
theorem word_of_read (hoption : isOption arg) {step : OptionStep ReportArguments}
    (h : CommandOption.read Request.reportOptions a arg = .ok step) :
    (∃ os, Word arg os ∧ step = .done (setAll os a)) ∨
      ∃ os o, OpenWord arg os o ∧ step = .needsValue fun v => setAll (os ++ [o v]) a := by
  by_cases long : arg.startsWith "--"
  · have hprefix := startsWith_dashes_iff.1 long
    unfold CommandOption.read at h
    generalize hparts : splitEquals arg.toList = parts at h
    obtain ⟨name, value?⟩ := parts
    have hlist := of_splitEquals hparts
    dsimp only at h
    rw [if_pos long] at h
    split at h
    · next f hname =>
      obtain ⟨o, hform, rfl⟩ := exists_bare hname
      obtain rfl : arg = String.ofList name := String.toList_injective (by simp [hlist])
      exact .inl ⟨[o], .bare hform long, (Except.ok.inj h).symm⟩
    · next f hname =>
      obtain ⟨o, hform, rfl⟩ := exists_valued hname
      obtain rfl : arg = String.ofList name := String.toList_injective (by simp [hlist])
      exact .inr ⟨[], o, .valued hform long, (Except.ok.inj h).symm⟩
    · next f v hname =>
      obtain ⟨o, hform, rfl⟩ := exists_valued hname
      obtain rfl : arg = String.ofList name ++ "=" ++ String.ofList v :=
        String.toList_injective (by simp [hlist])
      have hlong : (String.ofList name).startsWith "--" := by
        rw [hlist] at hprefix
        exact startsWith_dashes_of_append hform (by rwa [String.toList_ofList])
      exact .inl ⟨[o (String.ofList v)], .valued hform hlong _, (Except.ok.inj h).symm⟩
    · cases h
  · obtain ⟨cs, hcs, rfl⟩ := isOption_iff.1 hoption
    rw [read_short long] at h
    cases step with
    | done b =>
      obtain ⟨os, hletters, rfl⟩ := letters_of_readLetters h
      exact .inl ⟨os, .letters hletters hcs, rfl⟩
    | needsValue f =>
      obtain ⟨os, o, hletters, rfl⟩ := openLetters_of_readLetters h
      exact .inr ⟨os, o, .letters hletters, rfl⟩

/-! ## Reading all arguments -/

/-- The reader reads what a row of arguments says. -/
theorem readAll_of_says {args others : List String} {said : List ReportOption}
    (h : Says args said others) (a : ReportArguments) :
    readAll Request.reportOptions true a args = .ok (setAll said a, others) := by
  induction h generalizing a with
  | nil =>
    unfold readAll
    rfl
  | ended others =>
    unfold readAll
    exact if_pos rfl
  | other h rest ih =>
    have hoption := not_isOption_iff.2 h
    unfold readAll
    rw [if_neg, hoption, if_neg Bool.false_ne_true, if_pos rfl, ih]
    · rfl
    · rintro rfl
      exact absurd hoption (by decide +kernel)
  | word h rest ih =>
    obtain ⟨hdashes, hoption, hread⟩ := read_of_word h a
    rw [CommandOption.readAll_done hdashes hoption hread, ih, setAll_append]
  | openWord h v rest ih =>
    obtain ⟨hdashes, hoption, hread⟩ := read_of_openWord h a
    rw [CommandOption.readAll_needsValue hdashes hoption hread, ih, setAll_append, setAll_append]
    rfl

/-- What the reader reads is said by the arguments. -/
theorem says_of_readAll {args others : List String}
    (h : readAll Request.reportOptions true a args = .ok (b, others)) :
    ∃ said, Says args said others ∧ b = setAll said a := by
  fun_induction readAll Request.reportOptions true a args generalizing others with
  | case1 a =>
    obtain ⟨rfl, rfl⟩ := Prod.mk.inj (Except.ok.inj h)
    exact ⟨[], .nil, rfl⟩
  | case2 a rest =>
    obtain ⟨rfl, rfl⟩ := Prod.mk.inj (Except.ok.inj h)
    exact ⟨[], .ended _, rfl⟩
  | case3 a arg rest hdashes hoption e hread => cases h
  | case4 a arg hdashes hoption a' rest hread ih =>
    obtain ⟨os, hword, hstep⟩ | ⟨os, o, -, hstep⟩ := word_of_read hoption hread
    · obtain rfl := OptionStep.done.inj hstep
      obtain ⟨said, hsays, rfl⟩ := ih h
      exact ⟨os ++ said, .word hword hsays, (setAll_append ..).symm⟩
    · cases hstep
  | case5 a arg hdashes hoption set hread => cases h
  | case6 a arg hdashes hoption set v rest hread ih =>
    obtain ⟨os, -, hstep⟩ | ⟨os, o, hword, hstep⟩ := word_of_read hoption hread
    · cases hstep
    · obtain rfl := OptionStep.needsValue.inj hstep
      obtain ⟨said, hsays, rfl⟩ := ih h
      refine ⟨os ++ o v :: said, .openWord hword v hsays, ?_⟩
      show setAll said (setAll (os ++ [o v]) a) = _
      rw [setAll_append, setAll_append]
      rfl
  | case7 a arg rest hdashes hoption hmixed ih =>
    obtain ⟨⟨a', others'⟩, hrest, h⟩ := bind_eq_ok_iff.1 h
    obtain ⟨rfl, rfl⟩ := Prod.mk.inj (Except.ok.inj h)
    obtain ⟨said, hsays, rfl⟩ := ih hrest
    exact ⟨said, .other (not_isOption_iff.1 (Bool.eq_false_iff.2 hoption)) hsays, rfl⟩
  | case8 a arg rest hdashes hoption hmixed => exact absurd rfl hmixed

end ReportOption

end CodeMetrics
