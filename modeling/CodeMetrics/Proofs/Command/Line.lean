import CodeMetrics.Command.Basic
import CodeMetrics.Proofs.Command.Forms
import Mathlib.Data.List.Induction

/-!
# What the command line of a report says

A command line asks for a report on the records under a path, and says options (`AsksFor`).  What
the options give to the settings is said by the last of each kind (`Gives`): a threshold or a switch
that is not there gives nothing.  The program accepts a command line for a report exactly when it is
of this form and the files that it names are there (`accepted_iff`), and then makes the request that
the options say (`exists_request`).
-/

namespace CodeMetrics

namespace ReportOption

open CommandOption (splitEquals isOption readLetters readAll)

/-- The command line asks for a report on the records under a path, and says options. -/
def AsksFor (args : List String) (said : List ReportOption) (records : String) : Prop :=
  ∃ words, (args = "report" :: words ∨ args = "--" :: "report" :: words) ∧ Says words said [records]

/-! ## What options give -/

/-- The value of the last option that has one of the kind that is asked for. -/
def last? {α : Type} (value? : ReportOption → Option α) (said : List ReportOption) : Option α :=
  (said.filterMap value?).getLast?

def maxLines? : ReportOption → Option String
  | maxLines v => some v
  | _ => none

def maxComplexity? : ReportOption → Option String
  | maxComplexity v => some v
  | _ => none

def onlyErrors? : ReportOption → Option Bool
  | onlyErrors on => some on
  | _ => none

def machineOnly? : ReportOption → Option Bool
  | machineOnly on => some on
  | _ => none

def config? : ReportOption → Option String
  | config path => some path
  | _ => none

def logFile? : ReportOption → Option String
  | logFile path => some path
  | _ => none

/-- A threshold that is not there gives nothing, and one that is there the number that is written,
which must be one from zero on. -/
inductive GivesThreshold : Option String → Value → Prop
  | absent : GivesThreshold none .null
  | number {text : String} {n : Nat} (h : Environment.readInt text = .ok n) :
      GivesThreshold (some text) (.int n)

/-- A switch that is not there gives nothing. -/
inductive GivesSwitch : Option Bool → Value → Prop
  | absent : GivesSwitch none .null
  | given (on : Bool) : GivesSwitch (some on) (.bool on)

/-- What options give to the settings: a value under each name, which is `null` when no option is
there that gives one. -/
inductive Gives (said : List ReportOption) : List (String × Value) → Prop
  | intro {lines complexity errors machine : Value}
      (hlines : GivesThreshold (last? maxLines? said) lines)
      (hcomplexity : GivesThreshold (last? maxComplexity? said) complexity)
      (herrors : GivesSwitch (last? onlyErrors? said) errors)
      (hmachine : GivesSwitch (last? machineOnly? said) machine) :
      Gives said [("max_sub_lines", lines), ("max_sub_complexity", complexity),
        ("show_only_errors", errors), ("only_machine_output", machine)]

/-- The sources of the settings: what lies around the run, the file that the last option for one
names, and what the options give. -/
def sources (s : Surroundings) (said : List ReportOption) (given : List (String × Value)) :
    Settings.Sources where
  directory := s.directory
  project := s.files.look "metrics-lite.toml"
  named := (last? config? said).map fun path => (Path.tidy path, s.files.look (Path.tidy path))
  environment := s.environment
  given := given

/-- The files that the command line names are there, and the journal does not go to a directory. -/
structure Found (look : String → Node) (said : List ReportOption) (records : String) : Prop where
  records : (look records).isFile
  config : ∀ path, last? config? said = some path → (look path).isFile
  log : ∀ path, last? logFile? said = some path → look path ≠ .directory

variable {arg : String}

/-! ## Reading the command line -/

theorem of_programOptions {name : String} {option : CommandOption Bool}
    (h : Request.programOptions name = some option) :
    name = "--version" ∧ option = .flag fun _ => true := by
  unfold Request.programOptions at h
  split at h
  · next hname => exact ⟨hname, (Option.some.inj h).symm⟩
  · cases h

/-- Before the name of a command there is no option but the one for the version. -/
theorem read_programOptions {before : Bool} (hoption : isOption arg) {step : OptionStep Bool}
    (h : CommandOption.read Request.programOptions before arg = .ok step) : step = .done true := by
  obtain ⟨cs, hcs, rfl⟩ := isOption_iff.1 hoption
  unfold CommandOption.read at h
  generalize splitEquals (String.ofList ('-' :: cs)).toList = parts at h
  obtain ⟨name, value?⟩ := parts
  dsimp only at h
  split at h
  · split at h
    · next hname =>
      obtain rfl := CommandOption.flag.inj (of_programOptions hname).2
      exact (Except.ok.inj h).symm
    · next hname => cases (of_programOptions hname).2
    · next hname => cases (of_programOptions hname).2
    · cases h
  · obtain ⟨c, rest, rfl⟩ := List.exists_cons_of_ne_nil hcs
    have hnone : Request.programOptions (String.ofList ['-', c]) = none := by
      refine if_neg fun hname => ?_
      have hlength := congrArg (fun name => name.toList.length) hname
      rw [String.toList_ofList] at hlength
      cases hlength
    rw [String.toList_ofList, List.drop_succ_cons, List.drop_zero, readLetters, hnone] at h
    cases h

/-- What is no option stands first, or behind two hyphens. -/
theorem of_readAll_programOptions {args rest : List String} {before after : Bool}
    (h : readAll Request.programOptions false before args = .ok (after, rest)) :
    (before = true → after = true) ∧ (after = false → rest = args ∨ args = "--" :: rest) := by
  fun_induction readAll Request.programOptions false before args with
  | case1 a =>
    obtain ⟨rfl, rfl⟩ := Prod.mk.inj (Except.ok.inj h)
    exact ⟨id, fun _ => .inl rfl⟩
  | case2 a rest =>
    obtain ⟨rfl, rfl⟩ := Prod.mk.inj (Except.ok.inj h)
    exact ⟨id, fun _ => .inr rfl⟩
  | case3 a arg rest hdashes hoption e hread => cases h
  | case4 a arg hdashes hoption a' rest hread ih =>
    obtain rfl := OptionStep.done.inj (read_programOptions hoption hread)
    have hafter := (ih h).1 rfl
    exact ⟨fun _ => hafter, fun hfalse => absurd (hfalse.symm.trans hafter) Bool.false_ne_true⟩
  | case5 a arg hdashes hoption set hread => cases h
  | case6 a arg hdashes hoption set v rest hread ih => cases read_programOptions hoption hread
  | case7 a arg rest hdashes hoption hmixed ih => exact absurd hmixed Bool.false_ne_true
  | case8 a arg rest hdashes hoption hmixed =>
    obtain ⟨rfl, rfl⟩ := Prod.mk.inj (Except.ok.inj h)
    exact ⟨id, fun _ => .inl rfl⟩

/-- The arguments of a report of which none is given. -/
def unset : ReportArguments := ⟨none, none, none, none, none, false, false, none⟩

theorem readReport_iff {words : List String} {arguments : ReportArguments} {records : String} :
    Request.readReport words = .ok (.report arguments records) ↔
      ∃ said, Says words said [records] ∧ arguments = setAll said unset := by
  constructor
  · intro h
    obtain ⟨⟨b, others⟩, hread, h⟩ := bind_eq_ok_iff.1 h
    split at h
    · next heq =>
      obtain ⟨rfl, rfl⟩ := Prod.mk.inj heq
      obtain ⟨rfl, rfl⟩ := Request.report.inj (Except.ok.inj h)
      exact says_of_readAll hread
    · cases h
  · rintro ⟨said, hsays, rfl⟩
    exact bind_eq_ok_iff.2 ⟨_, readAll_of_says hsays unset, rfl⟩

/-- The program takes a command line for a report exactly when it asks for one in the forms above,
and reads what its options say. -/
theorem read_report_iff {args : List String} {arguments : ReportArguments} {records : String} :
    Request.read args = .ok (.report arguments records) ↔
      ∃ said, AsksFor args said records ∧ arguments = setAll said unset := by
  constructor
  · intro h
    obtain ⟨⟨version, words⟩, hread, h⟩ := bind_eq_ok_iff.1 h
    obtain ⟨-, hwords⟩ := of_readAll_programOptions hread
    split at h
    · cases h
    · next heq =>
      obtain ⟨rfl, rfl⟩ := Prod.mk.inj heq
      obtain ⟨said, hsays, rfl⟩ := readReport_iff.1 h
      exact ⟨said, ⟨_, (hwords rfl).imp Eq.symm id, hsays⟩, rfl⟩
    · next heq =>
      obtain ⟨⟨_, _⟩, -, h⟩ := bind_eq_ok_iff.1 h
      split at h
      · cases h
      · cases h
    · cases h
  · rintro ⟨said, ⟨words, hargs, hsays⟩, rfl⟩
    have hread : readAll Request.programOptions false false args =
        .ok (false, "report" :: words) := by
      obtain rfl | rfl := hargs
      · unfold readAll
        rw [if_neg (by decide), if_neg (by decide +kernel)]
        rfl
      · unfold readAll
        exact if_pos rfl
    unfold Request.read
    rw [hread]
    exact readReport_iff.2 ⟨said, hsays, rfl⟩

/-! ## The request -/

section

variable {α : Type}

/-- A field that each option of a kind sets holds what the last of them says. -/
theorem field_setAll (field : ReportArguments → Option α) (value? : ReportOption → Option α)
    (h : ∀ o a, field (o.set a) = (value? o).or (field a)) (said : List ReportOption)
    (a : ReportArguments) : field (setAll said a) = (last? value? said).or (field a) := by
  induction said using List.reverseRecOn with
  | nil => rfl
  | append_singleton said o ih =>
    have hlast : last? value? (said ++ [o]) = (value? o).or (last? value? said) := by
      unfold last?
      rw [List.filterMap_append, List.getLast?_append]
      cases ho : value? o <;> simp [ho]
    rw [setAll_append, hlast, Option.or_assoc, ← ih]
    exact h o _

/-- A switch of the journal is on when one of the options turns it on. -/
theorem switch_setAll (field : ReportArguments → Bool) (o' : ReportOption)
    (h : ∀ o a, field (o.set a) = (decide (o = o') || field a)) (said : List ReportOption)
    (a : ReportArguments) : field (setAll said a) = (decide (o' ∈ said) || field a) := by
  induction said generalizing a with
  | nil => rfl
  | cons o said ih =>
    refine (ih (o.set a)).trans ?_
    rw [h, ← Bool.or_assoc]
    congr 1
    rw [Bool.eq_iff_iff, Bool.or_eq_true, decide_eq_true_eq, decide_eq_true_eq, decide_eq_true_eq,
      List.mem_cons, or_comm, eq_comm]

end

theorem setAll_unset (said : List ReportOption) :
    setAll said unset = ⟨last? maxLines? said, last? maxComplexity? said, last? onlyErrors? said,
      last? machineOnly? said, last? config? said, decide (verbose ∈ said),
      decide (quiet ∈ said), last? logFile? said⟩ := by
  have valued {α : Type} (field : ReportArguments → Option α) (value? : ReportOption → Option α)
      (h : ∀ o a, field (o.set a) = (value? o).or (field a)) (hunset : field unset = none) :
      field (setAll said unset) = last? value? said := by
    rw [field_setAll field value? h, hunset, Option.or_none]
  have switch (field : ReportArguments → Bool) (o' : ReportOption)
      (h : ∀ o a, field (o.set a) = (decide (o = o') || field a)) (hunset : field unset = false) :
      field (setAll said unset) = decide (o' ∈ said) := by
    rw [switch_setAll field o' h, hunset, Bool.or_false]
  have eta (a : ReportArguments) : a = ⟨a.maxLines, a.maxComplexity, a.onlyErrors, a.machineOnly,
    a.config, a.verbose, a.quiet, a.logFile⟩ := rfl
  rw [eta (setAll said unset)]
  congr 1
  · exact valued _ _ (fun o a => by cases o <;> rfl) rfl
  · exact valued _ _ (fun o a => by cases o <;> rfl) rfl
  · exact valued _ _ (fun o a => by cases o <;> rfl) rfl
  · exact valued _ _ (fun o a => by cases o <;> rfl) rfl
  · exact valued _ _ (fun o a => by cases o <;> rfl) rfl
  · exact switch _ _ (fun o a => by cases o <;> rfl) rfl
  · exact switch _ _ (fun o a => by cases o <;> rfl) rfl
  · exact valued _ _ (fun o a => by cases o <;> rfl) rfl

end ReportOption

namespace Request

theorem requireFile_eq_ok_iff {look : String → Node} {path : String} :
    requireFile look path = .ok () ↔ (look path).isFile := by
  unfold requireFile
  split
  · next h => exact iff_of_true rfl h
  · next h => exact iff_of_false nofun h

theorem refuseDirectory_eq_ok_iff {look : String → Node} {path : String} :
    refuseDirectory look path = .ok () ↔ look path ≠ .directory := by
  unfold refuseDirectory
  split
  · next h => exact iff_of_false nofun (not_not_intro h)
  · next h => exact iff_of_true rfl h

/-- A check of a path that may be absent, before something else. -/
theorem optional_eq_ok_iff {α : Type} (check : String → Except Misuse Unit) (path? : Option String)
    (next : Except Misuse α) {a : α} :
    (do if let some path := path? then check path
        next) = .ok a ↔ (∀ path, path? = some path → check path = .ok ()) ∧ next = .ok a := by
  cases path? with
  | none => exact ⟨fun h => ⟨nofun, h⟩, And.right⟩
  | some path =>
    refine bind_eq_ok_iff.trans ⟨?_, ?_⟩
    · rintro ⟨⟨⟩, hpath, h⟩
      exact ⟨fun _ heq => Option.some.inj heq ▸ hpath, h⟩
    · rintro ⟨hpath, h⟩
      exact ⟨(), hpath path rfl, h⟩

/-- What arguments are accepted, and the request that they make. -/
theorem checkReport_eq_ok_iff {look : String → Node} {a : ReportArguments} {records : String}
    {r : ReportRequest} :
    checkReport look a records = .ok r ↔
      ∃ lines complexity, threshold a.maxLines = .ok lines ∧
        threshold a.maxComplexity = .ok complexity ∧ (look records).isFile ∧
        (∀ path, a.config = some path → (look path).isFile) ∧
        (∀ path, a.logFile = some path → look path ≠ .directory) ∧
        r = ⟨records, lines, complexity, a.onlyErrors, a.machineOnly, a.config, a.verbose, a.quiet,
          a.logFile⟩ := by
  have hfiles (made : ReportRequest) := (optional_eq_ok_iff (requireFile look) a.config (do
    if let some path := a.logFile then refuseDirectory look path
    .ok made) (a := r)).trans (and_congr_right fun _ => optional_eq_ok_iff ..)
  simp only [requireFile_eq_ok_iff, refuseDirectory_eq_ok_iff] at hfiles
  constructor
  · intro h
    obtain ⟨⟨⟩, hrecords, h⟩ := bind_eq_ok_iff.1 h
    obtain ⟨lines, hlines, h⟩ := bind_eq_ok_iff.1 h
    obtain ⟨complexity, hcomplexity, h⟩ := bind_eq_ok_iff.1 h
    obtain ⟨hconfig, hlog, hr⟩ := (hfiles _).1 h
    exact ⟨lines, complexity, hlines, hcomplexity, requireFile_eq_ok_iff.1 hrecords, hconfig, hlog,
      (Except.ok.inj hr).symm⟩
  · rintro ⟨lines, complexity, hlines, hcomplexity, hrecords, hconfig, hlog, rfl⟩
    exact bind_eq_ok_iff.2 ⟨(), requireFile_eq_ok_iff.2 hrecords, bind_eq_ok_iff.2 ⟨lines, hlines,
      bind_eq_ok_iff.2 ⟨complexity, hcomplexity, (hfiles _).2 ⟨hconfig, hlog, rfl⟩⟩⟩⟩

end Request

namespace ReportOption

/-- The value of a threshold that may be absent. -/
def countValue (n? : Option Nat) : Value := (n?.map fun n => Value.int n).getD .null

theorem givesThreshold_iff {text? : Option String} {v : Value} :
    GivesThreshold text? v ↔ ∃ n?, Request.threshold text? = .ok n? ∧ countValue n? = v := by
  constructor
  · rintro (_ | ⟨h⟩)
    · exact ⟨none, rfl, rfl⟩
    · next text n =>
      refine ⟨some n, ?_, rfl⟩
      unfold Request.threshold
      dsimp only
      rw [h]
      dsimp only
      rw [if_neg (by omega), Int.toNat_natCast]
  · rintro ⟨n?, h, rfl⟩
    unfold Request.threshold at h
    split at h
    · obtain rfl := Except.ok.inj h
      exact .absent
    · split at h
      · next n hn =>
        split at h
        · cases h
        · next hsign =>
          obtain rfl := Except.ok.inj h
          obtain ⟨m, rfl⟩ := Int.eq_ofNat_of_zero_le (Int.not_lt.1 hsign)
          exact .number hn
      · cases h

theorem givesSwitch_iff {on? : Option Bool} {v : Value} :
    GivesSwitch on? v ↔ (on?.map Value.bool).getD .null = v := by
  constructor
  · rintro (_ | _)
    · rfl
    · rfl
  · rintro rfl
    cases on? with
    | none => exact .absent
    | some on => exact .given on

/-- The request is what the options say. -/
structure IsRequest (said : List ReportOption) (records : String) (given : List (String × Value))
    (r : ReportRequest) : Prop where
  records : r.records = records
  config : r.config = last? config? said
  verbose : r.verbose = decide (verbose ∈ said)
  quiet : r.quiet = decide (quiet ∈ said)
  log : r.logFile = last? logFile? said
  given : Command.givenSettings r = given

/-- The request of a command line whose options give settings and whose files are there. -/
theorem exists_request {look : String → Node} {said : List ReportOption} {records : String}
    {given : List (String × Value)} (hgives : Gives said given) (hfound : Found look said records) :
    ∃ r, Request.checkReport look (setAll said unset) records = .ok r ∧
      IsRequest said records given r := by
  obtain ⟨hlines, hcomplexity, herrors, hmachine⟩ := hgives
  obtain ⟨lines, hreadLines, rfl⟩ := givesThreshold_iff.1 hlines
  obtain ⟨complexity, hreadComplexity, rfl⟩ := givesThreshold_iff.1 hcomplexity
  obtain rfl := givesSwitch_iff.1 herrors
  obtain rfl := givesSwitch_iff.1 hmachine
  rw [setAll_unset]
  exact ⟨_, Request.checkReport_eq_ok_iff.2 ⟨lines, complexity, hreadLines, hreadComplexity,
    hfound.records, hfound.config, hfound.log, rfl⟩, rfl, rfl, rfl, rfl, rfl, rfl⟩

theorem IsRequest.sources_eq {s : Surroundings} {said : List ReportOption} {records : String}
    {given : List (String × Value)} {r : ReportRequest} (h : IsRequest said records given r) :
    Command.sources s s.files r = sources s said given := by
  unfold Command.sources sources
  rw [h.config, h.given]
  rfl

/-- What the run of a command line is. -/
theorem run_of_asksFor (stamp : String) {s : Surroundings} {args : List String}
    {said : List ReportOption} {records : String} {given : List (String × Value)}
    (hasks : AsksFor args said records) (hgives : Gives said given)
    (hfound : Found s.files.look said records) :
    ∃ r, IsRequest said records given r ∧ Command.run stamp s args = Command.runReport stamp s r := by
  obtain ⟨r, hcheck, hr⟩ := exists_request hgives hfound
  refine ⟨r, hr, ?_⟩
  unfold Command.run
  rw [read_report_iff.2 ⟨said, hasks, rfl⟩]
  unfold Command.runRequest
  simp only [hcheck]

/-- The program accepts a request for a report exactly when the command line says it in the forms
above, its thresholds are numbers, and the files that it names are there. -/
theorem accepted_iff {args : List String} {look : String → Node} {records : String} :
    (∃ arguments r, Request.read args = .ok (.report arguments records) ∧
        Request.checkReport look arguments records = .ok r) ↔
      ∃ said given, AsksFor args said records ∧ Gives said given ∧ Found look said records := by
  constructor
  · rintro ⟨arguments, r, hread, hcheck⟩
    obtain ⟨said, hasks, rfl⟩ := read_report_iff.1 hread
    rw [setAll_unset] at hcheck
    obtain ⟨lines, complexity, hlines, hcomplexity, hrecords, hconfig, hlog, -⟩ :=
      Request.checkReport_eq_ok_iff.1 hcheck
    exact ⟨said, _, hasks, .intro (givesThreshold_iff.2 ⟨lines, hlines, rfl⟩)
      (givesThreshold_iff.2 ⟨complexity, hcomplexity, rfl⟩) (givesSwitch_iff.2 rfl)
      (givesSwitch_iff.2 rfl), hrecords, hconfig, hlog⟩
  · rintro ⟨said, given, hasks, hgives, hfound⟩
    obtain ⟨r, hcheck, -⟩ := exists_request hgives hfound
    exact ⟨_, r, read_report_iff.2 ⟨said, hasks, rfl⟩, hcheck⟩

end ReportOption

end CodeMetrics