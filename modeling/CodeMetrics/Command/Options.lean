/-!
# Options of a command line

An option has a long name after two hyphens or a letter after one.  Letters may be joined behind one
hyphen.  The value of an option follows it as the next argument, after an equals sign behind a long
name, or directly behind a letter.  Two hyphens end the options.  Later options override earlier
ones.
-/

namespace CodeMetrics

/-- What an option does to the settings `α` that options build up. -/
inductive CommandOption (α : Type) where
  | flag (set : α → α)
  | valued (set : String → α → α)

/-- The options by their names, hyphens included. -/
abbrev OptionNames (α : Type) := String → Option (CommandOption α)

/-- The arguments are not of the form that the command has.  Nothing more is said about it. -/
inductive Misuse where
  | misuse
deriving DecidableEq

/-- The result of an argument that is an option: it is done with, or its value is the next
argument. -/
inductive OptionStep (α : Type) where
  | done (a : α)
  | needsValue (set : String → α)

namespace CommandOption

variable {α : Type}

/-- The argument is an option. -/
def isOption (arg : String) : Bool := arg.startsWith "-" && arg ≠ "-"

/-- The name of a long option and the value behind its equals sign. -/
def splitEquals (arg : List Char) : List Char × Option (List Char) :=
  match arg.dropWhile (· ≠ '=') with
  | [] => (arg, none)
  | _ :: value => (arg.takeWhile (· ≠ '='), some value)

/-- Reads letters that are joined behind one hyphen. -/
def readLetters (names : OptionNames α) (a : α) : List Char → Except Misuse (OptionStep α)
  | [] => .ok (.done a)
  | c :: rest =>
    match names (String.ofList ['-', c]) with
    | none => .error .misuse
    | some (.flag set) => readLetters names (set a) rest
    | some (.valued set) =>
      if rest.isEmpty then .ok (.needsValue fun v => set v a)
      else .ok (.done (set (String.ofList rest) a))

/-- Reads an argument that is an option. -/
def read (names : OptionNames α) (a : α) (arg : String) : Except Misuse (OptionStep α) :=
  let (name, value?) := splitEquals arg.toList
  if arg.startsWith "--" then
    match names (String.ofList name), value? with
    | some (.flag set), none => .ok (.done (set a))
    | some (.valued set), none => .ok (.needsValue fun v => set v a)
    | some (.valued set), some v => .ok (.done (set (String.ofList v) a))
    | _, _ => .error .misuse
  else readLetters names a (arg.toList.drop 1)

/-- Reads arguments.  What is no option is kept; the first such argument ends the options unless
`mixed` holds. -/
def readAll (names : OptionNames α) (mixed : Bool) (a : α) :
    List String → Except Misuse (α × List String)
  | [] => .ok (a, [])
  | arg :: rest =>
    if arg = "--" then .ok (a, rest)
    else if isOption arg then
      match read names a arg, rest with
      | .error e, _ => .error e
      | .ok (.done a), rest => readAll names mixed a rest
      | .ok (.needsValue _), [] => .error .misuse
      | .ok (.needsValue set), v :: rest => readAll names mixed (set v) rest
    else if mixed then do
      let (a, others) ← readAll names mixed a rest
      .ok (a, arg :: others)
    else .ok (a, arg :: rest)

end CommandOption

end CodeMetrics
