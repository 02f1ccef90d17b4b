import CodeMetrics.Breakdown
import CodeMetrics.Journal.Basic
import CodeMetrics.Markup.Render
import CodeMetrics.Text.Wrap

/-!
# How a run of the program ends

A run ends with an exit code, the text it printed, and the files with what the journal added.  It
ends well with code 0, with code 2 when it was misused, and with code 1 when it reports an error or
dies of one.
-/

namespace CodeMetrics

/-- An error that the program dies of. -/
inductive Crash where
  | breakdown (b : Breakdown)
  | journal (f : OpenFault)
  | markup (f : Markup.Fault)

/-- How a run of the program ends: with which code, what it printed, the error it died of, the files
after it, and the entries of the journal. -/
structure Ending where
  exitCode : Nat
  stdout : String
  stderr : String
  crash : Option Crash
  files : Files
  log : List LogEntry

/-- How many cells a line of the terminal has. -/
def terminalWidth : Nat := 80

/-- Lines, each with its end. -/
def unlines (lines : List (List Char)) : String :=
  String.join (lines.map fun line => String.ofList line ++ "\n")

namespace Ending

/-- A run that ends well. -/
def success (stdout : String) (files : Files) (log : List LogEntry) : Ending :=
  ⟨0, stdout, "", none, files, log⟩

/-- A run that was misused and did nothing. -/
def misuse (files : Files) : Ending := ⟨2, "", "", none, files, []⟩

/-- A run that dies of an error. -/
def crashed (stdout : String) (files : Files) (log : List LogEntry) (c : Crash) : Ending :=
  ⟨1, stdout, "", some c, files, log⟩

/-- The lines that report an error.  The text of the error is read as markup. -/
def errorText (message : String) : Except Markup.Fault String := do
  let s ← Markup.render ("[red]Error:[/red] " ++ message).toList
  .ok (unlines (wrap terminalWidth s))

/-- A run that reports an error. -/
def failed (files : Files) (log : List LogEntry) (message : String) : Ending :=
  match errorText message with
  | .ok stderr => ⟨1, "", stderr, none, files, log⟩
  | .error f => crashed "" files log (.markup f)

end Ending

end CodeMetrics
