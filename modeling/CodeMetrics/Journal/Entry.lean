/-!
# Entries of the journal

The program keeps a journal of what it does.  An entry has a level, a source and a text; sources
form a tree under one root, their names separated by points.
-/

namespace CodeMetrics

/-- How important an entry is; the higher the rank, the more important. -/
structure Level where
  rank : Int
deriving DecidableEq

namespace Level

def debug : Level := ⟨10⟩

def info : Level := ⟨20⟩

def warning : Level := ⟨30⟩

def error : Level := ⟨40⟩

def critical : Level := ⟨50⟩

/-- The name of a level; one in between goes by its rank. -/
def name (l : Level) : String :=
  if l = debug then "DEBUG"
  else if l = info then "INFO"
  else if l = warning then "WARNING"
  else if l = error then "ERROR"
  else if l = critical then "CRITICAL"
  else "Level " ++ toString l.rank

/-- The levels with a name of their own, from the least important on. -/
def all : List Level := [debug, info, warning, error, critical]

/-- The level of a name. -/
def ofName? (s : String) : Option Level := all.find? fun l => l.name = s

end Level

/-- An entry of the journal. -/
structure LogEntry where
  level : Level
  source : String
  text : String
deriving DecidableEq

/-- The root of all sources. -/
def rootSource : String := "metrics_lite"

/-- The source of a part of the program. -/
def sourceOf (part : String) : String := rootSource ++ "." ++ part

end CodeMetrics
