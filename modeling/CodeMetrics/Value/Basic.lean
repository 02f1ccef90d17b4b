import CodeMetrics.Binary64.Basic
import CodeMetrics.Value.Moment

/-!
# Values of records and settings

Records and settings arrive as data whose fields may hold anything, and nothing but the shape is
checked: a field keeps the kind of the value it was given, and is printed in its own way.  A truth
value, a whole number and a floating-point number stay apart even where they are numerically equal.
-/

namespace CodeMetrics

/-- Any value.  The entries of a dictionary keep their order.  `other` is a value of a kind of which
only the name is known and whether it is an ordered sequence; it holds nothing. -/
inductive Value where
  | null
  | bool (b : Bool)
  | int (n : Int)
  | float (x : Binary64)
  | text (s : String)
  | list (items : List Value)
  | tuple (items : List Value)
  | dict (entries : List (String × Value))
  | set (items : List Value)
  | bytes (octets : List UInt8)
  | moment (m : Moment)
  | other (kind : String) (ordered : Bool)

namespace Value

instance : Inhabited Value := ⟨null⟩

/-- The name of a value's kind, as error texts give it. -/
def kindName : Value → String
  | null => "NoneType"
  | bool _ => "bool"
  | int _ => "int"
  | float _ => "float"
  | text _ => "str"
  | list _ => "list"
  | tuple _ => "tuple"
  | dict _ => "dict"
  | set _ => "set"
  | bytes _ => "bytes"
  | moment m => m.kindName
  | other kind _ => kind

/-- A value counts as true unless it is nothing, zero or empty. -/
def truthy : Value → Bool
  | null => false
  | bool b => b
  | int n => n ≠ 0
  | float (.finite _ u _) => u ≠ 0
  | float _ => true
  | text s => s ≠ ""
  | list items | tuple items | set items => !items.isEmpty
  | dict entries => !entries.isEmpty
  | bytes octets => !octets.isEmpty
  | moment _ => true
  | other .. => false

/-- The value is an ordered sequence: a list, a tuple or the like, but no text and no octets. -/
def isSequence : Value → Bool
  | list _ => true
  | tuple _ => true
  | other _ ordered => ordered
  | _ => false

/-- The number that a value is; a truth value is the number one or zero. -/
def number? : Value → Option Number
  | bool b => some (.int b.toNat)
  | int n => some (.int n)
  | float x => some (.float x)
  | _ => none

/-- The value of a number. -/
def ofNumber : Number → Value
  | .int n => int n
  | .float x => float x

/-! ## Dictionaries in order -/

/-- Sets a key: a new key goes to the end and a known one keeps its place. -/
def setEntry {α : Type} (key : String) (value : α) : List (String × α) → List (String × α)
  | [] => [(key, value)]
  | (k, v) :: rest => if k = key then (k, value) :: rest else (k, v) :: setEntry key value rest

/-- Sets all keys of the second dictionary in the first. -/
def overlay {α : Type} (base upper : List (String × α)) : List (String × α) :=
  upper.foldl (fun entries (k, v) => setEntry k v entries) base

/-! ## Printable values -/

/-- The least whole number that is too long to be written. -/
def unwritable : Nat := Nat.pow 10 4300

mutual

/-- Every whole number in the value is short enough to be written: it has at most 4300 digits. -/
def printable : Value → Bool
  | int n => decide (n.natAbs < unwritable)
  | list items => printableAll items
  | tuple items => printableAll items
  | set items => printableAll items
  | dict entries => printableEntries entries
  | _ => true

def printableAll : List Value → Bool
  | [] => true
  | v :: rest => printable v && printableAll rest

def printableEntries : List (String × Value) → Bool
  | [] => true
  | (_, v) :: rest => printable v && printableEntries rest

end

/-! ## Copies -/

/-- The kinds of things that cannot be copied: what runs or is open, and what looks into something
else. -/
def uncopiedKinds : List String :=
  ["generator", "coroutine", "async_generator", "frame", "module", "lock", "RLock", "socket",
    "FileIO", "BufferedReader", "BufferedWriter", "TextIOWrapper", "dict_keys", "dict_values",
    "dict_items", "odict_keys", "odict_values", "odict_items", "mappingproxy", "memoryview",
    "staticmethod", "classmethod", "getset_descriptor"]

mutual

/-- The value can be copied with everything in it. -/
def copiable : Value → Bool
  | list items => copiableAll items
  | tuple items => copiableAll items
  | set items => copiableAll items
  | dict entries => copiableEntries entries
  | other kind _ => !uncopiedKinds.contains kind
  | _ => true

def copiableAll : List Value → Bool
  | [] => true
  | v :: rest => copiable v && copiableAll rest

def copiableEntries : List (String × Value) → Bool
  | [] => true
  | (_, v) :: rest => copiable v && copiableEntries rest

end

end Value

end CodeMetrics
