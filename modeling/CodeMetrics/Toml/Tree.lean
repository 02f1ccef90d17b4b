import CodeMetrics.Toml.Fault
import CodeMetrics.Value.Basic

/-!
# The tree of a TOML document

Tables lie in tables.  A table is closed to some later statements: `frozen` tables and arrays were
written as values and never change again, nor does anything below them; `declared` tables have had a
header; tables that dotted keys went through are `pending` until the next header, and then count as
declared.
-/

namespace CodeMetrics

namespace Toml

/-- A table that keeps the order of its keys. -/
abbrev Table := List (String × Value)

/-- Changes the table behind a key, which is made if it is not there.  The last table of an array of
tables stands for the array if `throughArrays` holds. -/
def changeTable (throughArrays : Bool) (change : Table → Except Complaint Table) :
    Key → Table → Except Complaint Table
  | [], table => change table
  | part :: key, table => do
    let v ←
      match table.lookup part with
      | none => Value.dict <$> changeTable throughArrays change key []
      | some (.dict inner) => Value.dict <$> changeTable throughArrays change key inner
      | some (.list items) =>
        match throughArrays, items.getLast? with
        | true, some (.dict inner) =>
          (fun inner => Value.list (items.dropLast ++ [.dict inner])) <$>
            changeTable throughArrays change key inner
        | _, _ => .error .overwritten
      | some _ => .error .overwritten
    .ok (Value.setEntry part v table)

/-- Adds a key that is not yet there. -/
def addEntry (refusal : Complaint) (part : String) (v : Value) (table : Table) :
    Except Complaint Table :=
  match table.lookup part with
  | some _ => .error refusal
  | none => .ok (Value.setEntry part v table)

/-- Adds an empty table to the array of tables under a key. -/
def appendTable (part : String) (table : Table) : Except Complaint Table :=
  match table.lookup part with
  | none => .ok (Value.setEntry part (.list [.dict []]) table)
  | some (.list items) => .ok (Value.setEntry part (.list (items ++ [.dict []])) table)
  | some _ => .error .overwritten

/-- The document so far, the header in force, and the keys that are closed to later statements. -/
structure Document where
  root : Table
  header : Key
  frozen : List Key
  declared : List Key
  pending : List Key

namespace Document

/-- The document before its first statement. -/
def empty : Document := ⟨[], [], [], [], []⟩

/-- The key lies in a frozen value. -/
def isFrozen (frozen : List Key) (key : Key) : Bool := frozen.any fun k => k.isPrefixOf key

/-- A value that can be frozen: an array or a table. -/
def isContainer : Value → Bool
  | .dict _ => true
  | .list _ => true
  | _ => false

/-- The header of a table. -/
def declareTable (key : Key) (d : Document) : Except Complaint Document := do
  let declared := d.pending ++ d.declared
  if declared.contains key || isFrozen d.frozen key then throw (.declaredTwice key)
  let root ← changeTable true .ok key d.root
  .ok { d with root, header := key, declared := key :: declared, pending := [] }

/-- The header of a table in an array of tables.  What was said about the table before it is
forgotten. -/
def declareArray (key : Key) (d : Document) : Except Complaint Document := do
  let declared := d.pending ++ d.declared
  if isFrozen d.frozen key then throw (.immutable key)
  let others (keys : List Key) : List Key := keys.filter fun k => !key.isPrefixOf k
  let root ← changeTable true (appendTable (key.getLastD "")) key.dropLast d.root
  .ok { d with
    root, header := key, frozen := others d.frozen, declared := key :: others declared,
    pending := [] }

/-- The tables that a dotted key goes through, below the header. -/
def passed (header key : Key) : List Key :=
  (List.range (key.length - 1)).map fun i => header ++ key.take (i + 1)

/-- A key with its value. -/
def assign (key : Key) (v : Value) (d : Document) : Except Complaint Document := do
  let passed := passed d.header key
  match passed.find? d.declared.contains with
  | some k => throw (.redefined k)
  | none =>
    let parent := d.header ++ key.dropLast
    if isFrozen d.frozen parent then throw (.immutable parent)
    let root ← changeTable true (addEntry .overwritten (key.getLastD "") v) parent d.root
    let whole := d.header ++ key
    .ok { d with
      root, pending := passed ++ d.pending,
      frozen := if isContainer v then whole :: d.frozen else d.frozen }

end Document

end Toml

end CodeMetrics
