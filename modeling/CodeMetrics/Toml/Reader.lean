import CodeMetrics.Text.Lines
import CodeMetrics.Toml.Scalar
import CodeMetrics.Toml.Tree

/-!
# Reading TOML

A document is a list of statements: a key with its value, the header of a table, or the header of a
table in an array of tables.  The first fault from the top is reported.
-/

namespace CodeMetrics

namespace Toml

/-! ## Keys -/

/-- A character of a key without quotes. -/
def isKeyChar (c : Char) : Bool := c.isAlphanum || c = '-' || c = '_'

/-- A character that begins a key. -/
def isKeyStart (c : Char) : Bool := isKeyChar c || c = '"' || c = '\''

/-- Reads one part of a key. -/
def readKeyPart : Reader String := fun s =>
  match s with
  | '\'' :: rest => (fun (t, rest) => (String.ofList t, rest)) <$> readLiteral false "'" rest
  | '"' :: rest => (fun (t, rest) => (String.ofList t, rest)) <$> readBasic false rest
  | c :: _ =>
    if isKeyChar c then .ok (String.ofList (s.takeWhile isKeyChar), s.dropWhile isKeyChar)
    else .error ⟨.keyStart, s.length⟩
  | [] => .error ⟨.keyStart, 0⟩

/-- Reads the parts of a key and the points between them; `steps` bounds their number. -/
def readKeyParts : Nat → Reader Key
  | 0, s => .error ⟨.keyStart, s.length⟩
  | steps + 1, s => do
    let (part, rest) ← readKeyPart s
    match skipGap rest with
    | '.' :: rest =>
      let (key, rest) ← readKeyParts steps (skipGap rest)
      .ok (part :: key, rest)
    | rest => .ok ([part], rest)

/-- Reads a key and the blanks behind it. -/
def readKey : Reader Key := fun s => readKeyParts (s.length + 1) s

/-! ## Values -/

/-- The text after blanks, line ends and comments; `steps` bounds the number of comments. -/
def skipWideGap : Nat → List Char → Except Stop (List Char)
  | 0, s => .ok s
  | steps + 1, s =>
    match s.dropWhile isWideGap with
    | '#' :: rest => do skipWideGap steps (← skipComment ('#' :: rest))
    | rest => .ok rest

/-- The text after blanks, line ends and comments. -/
def skipLines (s : List Char) : Except Stop (List Char) := skipWideGap (s.length + 1) s

/-- A complaint about the place where `rest` begins. -/
def orStop {α : Type} (rest : List Char) : Except Complaint α → Except Stop α
  | .ok a => .ok a
  | .error c => .error ⟨c, rest.length⟩

/-- Adds an entry to an inline table, of which some keys are frozen. -/
def addInline (table : Table) (frozen : List Key) (key : Key) (v : Value) :
    Except Complaint Table :=
  if Document.isFrozen frozen key then .error (.immutable key)
  else
    let part := key.getLastD ""
    changeTable false (addEntry (.repeatedKey part) part v) key.dropLast table

mutual

/-- Reads a value.  The depth bounds how far values can be nested. -/
def readValue (depth : Nat) (s : List Char) : Except Stop (Value × List Char) :=
  match depth with
  | 0 => .error ⟨.value, s.length⟩
  | depth + 1 =>
    match readText? s with
    | some found => (fun (t, rest) => (.text (String.ofList t), rest)) <$> found
    | none =>
      match s with
      | 't' :: 'r' :: 'u' :: 'e' :: rest => .ok (.bool true, rest)
      | 'f' :: 'a' :: 'l' :: 's' :: 'e' :: rest => .ok (.bool false, rest)
      | '[' :: rest => do
        let (items, rest) ← readItems depth (← skipLines rest)
        .ok (.list items, rest)
      | '\x7b' :: rest =>
        match skipGap rest with
        | '\x7d' :: rest => .ok (.dict [], rest)
        | rest => (fun (t, rest) => (.dict t, rest)) <$> readInline depth [] [] rest
      | s => readScalar s

/-- Reads the items of an array from where one can begin up to the closing bracket. -/
def readItems (depth : Nat) (s : List Char) : Except Stop (List Value × List Char) :=
  match depth with
  | 0 => .error ⟨.value, s.length⟩
  | depth + 1 =>
    match s with
    | ']' :: rest => .ok ([], rest)
    | s => do
      let (v, rest) ← readValue depth s
      match ← skipLines rest with
      | ']' :: rest => .ok ([v], rest)
      | ',' :: rest =>
        let (vs, rest) ← readItems depth (← skipLines rest)
        .ok (v :: vs, rest)
      | rest => .error ⟨.openArray, rest.length⟩

/-- Reads the entries of an inline table up to the closing brace. -/
def readInline (depth : Nat) (table : Table) (frozen : List Key) (s : List Char) :
    Except Stop (Table × List Char) :=
  match depth with
  | 0 => .error ⟨.value, s.length⟩
  | depth + 1 => do
    let (key, rest) ← readKey s
    match rest with
    | '=' :: rest =>
      let (v, rest) ← readValue depth (skipGap rest)
      let table ← orStop rest (addInline table frozen key v)
      match skipGap rest with
      | '\x7d' :: rest => .ok (table, rest)
      | ',' :: rest =>
        let frozen := if Document.isContainer v then key :: frozen else frozen
        readInline depth table frozen (skipGap rest)
      | rest => .error ⟨.openTable, rest.length⟩
    | rest => .error ⟨.equalsSign, rest.length⟩

end

/-! ## Statements -/

/-- Reads a key with its value into the document. -/
def readAssignment (d : Document) : Reader Document := fun s => do
  let (key, rest) ← readKey s
  match rest with
  | '=' :: rest =>
    let rest := skipGap rest
    let (v, rest) ← readValue (2 * rest.length + 1) rest
    let d ← orStop rest (d.assign key v)
    .ok (d, rest)
  | rest => .error ⟨.equalsSign, rest.length⟩

/-- Reads a header after its opening bracket into the document. -/
def readHeader (d : Document) : Reader Document := fun s =>
  match s with
  | '[' :: rest => do
    let (key, rest) ← readKey (skipGap rest)
    let d ← orStop rest (d.declareArray key)
    match rest with
    | ']' :: ']' :: rest => .ok (d, rest)
    | rest => .error ⟨.arrayHeaderEnd, rest.length⟩
  | s => do
    let (key, rest) ← readKey (skipGap s)
    let d ← orStop rest (d.declareTable key)
    match rest with
    | ']' :: rest => .ok (d, rest)
    | rest => .error ⟨.tableHeaderEnd, rest.length⟩

/-- Reads a statement, if there is one, into the document. -/
def readStatement (d : Document) : Reader Document := fun s =>
  match s with
  | '[' :: rest => (fun (d, rest) => (d, skipGap rest)) <$> readHeader d rest
  | c :: _ =>
    if isKeyStart c then (fun (d, rest) => (d, skipGap rest)) <$> readAssignment d s
    else if c = '#' then .ok (d, s)
    else .error ⟨.statement, s.length⟩
  | [] => .ok (d, [])

/-- Reads all statements, each on lines of its own; `steps` bounds their number. -/
def readStatements : Nat → Document → List Char → Except Stop Document
  | 0, d, _ => .ok d
  | steps + 1, d, s =>
    match skipGap s with
    | [] => .ok d
    | '\n' :: rest => readStatements steps d rest
    | s => do
      let (d, rest) ← readStatement d s
      match ← skipComment rest with
      | [] => .ok d
      | '\n' :: rest => readStatements steps d rest
      | rest => .error ⟨.lineEnd, rest.length⟩

/-- The table that a document holds. -/
def read (s : List Char) : Except Fault Table :=
  let s := joinLineEnds s
  match readStatements (s.length + 1) .empty s with
  | .ok d => .ok d.root
  | .error stop =>
    .error ⟨stop.complaint, s.take (s.length - stop.remaining), stop.remaining = 0⟩

end Toml

end CodeMetrics
