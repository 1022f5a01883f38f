import OpReturn.Toml.Parser

/-!
# Configuration documents

A document is a sequence of lines: a key with its value, a table header, or the header of the next
table of a list. A table may be opened once; a table that a dotted key made may not be opened
later; arrays and inline tables are complete as they stand.

* `Document.parse`: the table that a text stands for.
-/

namespace OpReturn.Toml

/-- A document under way: the table so far, the paths of complete values, the paths of tables that
may not be opened, the paths that join those at the next header, and the path of the table that
keys belong to. -/
structure Document where
  root : Table := []
  frozen : List (List String) := []
  closed : List (List String) := []
  pending : List (List String) := []
  header : List String := []

namespace Document

/-- Does the path lead to or into a complete value? -/
def isFrozen (d : Document) (path : List String) : Bool := d.frozen.any (·.isPrefixOf path)

/-- May the table at the path not be opened? -/
def isClosed (d : Document) (path : List String) : Bool := d.closed.contains path

/-- A key with its value. -/
def setKey (d : Document) (path : List String) (v : Value) : Option Document :=
  let parents := (List.range path.length).tail.map fun i => d.header ++ path.take i
  let parent := d.header ++ path.dropLast
  if parents.any d.isClosed || d.isFrozen parent then none
  else (d.root.insertAt true parent (path.getLastD "") v).map fun root =>
    { d with
      root
      pending := parents ++ d.pending
      frozen := match v with
        | .array _ | .table _ => (d.header ++ path) :: d.frozen
        | _ => d.frozen }

/-- Closes the tables that dotted keys made before a header. -/
def finishPending (d : Document) : Document :=
  { d with closed := d.pending ++ d.closed, pending := [] }

/-- A table header. -/
def openTable (d : Document) (path : List String) : Option Document :=
  let d := d.finishPending
  if d.isClosed path || d.isFrozen path then none
  else (d.root.modifyAt true some path).map fun root =>
    { d with root, closed := path :: d.closed, header := path }

/-- Adds an empty table to the list with the given key, or starts the list. -/
def appendTable (key : String) (t : Table) : Option Table :=
  match t.get? key with
  | none => some (t.set key (.array [.table []]))
  | some (.array items) => some (t.set key (.array (items ++ [.table []])))
  | some _ => none

/-- The header of the next table of a list. What was said of the table before it is forgotten. -/
def openListItem (d : Document) (path : List String) : Option Document :=
  let d := d.finishPending
  if d.isFrozen path then none
  else (d.root.modifyAt true (appendTable (path.getLastD "")) path.dropLast).map fun root =>
    { d with
      root
      frozen := d.frozen.filter fun other => !path.isPrefixOf other
      closed := path :: d.closed.filter fun other => !path.isPrefixOf other
      header := path }

/-- One statement and what is left of its line. -/
def statement (d : Document) (s : List Char) : Except ReadError (Document × List Char) :=
  let done (d : Option Document) (s : List Char) : Except ReadError (Document × List Char) :=
    match d with
    | some d => .ok (d, s)
    | none => .error .malformed
  match s with
  | '[' :: '[' :: s =>
    match key (skipSpaces s) with
    | .error e => .error e
    | .ok (path, ']' :: ']' :: s) => done (d.openListItem path) s
    | .ok _ => .error .malformed
  | '[' :: s =>
    match key (skipSpaces s) with
    | .error e => .error e
    | .ok (path, ']' :: s) => done (d.openTable path) s
    | .ok _ => .error .malformed
  | s =>
    match key s with
    | .error e => .error e
    | .ok (path, '=' :: s) =>
      match value (skipSpaces s) with
      | .error e => .error e
      | .ok (v, s) => done (d.setKey path v) s
    | .ok _ => .error .malformed

/-- Reads the rest of a document. The fuel bounds the number of lines. -/
def readFrom : (fuel : Nat) → Document → List Char → Except ReadError Table
  | 0, _, _ => .error .malformed
  | fuel + 1, d, s =>
    let line : Except ReadError (Document × List Char) := match skipSpaces s with
      | [] => .ok (d, [])
      | '\n' :: t => .ok (d, '\n' :: t)
      | '#' :: t => .ok (d, '#' :: t)
      | t => d.statement t
    match line with
    | .error e => .error e
    | .ok (d, t) =>
      match skipComment (skipSpaces t) with
      | .error e => .error e
      | .ok [] => .ok d.root
      | .ok ('\n' :: t) => readFrom fuel d t
      | .ok _ => .error .malformed

/-- Line ends of two characters become one. -/
def normalizeLines : List Char → List Char
  | '\r' :: '\n' :: s => '\n' :: normalizeLines s
  | c :: s => c :: normalizeLines s
  | [] => []

/-- The table that the text of a document stands for. -/
def parse (text : String) : Except ReadError Table :=
  let chars := normalizeLines text.toList
  readFrom (chars.length + 1) {} chars

end Document
end OpReturn.Toml
