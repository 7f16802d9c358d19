import ClassLens.Toml.Scalar

/-! # TOML documents

A document is read line by line, each a header, a key with its value, or without content, into a tree of
tables.  A table is made by a header, by a dotted key or by braces, and what may be added to it later
depends on that.

* `Node`: a value, an array, a table, a table in braces, or an array of tables.
* `Node.define`: the tree with a value under a dotted key of a table.
* `Node.openTable`, `Node.openElement`: the tree after a header in single or in double brackets.
* `Node.document?`: the tree as a JSON value.
* `readValue?`: a value with all that it holds.
* `readDocument?`: the lines of a document.
* `ofString?`: the JSON value of a document; none if the text is not TOML. -/

namespace ClassLens.Toml

open Json (Value)

/-! ### Tables -/

/-- How a table came about. -/
structure Origin where
  /-- It was only passed through on the way to another table. -/
  implicit : Bool
  /-- A dotted key passed through it. -/
  dotted : Bool
  deriving DecidableEq, Repr

/-- What stands under a key. -/
inductive Node where
  | leaf (value : Value)
  | list (items : List Node)
  | table (origin : Origin) (entries : List (String × Node))
  /-- A table in braces, to which nothing is added behind its closing brace. -/
  | closed (table : Node)
  /-- An array of tables, the last one first. -/
  | elements (tables : List Node)
  deriving Inhabited

/-- The entry under a key. -/
def find? (key : String) : List (String × Node) → Option Node
  | [] => none
  | (k, n) :: rest => if k = key then some n else find? key rest

/-- Puts an entry under a key. -/
def put (key : String) (node : Node) : List (String × Node) → List (String × Node)
  | [] => [(key, node)]
  | (k, n) :: rest => if k = key then (k, node) :: rest else (k, n) :: put key node rest

/-- The entries with the one under a key moved behind the others. -/
def putLast (key : String) (node : Node) (entries : List (String × Node)) : List (String × Node) :=
  entries.filter (fun e => e.1 ≠ key) ++ [(key, node)]

namespace Node

/-- A table that a header makes, and one in braces before it is closed. -/
def fresh : Node := .table ⟨false, false⟩ []

/-- A table that is only passed through. -/
def passed (dotted : Bool) : Node := .table ⟨true, dotted⟩ []

/-- The node after a change to the table at the end of a path. A `dotted` path makes the tables that
are missing into tables of its own and enters no table that a header made. No path enters a table in
braces. An array of tables stands for its last one. -/
def alter (dotted : Bool) (change : Node → Option Node) : List String → Node → Option Node
  | [], n => change n
  | key :: path, .table origin entries =>
    let child := (find? key entries).getD (passed dotted)
    let changed : Option Node :=
      match child with
      | .leaf _ | .list _ | .closed _ => none
      | .table o es =>
        if dotted && !o.implicit then none
        else alter dotted change path (.table o es)
      | .elements (t :: ts) => (alter dotted change path t).map fun t => .elements (t :: ts)
      | .elements [] => none
    changed.map fun child => .table origin (put key child entries)
  | _ :: _, _ => none

/-- Adds an entry to the table that a dotted key leads to: a key of one part goes to a table that no
dotted key made, and a longer one to a table that one made. -/
def addEntry (single : Bool) (key : String) (value : Node) : Node → Option Node
  | .table origin entries =>
    if origin.dotted == single then none
    else
      match find? key entries with
      | some _ => none
      | none => some (.table origin (put key value entries))
  | _ => none

/-- The table with a value under a dotted key. -/
def define (path : List String) (key : String) (value : Node) (table : Node) : Option Node :=
  alter true (addEntry path.isEmpty key value) path table

/-- The tree with the table of a header: a table that was only passed through by headers may get
one, and then stands behind its siblings. -/
def openTable (path : List String) (key : String) (root : Node) : Option Node :=
  let make : Node → Option Node
    | .table origin entries =>
      match find? key entries with
      | none => some (.table origin (put key fresh entries))
      | some (.table o es) =>
        if o.implicit && !o.dotted then
          some (.table origin (putLast key (.table ⟨false, false⟩ es) entries))
        else none
      | some _ => none
    | _ => none
  alter false make path root

/-- The tree with one more element of the array of tables of a header. -/
def openElement (path : List String) (key : String) (root : Node) : Option Node :=
  let make : Node → Option Node
    | .table origin entries =>
      match find? key entries with
      | none => some (.table origin (put key (.elements [fresh]) entries))
      | some (.elements ts) => some (.table origin (put key (.elements (fresh :: ts)) entries))
      | some _ => none
    | _ => none
  alter false make path root

mutual
/-- The node as a JSON value. A table whose first key is the one of dates is a date: the key must
hold its text, and what else the table has is passed over. -/
def toJson? : Node → Option Value
  | .leaf v => some v
  | .list items => (listToJson? items).map .list
  | .closed braced => toJson? braced
  | .table _ [] => some (.object [])
  | .table _ ((key, n) :: rest) =>
    if key = dateKey then
      match n with
      | .leaf (.string text) => if isDateText text.toList then some (dateValue text.toList) else none
      | _ => none
    else
      match toJson? n, entriesToJson? rest with
      | some v, some members => some (.object ((key, v) :: members))
      | _, _ => none
  | .elements tables => (listToJson? tables).map fun vs => .list vs.reverse

/-- Nodes as JSON values. -/
def listToJson? : List Node → Option (List Value)
  | [] => some []
  | n :: rest =>
    match toJson? n, listToJson? rest with
    | some v, some vs => some (v :: vs)
    | _, _ => none

/-- Entries as members of an object. -/
def entriesToJson? : List (String × Node) → Option (List (String × Value))
  | [] => some []
  | (key, n) :: rest =>
    match toJson? n, entriesToJson? rest with
    | some v, some members => some ((key, v) :: members)
    | _, _ => none
end

/-- A whole document as a JSON value: at the top no key makes a date. -/
def document? : Node → Option Value
  | .table _ entries => (entriesToJson? entries).map .object
  | n => n.toJson?

end Node

/-! ### Values -/

/-- The last part of a dotted key and those before it. -/
def splitLast : List String → List String × String
  | [] => ([], "")
  | [key] => ([], key)
  | part :: rest => let (path, key) := splitLast rest; (part :: path, key)

mutual
/-- A value at the start of a text; `room` levels may nest. -/
def readValue? : Nat → Nat → List Char → Option (Node × List Char)
  | 0, _, _ => none
  | fuel + 1, room, s =>
    match s with
    | '"' :: _ | '\'' :: _ => (readString? s).map fun (t, s) => (.leaf (.string t), s)
    | '[' :: s =>
      match room with
      | 0 => none
      | room + 1 => (readItems? fuel room s).map fun (vs, s) => (.list vs, s)
    | '{' :: s =>
      match room with
      | 0 => none
      | room + 1 =>
        match skipSpace s with
        | '}' :: s => some (.closed .fresh, s)
        | s => readPairs? fuel room .fresh s
    | s => (readScalar? s).map fun (v, s) => (.leaf v, s)

/-- The items of an array after its opening bracket or after a comma. -/
def readItems? : Nat → Nat → List Char → Option (List Node × List Char)
  | 0, _, _ => none
  | fuel + 1, room, s =>
    match skipLines? (s.length + 1) s with
    | none => none
    | some (']' :: s) => some ([], s)
    | some s =>
      match readValue? fuel room s with
      | none => none
      | some (v, s) =>
        match skipLines? (s.length + 1) s with
        | some (',' :: s) => (readItems? fuel room s).map fun (vs, s) => (v :: vs, s)
        | some (']' :: s) => some ([v], s)
        | _ => none

/-- The pairs of a table in braces, of which there is one more at least. -/
def readPairs? : Nat → Nat → Node → List Char → Option (Node × List Char)
  | 0, _, _, _ => none
  | fuel + 1, room, table, s =>
    match readKey? s with
    | some (parts, '=' :: s) =>
      match readValue? fuel room (skipSpace s) with
      | none => none
      | some (v, s) =>
        let (path, key) := splitLast parts
        match Node.define path key v table with
        | none => none
        | some table =>
          match skipSpace s with
          | ',' :: s => readPairs? fuel room table s
          | '}' :: s => some (.closed table, s)
          | _ => none
    | _ => none
end

/-! ### Lines -/

/-- The part of a document read so far: its tables, and the path of the header that stands last. -/
structure State where
  root : Node
  header : List String

/-- A header in single brackets, after the first one, and the rest of its line. -/
def readHeader? (st : State) (s : List Char) : Option (State × List Char) := do
  let (parts, s) ← readKey? s
  match s with
  | ']' :: s => do
    let s ← afterLine? s
    let (path, key) := splitLast parts
    let root ← st.root.openTable path key
    return (⟨root, parts⟩, s)
  | _ => none

/-- A header in double brackets, after the first two, and the rest of its line. -/
def readElementHeader? (st : State) (s : List Char) : Option (State × List Char) := do
  let (parts, s) ← readKey? s
  match s with
  | ']' :: ']' :: s => do
    let s ← afterLine? s
    let (path, key) := splitLast parts
    let root ← st.root.openElement path key
    return (⟨root, parts⟩, s)
  | _ => none

/-- A key with its value, and the rest of its line. -/
def readPair? (st : State) (s : List Char) : Option (State × List Char) := do
  let (parts, s) ← readKey? s
  match s with
  | '=' :: s => do
    let (v, s) ← readValue? (2 * s.length + 2) (nestingLimit - 1) (skipSpace s)
    let s ← afterLine? s
    let (path, key) := splitLast parts
    let root ← st.root.alter false (Node.define path key v) st.header
    return (⟨root, st.header⟩, s)
  | _ => none

/-- The lines of a document. -/
def readDocument? : Nat → State → List Char → Option State
  | 0, _, _ => none
  | fuel + 1, st, s =>
    match skipLines? (s.length + 1) s with
    | none => none
    | some [] => some st
    | some s =>
      let line :=
        match s with
        | '[' :: '[' :: s => readElementHeader? st s
        | '[' :: s => readHeader? st s
        | s => readPair? st s
      match line with
      | some (st, s) => readDocument? fuel st s
      | none => none

/-- The JSON value of a document. -/
def ofString? (text : String) : Option Value :=
  let s := text.toList
  let s := if s.head? = some '\uFEFF' then s.tail else s
  (readDocument? (s.length + 1) ⟨.fresh, []⟩ s).bind fun st => st.root.document?

end ClassLens.Toml
