import ClassLens.Text.Utf8

/-! # File paths

A path is a row of bytes, which need not be text. What it names is told by its components: empty ones
do not count, nor does `.` except at the start of a relative path. Two paths are the same key if their
components are equal, while the text of the bytes is what is shown.

* `Text.splitOn sep s`, `Text.joinWith sep pieces`: the pieces of `s` between the characters or bytes
  `sep`, of which there is one at least, and pieces with `sep` between them.
* `Path.ofString`, `Path.text`: the path of a text, and a path as it is shown.
* `Path.components`: the components of a path.
* `Path.parent?`, `Path.ancestors`: the directories above a path, the nearest first.
* `Path.join`: a path read from a directory.
* `Path.normalize`: the path without `.` and `..` components.

A leading `..` has nothing to remove and stays; a `..` after it removes it again.

**Main statements.** `Text.joinWith_splitOn`: joining the pieces of a text gives the text back. -/

namespace ClassLens

/-! ### Pieces -/

namespace Text

variable {α : Type}

/-- The pieces of a text between separators. -/
def splitOn [DecidableEq α] (sep : α) : List α → List (List α)
  | [] => [[]]
  | c :: cs =>
    if c = sep then [] :: splitOn sep cs
    else
      match splitOn sep cs with
      | [] => [[c]]
      | piece :: rest => (c :: piece) :: rest

/-- Pieces with a separator between them. -/
def joinWith (sep : α) : List (List α) → List α
  | [] => []
  | [piece] => piece
  | piece :: rest => piece ++ sep :: joinWith sep rest

theorem splitOn_ne_nil [DecidableEq α] (sep : α) (s : List α) : splitOn sep s ≠ [] := by
  cases s with
  | nil => simp [splitOn]
  | cons c cs =>
    rw [splitOn]
    split
    · simp
    · split <;> simp

theorem joinWith_cons_cons (sep c : α) (piece : List α) (rest : List (List α)) :
    joinWith sep ((c :: piece) :: rest) = c :: joinWith sep (piece :: rest) := by
  cases rest <;> simp [joinWith]

/-- Joining the pieces of a text gives the text back. -/
theorem joinWith_splitOn [DecidableEq α] (sep : α) (s : List α) : joinWith sep (splitOn sep s) = s := by
  induction s with
  | nil => simp [splitOn, joinWith]
  | cons c cs ih =>
    rw [splitOn]
    split
    · rename_i h
      cases hs : splitOn sep cs with
      | nil => exact absurd hs (splitOn_ne_nil sep cs)
      | cons piece rest =>
        rw [hs] at ih
        simp [joinWith, ih, h]
    · cases hs : splitOn sep cs with
      | nil => exact absurd hs (splitOn_ne_nil sep cs)
      | cons piece rest =>
        rw [hs] at ih
        simp only [joinWith_cons_cons, ih]

end Text

open Text (splitOn joinWith)

/-! ### Paths -/

/-- The bytes of a text. -/
def bytesOf (s : String) : List UInt8 :=
  s.toUTF8.toList

/-- The name of a file or a directory in the directory that holds it. -/
abbrev Name := List UInt8

/-- A file path. -/
structure Path where
  bytes : List UInt8
  deriving DecidableEq, Repr

/-- A component of a path. -/
inductive Component where
  | root
  | current
  | parent
  | name (name : Name)
  deriving DecidableEq, Repr

namespace Path

/-- The byte between two components. -/
def slash : UInt8 := 0x2F

/-- The name of the directory itself. -/
def here : Name := [0x2E]

/-- The name of the directory above. -/
def above : Name := [0x2E, 0x2E]

/-- The path of a text. -/
def ofString (s : String) : Path :=
  ⟨bytesOf s⟩

/-- A path as it is shown, with U+FFFD where it is no text. -/
def text (p : Path) : String :=
  Text.decodeLossy p.bytes

/-- Whether a path starts at the root. -/
def isAbsolute (p : Path) : Bool :=
  p.bytes.head? == some slash

/-- The pieces between the separators, after the one that is the root. -/
def pieces (p : Path) : List Name :=
  splitOn slash (if p.isAbsolute then p.bytes.tail else p.bytes)

/-- The path of some pieces. -/
def ofPieces (absolute : Bool) (ps : List Name) : Path :=
  ⟨(if absolute then [slash] else []) ++ joinWith slash ps⟩

/-- The component that a piece stands for, unless it is the first one of a relative path. -/
def componentOf? (piece : Name) : Option Component :=
  if piece = [] ∨ piece = here then none
  else if piece = above then some .parent
  else some (.name piece)

/-- The components of a path. -/
def components (p : Path) : List Component :=
  if p.isAbsolute then .root :: p.pieces.filterMap componentOf?
  else
    match p.pieces with
    | first :: rest =>
      if first = here then .current :: rest.filterMap componentOf?
      else (first :: rest).filterMap componentOf?
    | [] => []

/-- Whether two paths have the same components. -/
def same (p q : Path) : Bool :=
  p.components == q.components

/-! ### Directories above -/

/-- The pieces of the ancestors, the last piece first; pieces that are no component are dropped
at the end of each. A `.` at the start of a relative path is one. -/
def ancestorPieces (absolute : Bool) : List Name → List (List Name)
  | [] => [[]]
  | piece :: before =>
    if (componentOf? piece).isSome || (!absolute && before.isEmpty && piece == here) then
      (piece :: before) :: ancestorPieces absolute before
    else
      ancestorPieces absolute before

/-- The directories above a path, the nearest first. -/
def parents (p : Path) : List Path :=
  ((ancestorPieces p.isAbsolute p.pieces.reverse).tail).map fun ps =>
    ofPieces p.isAbsolute ps.reverse

/-- The directory that holds a path. -/
def parent? (p : Path) : Option Path :=
  p.parents.head?

/-- A path and the directories above it, the nearest first. -/
def ancestors (p : Path) : List Path :=
  p :: p.parents

/-! ### Joining and normalizing -/

/-- A path read from a directory; an absolute path stays as it is. -/
def join (dir p : Path) : Path :=
  if p.isAbsolute then p
  else if dir.bytes = [] ∨ dir.bytes.getLast? = some slash then ⟨dir.bytes ++ p.bytes⟩
  else ⟨dir.bytes ++ slash :: p.bytes⟩

/-- One more component on a path without `.`: the names so far, the last first. -/
def stepUp (names : List Name) : Component → List Name
  | .root | .current => names
  | .name s => s :: names
  | .parent =>
    match names with
    | [] => [above]
    | _ :: rest => rest

/-- The names that are left when each `..` has removed the component before it. -/
def normalNames (p : Path) : List Name :=
  (p.components.foldl stepUp []).reverse

/-- The path without `.` and `..` components. -/
def normalize (p : Path) : Path :=
  ofPieces p.isAbsolute p.normalNames

end Path

end ClassLens
