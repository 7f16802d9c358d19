import ClassLens.Text.Measure
import ClassLens.Uri

/-! # Text documents

An open document of an editor: its text, the version the editor gave it, and the bytes at which its
lines start. The editor speaks of positions, a line and a column in UTF-16 code units; the library
speaks of byte offsets.

* `lineStarts s`: zero and the bytes after each line feed.
* `Document.offsetOf?`: the byte of a position.
* `Document.positionOf`: the position of a byte.
* `Document.apply`: the document after a batch of changes.

**Main statements.** `Document.apply_lineStarts`: the table of lines is that of the text after any
changes. -/

namespace ClassLens

open Text

/-- A place in a document as editors give it; `character` counts UTF-16 code units. -/
structure Position where
  line : Nat
  character : Nat
  deriving DecidableEq, Repr

/-- The bytes at which the lines of the rest of a text start, `offset` bytes standing before it. -/
def lineStartsFrom (offset : Nat) : List Char → List Nat
  | [] => []
  | c :: cs =>
    if c = '\n' then (offset + c.utf8Size) :: lineStartsFrom (offset + c.utf8Size) cs
    else lineStartsFrom (offset + c.utf8Size) cs

/-- The bytes at which the lines of a text start. -/
def lineStarts (text : String) : List Nat :=
  0 :: lineStartsFrom 0 text.toList

/-- A change of a text: all of it, or the part between two positions. -/
inductive Change where
  | whole (text : String)
  | part (start stop : Position) (text : String)
  deriving Repr

/-- An open text document. -/
structure Document where
  uri : Uri
  language : String
  text : String
  version : Int
  /-- The bytes at which the lines start. -/
  lines : List Nat
  deriving DecidableEq, Repr

namespace Document

/-- A document as it is opened. -/
def ofText (uri : Uri) (language text : String) (version : Int) : Document :=
  ⟨uri, language, text, version, lineStarts text⟩

/-- Whether usages are looked for: in markup inside scripts, by the language or else by the
extension. -/
def isResolvable (d : Document) : Bool :=
  d.language == "javascriptreact" || d.language == "typescriptreact" ||
    d.uri.extension? == some "jsx" || d.uri.extension? == some "tsx"

/-- Whether the document is a stylesheet. -/
def isStylesheet (d : Document) : Bool :=
  d.language == "css" || d.uri.extension? == some "css"

/-- The part of the text between two bytes, which start characters. -/
def slice (d : Document) (start stop : Nat) : List Char :=
  match splitAtByte? d.text.toList start with
  | some (_, back) =>
    match splitAtByte? back (stop - start) with
    | some (middle, _) => middle
    | none => back
  | none => []

/-- Number of bytes of the text. -/
def size (d : Document) : Nat :=
  byteLength d.text.toList

/-! ### Positions -/

/-- Bytes of the characters that start before a column. -/
def bytesBefore (column : Nat) : List Char → Nat
  | [] => 0
  | c :: cs =>
    if column = 0 then 0 else c.utf8Size + bytesBefore (column - unitsOf c) cs

/-- The byte of a position, if there is such a line. A column past the end counts as the end of the
text up to the next line's start. -/
def offsetOf? (d : Document) (p : Position) : Option Nat := do
  let start ← d.lines[p.line]?
  let stop := (d.lines[p.line + 1]?).getD d.size
  return start + bytesBefore p.character (d.slice start stop)

/-- The last line that starts at or before a byte. -/
def lineOf (d : Document) (offset : Nat) : Nat :=
  (d.lines.takeWhile (· ≤ offset)).length - 1

/-- The position of a byte. One inside a character counts as the character's start, one past the
end as the end. -/
def positionOf (d : Document) (offset : Nat) : Position :=
  let offset := floorByte d.text.toList offset
  let line := d.lineOf offset
  ⟨line, units16 (d.slice ((d.lines[line]?).getD 0) offset)⟩

/-! ### Changes -/

/-- The document with another text. -/
def withText (d : Document) (text : String) : Document :=
  { d with text := text, lines := lineStarts text }

/-- The document with the bytes between two offsets replaced. -/
def splice (d : Document) (start stop : Nat) (text : String) : Document :=
  match splitAtByte? d.text.toList start, splitAtByte? d.text.toList stop with
  | some (front, _), some (_, back) =>
    d.withText (String.ofList (front ++ text.toList ++ back))
  | _, _ => d

/-- The document after one change. A part whose ends are not both positions, or stand in the wrong
order, changes nothing. -/
def change (d : Document) : Change → Document
  | .whole text => d.withText text
  | .part start stop text =>
    match d.offsetOf? start, d.offsetOf? stop with
    | some s, some e => if s ≤ e then d.splice s e text else d
    | _, _ => d

/-- The document after a batch of changes, each read against the text before it. -/
def apply (d : Document) (changes : List Change) (version : Int) : Document :=
  { changes.foldl change d with version := version }

/-! ### The table of lines -/

theorem withText_lines (d : Document) (text : String) :
    (d.withText text).lines = lineStarts (d.withText text).text := rfl

theorem splice_lines {d : Document} (h : d.lines = lineStarts d.text) (start stop : Nat)
    (text : String) : (d.splice start stop text).lines = lineStarts (d.splice start stop text).text := by
  unfold splice
  split
  · rfl
  · exact h

theorem change_lines {d : Document} (h : d.lines = lineStarts d.text) (c : Change) :
    (d.change c).lines = lineStarts (d.change c).text := by
  unfold change
  split
  · rfl
  · split
    · split
      · exact splice_lines h _ _ _
      · exact h
    · exact h

theorem foldl_change_lines {d : Document} (h : d.lines = lineStarts d.text) (cs : List Change) :
    (cs.foldl change d).lines = lineStarts (cs.foldl change d).text := by
  induction cs generalizing d with
  | nil => exact h
  | cons c cs ih => exact ih (change_lines h c)

/-- The table of lines is that of the text after any changes. -/
theorem apply_lineStarts {d : Document} (h : d.lines = lineStarts d.text) (cs : List Change)
    (version : Int) : (d.apply cs version).lines = lineStarts (d.apply cs version).text :=
  foldl_change_lines h cs

end Document

end ClassLens
