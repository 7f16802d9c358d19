import ClassLens.Shell.Calendar
import ClassLens.Tool.Basic
import ClassLens.Tool.Comparing.Changes
import ClassLens.Tool.Regex.Reader

/-! # Showing what has changed

The changes between two contents are found line by line and shown in one of several styles.

* `Setup`: which lines count as the same ones, and how changes are shown.
* `Setup.compare`: the changes between two contents.
* `Setup.show`: the text that shows them. -/

namespace ClassLens.Tool.Comparing

open Shell

/-! ### Contents -/

/-- One of two contents. -/
structure Side where
  name : String
  /-- When the content was changed, in billionths of a second. -/
  time : Int := 0
  lines : Array String
  /-- Whether the last line has no break. -/
  isCut : Bool

/-- A content by its lines. -/
def Side.ofText (name : String) (time : Int) (content : String) : Side :=
  let rows := fullLines content
  { name
    time
    lines := (rows.map (bare '\n')).toArray
    isCut := rows.getLast?.any fun row => !row.endsWith "\n" }

/-- A line of a content. -/
def Side.line (s : Side) (i : Nat) : String := (s.lines[i]?).getD ""

/-- Whether a line is the last one and has no break. -/
def Side.isCutAt (s : Side) (i : Nat) : Bool := s.isCut && i + 1 = s.lines.size

/-! ### Which lines are the same -/

/-- Which blanks do not matter. -/
inductive Blanks where
  | none
  /-- Those that a tab may stand for. -/
  | tabs
  | atEnd
  | tabsAndEnd
  /-- How many there are. -/
  | amount
  | all
  deriving DecidableEq

/-- A style in which changes are shown. -/
inductive Style where
  | plain
  | unified (context : Nat)
  | context (context : Nat)
  /-- Commands of an editor, from the last change to the first one. -/
  | editing
  | forwards
  /-- Commands with counts. -/
  | counted
  | columns
  deriving DecidableEq

/-- Which lines count as the same ones, and how changes are shown. -/
structure Setup where
  style : Option Style := none
  blanks : Blanks := .none
  anyCase : Bool := false
  dropsReturns : Bool := false
  /-- Changes of lines that have nothing on them, or that a pattern matches, are passed over. -/
  passesBlank : Bool := false
  passes : List Regex := []
  isLeast : Bool := false
  brief : Bool := false
  tellsSame : Bool := false
  recursive : Bool := false
  /-- Whether files that are missing count as empty ones, of both sides or of the first one. -/
  fills : Bool := false
  fillsFirst : Bool := false
  asText : Bool := false
  labels : List String := []
  /-- What the line looks like that is shown for the place of a change. -/
  heading : Option Regex := none
  leadsWithTab : Bool := false
  expandsTabs : Bool := false
  leftOnly : Bool := false
  hidesSame : Bool := false
  width : Nat := 130
  tabSize : Nat := 8
  horizon : Nat := 0
  excluded : List String := []
  /-- The options as they were given. -/
  given : List String := []

/-- The lines around changes that are shown. -/
def Setup.context (x : Setup) : Nat :=
  match x.style with
  | some (.unified n) | some (.context n) => n
  | _ => 0

/-- Whether a character is blank. -/
def isSpace (c : Char) : Bool := c == ' ' || ('\t' ≤ c && c ≤ '\r')

/-- A text without the blanks at its end. -/
def dropEnd (s : List Char) : List Char := (s.reverse.dropWhile isSpace).reverse

/-- A text with blanks for its tabs. -/
def expandTabs (size : Nat) : Nat → List Char → List Char
  | _, [] => []
  | column, c :: s =>
    if c == '\t' then
      let n := size - column % size
      List.replicate n ' ' ++ expandTabs size (column + n) s
    else c :: expandTabs size (column + 1) s

/-- A text with one blank for each row of blanks. -/
def narrow : List Char → List Char
  | [] => []
  | [c] => [if isSpace c then ' ' else c]
  | c :: d :: s => if isSpace c then (if isSpace d then narrow (d :: s) else ' ' :: narrow (d :: s)) else c :: narrow (d :: s)

/-- What matters of a line. -/
def Setup.key (x : Setup) (line : String) : String :=
  let s := line.toList
  let s := if x.dropsReturns && s.getLast? == some '\r' then s.dropLast else s
  let s := match x.blanks with
    | .none => s
    | .tabs => expandTabs x.tabSize 0 s
    | .atEnd => dropEnd s
    | .tabsAndEnd => expandTabs x.tabSize 0 (dropEnd s)
    | .amount => narrow (dropEnd s)
    | .all => s.filter fun c => !isSpace c
  String.ofList (if x.anyCase then s.map Char.toLower else s)

/-- Whether the break at the end of a content matters. -/
def Setup.seesCut (x : Setup) : Bool :=
  x.blanks = .none || x.blanks = .tabs

/-- The lines of both contents as numbers, the same ones for lines that are the same, and how many there are. -/
def Setup.classes (x : Setup) (a b : Side) : Array Nat × Array Nat × Nat :=
  let keysOf (s : Side) : List (String × Bool) :=
    s.lines.toList.zipIdx.map fun (line, i) => (x.key line, x.seesCut && s.isCutAt i)
  let number (row : List (String × Bool)) (known : List (String × Bool)) : Array Nat × List (String × Bool) :=
    row.foldl (fun (numbers, known) k =>
      match known.idxOf? k with
      | some i => (numbers.push i, known)
      | none => (numbers.push known.length, known ++ [k])) (#[], known)
  let (first, known) := number (keysOf a) []
  let (second, known) := number (keysOf b) known
  (first, second, known.length)

/-- How many lines at the start of two contents are the same ones, character by character. -/
def commonStart (a b : Side) (most : Nat) : Nat :=
  ((List.range most).takeWhile fun i => a.line i = b.line i && a.isCutAt i = b.isCutAt i).length

/-- How many lines at the end of two contents are the same ones, character by character. -/
def commonEnd (a b : Side) (most : Nat) : Nat :=
  if a.isCut ≠ b.isCut then 0
  else ((List.range most).takeWhile fun i =>
    a.line (a.lines.size - 1 - i) = b.line (b.lines.size - 1 - i)).length

/-- The changes between two contents. -/
def Setup.compare (x : Setup) (a b : Side) : List Change :=
  let shorter := min a.lines.size b.lines.size
  let horizon := max x.horizon x.context
  let start := commonStart a b shorter - horizon
  let finish := commonEnd a b (shorter - start) - horizon
  let (first, second, count) := x.classes a b
  let middle (row : Array Nat) : Array Nat := row.extract start (row.size - finish)
  (changesOf x.isLeast count (middle first) (middle second)).map fun c =>
    { c with first := c.first + start, second := c.second + start }

/-! ### Changes that do not matter -/

/-- Whether a line may be passed over in a change. -/
def Setup.passesLine (x : Setup) (line : String) : Bool :=
  let s := line.toList
  let bared := match x.blanks with
    | .atEnd | .tabsAndEnd => if s.all isSpace then [] else s
    | .amount | .all => s.dropWhile isSpace
    | _ => s
  (x.passesBlank && bared.isEmpty) || x.passes.any fun r => (r.find false s 0).isSome

/-- Whether all lines of a change may be passed over. -/
def Setup.passesOver (x : Setup) (a b : Side) (c : Change) : Bool :=
  (x.passesBlank || !x.passes.isEmpty) &&
    (List.range c.gone).all (fun i => x.passesLine (a.line (c.first + i))) &&
    (List.range c.new).all fun i => x.passesLine (b.line (c.second + i))

/-! ### Parts of the text -/

/-- A line after a sign. -/
def Setup.lineText (x : Setup) (sign : String) (s : Side) (i : Nat) : String :=
  let line := s.line i
  let line := if x.expandsTabs then String.ofList (expandTabs x.tabSize 0 line.toList) else line
  let lead := if sign = "" then "" else sign ++ if x.leadsWithTab then "\t" else if sign.length = 1 then " " else ""
  lead ++ line ++ "\n" ++ if s.isCutAt i then "\\ No newline at end of file\n" else ""

/-- A range of lines by its first and last number; an empty one by the line before it. -/
def rangeText (joint : String) (first count : Nat) : String :=
  if count > 1 then toString (first + 1) ++ joint ++ toString (first + count) else toString (first + count)

/-- The letter for a change. -/
def letterOf (c : Change) : String :=
  if c.gone = 0 then "a" else if c.new = 0 then "d" else "c"

/-- Lines of a content after a sign. -/
def Setup.linesText (x : Setup) (sign : String) (s : Side) (first count : Nat) : String :=
  String.join ((List.range count).map fun i => x.lineText sign s (first + i))

/-- A change in the plain style. -/
def Setup.plainChange (x : Setup) (a b : Side) (c : Change) : String :=
  rangeText "," c.first c.gone ++ letterOf c ++ rangeText "," c.second c.new ++ "\n" ++
    x.linesText "<" a c.first c.gone ++ (if c.gone > 0 ∧ c.new > 0 then "---\n" else "") ++
    x.linesText ">" b c.second c.new

/-- A change as commands of an editor. A line with a point alone would end the text that is put in. -/
def editChange (b : Side) (c : Change) : String :=
  let (body, isOpen) := (List.range c.new).foldl (fun (out, isOpen) i =>
    let line := b.line (c.second + i)
    let out := if isOpen then out else out ++ "a\n"
    if line = "." then (out ++ "..\n.\ns/.//\n", false) else (out ++ line ++ "\n", true)) ("", true)
  rangeText "," c.first c.gone ++ letterOf c ++ "\n" ++
    if c.new = 0 then "" else body ++ if isOpen then ".\n" else ""

/-- A change as commands that are carried out from the start on. -/
def forwardChange (b : Side) (c : Change) : String :=
  letterOf c ++ rangeText " " c.first c.gone ++ "\n" ++
    if c.new = 0 then "" else String.join ((List.range c.new).map fun i => b.line (c.second + i) ++ "\n") ++ ".\n"

/-- A change as commands with counts. -/
def countedChange (b : Side) (c : Change) : String :=
  (if c.gone > 0 then "d" ++ toString (c.first + 1) ++ " " ++ toString c.gone ++ "\n" else "") ++
    if c.new > 0 then
      "a" ++ toString (c.first + c.gone) ++ " " ++ toString c.new ++ "\n" ++
        String.join ((List.range c.new).map fun i =>
          b.line (c.second + i) ++ if b.isCutAt (c.second + i) then "" else "\n")
    else ""

/-! ### Changes with the lines around them -/

/-- Changes that stand near one another, each with whether it may be passed over. -/
def groups (context : Nat) : List (Change × Bool) → List (List (Change × Bool))
  | [] => []
  | [c] => [[c]]
  | c :: d :: rest =>
    let distance := d.1.first - (c.1.first + c.1.gone)
    let limit := if d.2 then context else 2 * context + 1
    match groups context (d :: rest) with
    | g :: gs => if distance < limit then (c :: g) :: gs else [c] :: g :: gs
    | [] => [[c]]

/-- The line that tells where lines stand: the last one before them that looks like it. -/
def Setup.headingText (x : Setup) (a : Side) (first : Nat) : String :=
  match x.heading with
  | none => ""
  | some r =>
    match (List.range first).reverse.find? fun i => (r.find false (a.line i).toList 0).isSome with
    | none => ""
    | some i => " " ++ String.ofList (dropEnd (((a.line i).toList.dropWhile isSpace).take 40))

/-- A range of lines by its first number and how many there are. -/
def countText (first count : Nat) : String :=
  if count = 1 then toString (first + 1)
  else if count = 0 then toString first ++ ",0"
  else toString (first + 1) ++ "," ++ toString count

/-- The first lines and the numbers of lines of both contents that are shown for some changes. -/
def windowOf (context : Nat) (a b : Side) (cs : List Change) : Nat × Nat × Nat × Nat :=
  let first := cs.headD ⟨0, 0, 0, 0⟩
  let last := cs.getLast?.getD first
  let x := first.first - context
  let y := first.second - context
  let xEnd := min a.lines.size (last.first + last.gone + context)
  let yEnd := min b.lines.size (last.second + last.new + context)
  (x, xEnd - x, y, yEnd - y)

/-- Changes with lines around them, as one row of lines. -/
def Setup.unifiedGroup (x : Setup) (context : Nat) (a b : Side) (cs : List Change) : String :=
  let (first, count, second, others) := windowOf context a b cs
  let mark (sign : String) (s : Side) (i n : Nat) : String :=
    String.join ((List.range n).map fun k =>
      sign ++ (if x.leadsWithTab then "\t" else "") ++ x.lineText "" s (i + k))
  let same (i n : Nat) : String :=
    String.join ((List.range n).map fun k => (if x.leadsWithTab then "\t" else " ") ++ x.lineText "" a (i + k))
  let (body, place) := cs.foldl (fun (out, place) c =>
    (out ++ same place (c.first - place) ++ mark "-" a c.first c.gone ++ mark "+" b c.second c.new,
      c.first + c.gone)) ("", first)
  "@@ -" ++ countText first count ++ " +" ++ countText second others ++ " @@" ++ x.headingText a first ++ "\n" ++
    body ++ same place (first + count - place)

/-- A range of lines by its first and last number, where one line has one number. -/
def contextRange (first count : Nat) : String :=
  if count ≤ 1 then toString (first + count) else toString (first + 1) ++ "," ++ toString (first + count)

/-- Changes with lines around them, those of the first content before those of the second one. -/
def Setup.contextGroup (x : Setup) (context : Nat) (a b : Side) (cs : List Change) : String :=
  let (first, count, second, others) := windowOf context a b cs
  let part (s : Side) (start n : Nat) (place size other : Change → Nat) (sign : String) : String :=
    if cs.all fun c => size c = 0 then ""
    else String.join ((List.range n).map fun k =>
      let i := start + k
      let lead := match cs.find? fun c => place c ≤ i && i < place c + size c with
        | some c => if other c > 0 then "!" else sign
        | none => " "
      x.lineText lead s i)
  "***************" ++ x.headingText a first ++ "\n*** " ++ contextRange first count ++ " ****\n" ++
    part a first count Change.first Change.gone Change.new "-" ++
    "--- " ++ contextRange second others ++ " ----\n" ++
    part b second others Change.second Change.new Change.gone "+"

/-! ### Two columns -/

/-- The blanks from a column to another one. -/
def Setup.gap (x : Setup) : Nat → Nat → Nat → String
  | 0, _, _ => ""
  | n + 1, start, stop =>
    if start ≥ stop then ""
    else
      let tab := start + x.tabSize - start % x.tabSize
      if !x.expandsTabs && tab ≤ stop then "\t" ++ gap x n tab stop else " " ++ gap x n (start + 1) stop

/-- As much of a line as fits into half of the width, and the column where it ends; `seen` is the column where it
would be if all of it were shown. -/
def Setup.half (x : Setup) (width : Nat) : List Char → Nat → Nat → String × Nat
  | [], _, column => ("", column)
  | c :: s, seen, column =>
    if c == '\t' then
      let n := x.tabSize - seen % x.tabSize
      if seen = column && column + n < width then
        let (out, stop) := half x width s (seen + n) (column + n)
        ((if x.expandsTabs then String.ofList (List.replicate n ' ') else "\t") ++ out, stop)
      else half x width s (seen + n) column
    else if seen + 1 ≤ width then
      let (out, stop) := half x width s (seen + 1) (seen + 1)
      (String.singleton c ++ out, stop)
    else half x width s (seen + 1) column

/-- A line of two columns. -/
def Setup.row (x : Setup) (a b : Side) (left : Option Nat) (sign : Char) (right : Option Nat) : String :=
  let tab := if x.expandsTabs then 1 else x.tabSize
  let both := tab + 3
  let place := x.width / 2 + both / 2 + (x.width % 2) * (both % 2)
  let place := place - place % tab
  let width := min (place - 3) (x.width - place)
  let second := if width = 0 then x.width else place
  let (text, column) := match left with
    | some i => x.half width (a.line i).toList 0 0
    | none => ("", 0)
  let endsLeft := left.any fun i => !a.isCutAt i
  let endsRight := right.any fun i => !b.isCutAt i
  let sign := if sign == '|' && endsLeft ≠ endsRight then (if endsLeft then '/' else '\\') else sign
  let (text, column) :=
    if sign == ' ' then (text, column)
    else
      let middle := (width + second - 1) / 2
      (text ++ x.gap (middle + 1) column middle ++ String.singleton sign, middle + 1)
  let text := match right with
    | some i =>
      if b.line i = "" then text
      else text ++ x.gap (second + 1) column second ++ (x.half width (b.line i).toList 0 0).1
    | none => text
  text ++ if endsLeft || endsRight then "\n" else ""

/-- Lines that both contents have, in two columns. -/
def Setup.sameRows (x : Setup) (a b : Side) (i j n m : Nat) : String :=
  if x.hidesSame then ""
  else if x.leftOnly then String.join ((List.range n).map fun k => x.row a b (some (i + k)) '(' none)
  else
    String.join ((List.range (min n m)).map fun k => x.row a b (some (i + k)) ' ' (some (j + k))) ++
      String.join ((List.range (m - n)).map fun k => x.row a b none ')' (some (j + n + k))) ++
      String.join ((List.range (n - m)).map fun k => x.row a b (some (i + m + k)) '(' none)

/-- Both contents in two columns. -/
def Setup.rows (x : Setup) (a b : Side) (cs : List Change) : String :=
  let (out, i, j) := cs.foldl (fun (out, i, j) c =>
    let pairs := min c.gone c.new
    let same := x.sameRows a b i j (c.first - i) (c.second - j)
    let changed := String.join ((List.range pairs).map fun k =>
      x.row a b (some (c.first + k)) '|' (some (c.second + k)))
    let new := String.join ((List.range (c.new - pairs)).map fun k =>
      x.row a b none '>' (some (c.second + pairs + k)))
    let gone := String.join ((List.range (c.gone - pairs)).map fun k =>
      x.row a b (some (c.first + pairs + k)) '<' none)
    (out ++ same ++ changed ++ new ++ gone, c.first + c.gone, c.second + c.new)) ("", 0, 0)
  out ++ x.sameRows a b i j (a.lines.size - i) (b.lines.size - j)

/-! ### All of it -/

/-- The name of a content at the start of a text that shows changes. -/
def Setup.nameLine (x : Setup) (sign format : String) (index : Nat) (s : Side) : String :=
  match x.labels[index]? with
  | some label => sign ++ " " ++ label ++ "\n"
  | none =>
    let time := Moment.ofSeconds (s.time.fdiv 1000000000) (s.time.fmod 1000000000).toNat 0 "UTC"
    sign ++ " " ++ s.name ++ "\t" ++ time.write true format ++ "\n"

/-- The text that shows the changes between two contents. -/
def Setup.show (x : Setup) (a b : Side) (changes : List Change) : String :=
  let each (f : Change → String) (cs : List Change) : String := String.join (cs.map f)
  let matter := changes.filter fun c => !x.passesOver a b c
  let near (context : Nat) : List (List Change) :=
    (groups context (changes.map fun c => (c, x.passesOver a b c))).filterMap fun g =>
      if g.all Prod.snd then none else some (g.map Prod.fst)
  match x.style.getD .plain with
  | .plain => each (x.plainChange a b) matter
  | .editing => each (editChange b) matter.reverse
  | .forwards => each (forwardChange b) matter
  | .counted => each (countedChange b) matter
  | .columns => x.rows a b matter
  | .unified context =>
    let format := "%Y-%m-%d %H:%M:%S.%N %z"
    x.nameLine "---" format 0 a ++ x.nameLine "+++" format 1 b ++
      String.join ((near context).map (x.unifiedGroup context a b))
  | .context context =>
    let format := "%a %b %e %H:%M:%S %Y"
    x.nameLine "***" format 0 a ++ x.nameLine "---" format 1 b ++
      String.join ((near context).map (x.contextGroup context a b))

end ClassLens.Tool.Comparing
