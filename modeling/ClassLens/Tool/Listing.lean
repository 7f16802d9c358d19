import ClassLens.Tool.Facts
import ClassLens.Tool.Sorting

/-! # Listing directories

* `Listing.Style`: what a listing shows of files and in which order.
* `Listing.show_`: the lines of a listing.
* `ls`, `dir`, `vdir`: the programs that list. -/

namespace ClassLens.Tool

open Shell

namespace Listing

/-- How entries are arranged. -/
inductive Form where
  | lines
  | long
  | columns
  | across
  | commas
  deriving DecidableEq

/-- By what entries are ordered. -/
inductive Order where
  | name
  | none
  | size
  | time
  | version
  | extension
  | width
  deriving DecidableEq

/-- Which marks tell of the kind of an entry. -/
inductive Marks where
  | none
  | slash
  | kind
  | all
  deriving DecidableEq

/-- Which links are followed. -/
inductive Follow where
  | none
  | directories
  | operands
  | all
  deriving DecidableEq

/-- What a listing shows. -/
structure Style where
  form : Form := .lines
  order : Order := .name
  reversed : Bool := false
  directoriesFirst : Bool := false
  /-- Whether hidden names are shown, and whether the two are that each directory has. -/
  hidden : Bool := false
  own : Bool := false
  /-- Patterns of names that are not shown; those of the second row are shown with all hidden ones. -/
  ignored : List String := []
  alsoHidden : List String := []
  recursive : Bool := false
  asFiles : Bool := false
  follow : Follow := .directories
  marks : Marks := .none
  quoting : QuotingStyle := .literal
  /-- Whether what cannot be shown is shown as a question mark. -/
  masks : Bool := false
  /-- Which columns there are. -/
  inodes : Bool := false
  blocks : Bool := false
  owner : Bool := true
  group : Bool := true
  author : Bool := false
  numeric : Bool := false
  /-- The base of the units of sizes, if they are shown with units. -/
  base : Option Nat := none
  /-- The unit of blocks and that of sizes. -/
  blockUnit : Nat := 1024
  sizeUnit : Nat := 1
  /-- What stands behind sizes. -/
  unitMark : String := ""
  /-- How times are shown: those of long ago and those of late. -/
  timeForms : String × String := ("%b %e  %Y", "%b %e %H:%M")
  width : Nat := 80
  tab : Nat := 8
  stop : String := "\n"

/-- An entry of a listing: the name that is shown and where it stands. -/
structure Entry where
  name : String
  place : Location
  /-- The place that the facts are taken from. -/
  shown : Location

/-- Whether an entry is a directory. -/
def Entry.isDirectory (t : FileTree) (e : Entry) : Bool := t.isDirectoryAt e.shown

/-! ### The order of entries -/

/-- The ending of a name, from its last point on. -/
def extensionOf (name : String) : String :=
  let tail := name.toList.reverse.takeWhile (· != '.')
  if tail.length = name.length then "" else String.ofList ('.' :: tail.reverse)

/-- Whether an entry may stand before another one. -/
def precedes (t : FileTree) (order : Order) (a b : Entry) : Bool :=
  let byName := a.name ≤ b.name
  match order with
  | .none => true
  | .name => byName
  | .size =>
    let (m, n) := (sizeAt t a.shown, sizeAt t b.shown)
    n < m || (m = n && byName)
  | .time =>
    let (m, n) := (timeOf t a.shown, timeOf t b.shown)
    n < m || (m = n && byName)
  | .version =>
    match compareVersions a.name.toList b.name.toList with
    | .lt => true
    | .eq => byName
    | .gt => false
  | .extension =>
    let (x, y) := (extensionOf a.name, extensionOf b.name)
    x < y || (x = y && byName)
  | .width => a.name.length < b.name.length || (a.name.length = b.name.length && byName)

/-- Entries in order. -/
def Style.sorted (s : Style) (t : FileTree) (entries : List Entry) : List Entry :=
  let row := entries.mergeSort (precedes t s.order)
  let row := if s.reversed then row.reverse else row
  if s.directoriesFirst then
    let leads (e : Entry) : Bool := (throughLinks t e.shown).toOption.any t.isDirectoryAt
    row.filter leads ++ row.filter fun e => !leads e
  else row

/-! ### One entry -/

/-- The mark of what stands at a place. -/
def Style.markAt (s : Style) (t : FileTree) (here : Location) : String :=
  match s.marks, t.node? here with
  | .none, _ => ""
  | _, some .directory => "/"
  | .slash, _ => ""
  | _, some (.link _) => "@"
  | .all, some (.file _ true) => "*"
  | .all, some (.file ..) => if t.modeAt here &&& 0o111 ≠ 0 then "*" else ""
  | _, _ => ""

/-- A name as it is shown. -/
def Style.nameText (s : Style) (name : String) : String :=
  let text := quotedAs s.quoting name
  if s.masks then text.map fun c => if isPrintable c then c else '?' else text

/-- A count of blocks. -/
def Style.blockText (s : Style) (n : Nat) : String :=
  match s.base with
  | some base => sizeForReader base (n * 512)
  | none => toString (ceilDiv (n * 512) s.blockUnit) ++ s.unitMark

/-- A size. -/
def Style.sizeText (s : Style) (n : Nat) : String :=
  match s.base with
  | some base => sizeForReader base n
  | none => toString (ceilDiv n s.sizeUnit) ++ s.unitMark

/-- What stands before the name of an entry, the numbers filled up to some widths. -/
def Style.before (s : Style) (t : FileTree) (inodeWidth blockWidth : Nat) (e : Entry) : String :=
  (if s.inodes then padLeft inodeWidth (toString (inodeAt t e.shown)) ++ " " else "") ++
    if s.blocks then padLeft blockWidth (s.blockText (blocksAt t e.shown)) ++ " " else ""

/-- A name with what stands before and after it, where entries stand side by side. -/
def Style.cell (s : Style) (t : FileTree) (inodeWidth blockWidth : Nat) (pad : Bool) (e : Entry) : String :=
  let name := s.nameText e.name
  let gap := if pad && name = e.name then " " else ""
  s.before t inodeWidth blockWidth e ++ gap ++ name ++ s.markAt t e.shown

/-- The greatest length of some texts. -/
def widest (texts : List String) : Nat := (texts.map String.length).foldl max 0

/-- Whether a time is neither more than half a year ago nor to come. -/
def isLate (now time : Int) : Bool := now - 15778476 < time && time ≤ now

/-- The lines of a long listing. -/
def Style.longLines (s : Style) (t : FileTree) (now : Int) (pad : Bool) (entries : List Entry) : List String :=
  let inodeWidth := widest (entries.map fun e => toString (inodeAt t e.shown))
  let blockWidth := widest (entries.map fun e => s.blockText (blocksAt t e.shown))
  let linkWidth := widest (entries.map fun e => toString (linksAt t e.shown))
  let size (e : Entry) : String :=
    match t.node? e.shown with
    | some .sink => "1, 3"
    | some .zeros => "1, 5"
    | _ => s.sizeText (sizeAt t e.shown)
  let sizeWidth := widest (entries.map size)
  let who := if s.numeric then "0" else "root"
  entries.map fun e =>
    let node := (t.node? e.shown).getD .sink
    let (seconds, fraction) := secondsAt t e.shown
    let moment := Moment.ofSeconds seconds fraction 0 "UTC"
    let time := moment.write true (if isLate now seconds then s.timeForms.2 else s.timeForms.1)
    let name := s.nameText e.name
    let gap := if pad && name = e.name then " " else ""
    let tail :=
      match node with
      | .link target =>
        let mark := match throughLinks t e.shown with
          | .ok there => s.markAt t there
          | .error _ => ""
        " -> " ++ s.nameText (ofBytes target.bytes) ++ mark
      | _ => s.markAt t e.shown
    s.before t inodeWidth blockWidth e ++ Modes.full node (t.modeAt e.shown) ++ " " ++
      padLeft linkWidth (toString (linksAt t e.shown)) ++ " " ++
      (if s.owner then who ++ " " else "") ++ (if s.group then who ++ " " else "") ++
      (if s.author then who ++ " " else "") ++ padLeft sizeWidth (size e) ++ " " ++ time ++ " " ++ gap ++ name ++ tail

/-! ### Columns -/

/-- The widths of so many columns, and whether they fit. -/
def columnWidths (lineWidth count : Nat) (byColumns : Bool) (lengths : List Nat) : List Nat × Bool :=
  let n := lengths.length
  let rows := (n + count - 1) / count
  let place (i : Nat) : Nat := if byColumns then i / rows else i % count
  let widths := (lengths.zipIdx).foldl (fun (widths : Array Nat) (length, i) =>
    let column := place i
    let wanted := length + (if column + 1 = count then 0 else 2)
    if widths.getD column 3 < wanted then widths.set! column wanted else widths) (Array.replicate count 3)
  let total := widths.foldl (· + ·) 0
  (widths.toList, total < lineWidth || widths.all (· = 3))

/-- The most columns that fit, with their widths. -/
def fitting (lineWidth : Nat) (byColumns : Bool) (lengths : List Nat) : Nat → Nat × List Nat
  | 0 => (1, [0])
  | 1 => (1, (columnWidths lineWidth 1 byColumns lengths).1)
  | count + 1 =>
    let (widths, fits) := columnWidths lineWidth (count + 1) byColumns lengths
    if fits then (count + 1, widths) else fitting lineWidth byColumns lengths count

/-- The blanks from one column to another one. -/
def indent (tab from_ until_ : Nat) : String :=
  let rec go : Nat → Nat → List Char
    | 0, _ => []
    | n + 1, at_ =>
      if until_ ≤ at_ then []
      else if tab ≠ 0 && until_ / tab > (at_ + 1) / tab then '\t' :: go n (at_ + tab - at_ % tab)
      else ' ' :: go n (at_ + 1)
  String.ofList (go (until_ + 1) from_)

/-- One line of cells, each filled up to the width of its column. -/
def cellLine (tab : Nat) : Nat → List (String × Nat) → String
  | _, [] => ""
  | _, [(text, _)] => text
  | start, (text, width) :: more =>
    text ++ indent tab (start + text.length) (start + width) ++ cellLine tab (start + width) more

/-- Cells side by side. -/
def Style.sideBySide (s : Style) (cells : List String) : List String :=
  let byColumns := s.form = .columns
  let lengths := cells.map String.length
  let n := cells.length
  let most := min n (ceilDiv s.width 3)
  let (count, widths) := fitting s.width byColumns lengths (max most 1)
  let rows := ceilDiv n count
  (List.range rows).map fun row =>
    let places := (List.range count).map fun column => if byColumns then column * rows + row else row * count + column
    cellLine s.tab 0 ((places.zip widths).filterMap fun (i, width) => cells[i]?.map fun c => (c, width))

/-- Cells with commas between them. -/
def Style.withCommas (s : Style) (cells : List String) : String :=
  let rec go (start : Nat) (first : Bool) : List String → String
    | [] => ""
    | cell :: more =>
      let fits := s.width = 0 || start + cell.length + 2 < s.width
      let lead := if first then "" else if fits then ", " else "," ++ s.stop
      let start := if first then start else if fits then start + 2 else 0
      lead ++ cell ++ go (start + cell.length) false more
  go 0 true cells

/-- The text of a listing of some entries. -/
def Style.show_ (s : Style) (t : FileTree) (now : Int) (entries : List Entry) : String :=
  let quotes := [QuotingStyle.shell, .shellEscape, .cMaybe].contains s.quoting
  let pad := quotes && s.form ≠ .lines && s.form ≠ .commas && entries.any fun e => s.nameText e.name ≠ e.name
  let ended (texts : List String) : String := String.join (texts.map (· ++ s.stop))
  let inodeWidth := if s.form = .commas then 0 else widest (entries.map fun e => toString (inodeAt t e.shown))
  let blockWidth := if s.form = .commas then 0 else widest (entries.map fun e => s.blockText (blocksAt t e.shown))
  let cells := entries.map (s.cell t inodeWidth blockWidth pad)
  if entries.isEmpty then ""
  else
    match s.form with
    | .long => ended (s.longLines t now pad entries)
    | .lines => ended cells
    | .commas => s.withCommas cells ++ s.stop
    | .columns | .across =>
      if s.width = 0 then "  ".intercalate cells ++ s.stop else ended (s.sideBySide cells)

/-! ### Directories -/

/-- The entry of a name in a directory. -/
def Style.entry (s : Style) (t : FileTree) (dir : Location) (name : String) : Entry :=
  let place := if name = "." then dir else if name = ".." then dir.dropLast else dir ++ [toBytes name]
  let shown := if s.follow = .all then (throughLinks t place).toOption.getD place else place
  { name, place, shown }

/-- Whether a name is shown. -/
def Style.shows (s : Style) (name : String) : Bool :=
  let fits (pattern : String) : Bool :=
    !(name.startsWith "." && !pattern.startsWith ".") &&
      (Pattern.ofMarked (pattern.toList.map fun c => (c, false))).accepts name.toList
  (s.hidden || !name.startsWith ".") && !s.ignored.any fits && (s.hidden || !s.alsoHidden.any fits)

/-- The entries of a directory. -/
def Style.entriesOf (s : Style) (t : FileTree) (dir : Location) : List Entry :=
  let names := (entriesIn t dir).filter s.shows
  let names := if s.own then "." :: ".." :: names else names
  s.sorted t (names.map (s.entry t dir))

/-- Lists a directory and, if that is asked for, those below it. The path stands above it if it is given a
headline; gives whether all went well. -/
def Style.list (s : Style) (t : FileTree) (now : Int) (headline : Bool) : Nat → Bool → String → Location → Run Unit
  | 0, _, _, _ => pure ()
  | fuel + 1, first, path, here => do
    if headline || s.recursive then
      say ((if first then "" else s.stop) ++ s.nameText path ++ ":" ++ s.stop)
    let isThere := (t.node? here).isSome
    let entries := if isThere then s.entriesOf t here else []
    if s.form = .long || s.blocks then
      say ("total " ++ s.blockText ((entries.map fun e => blocksAt t e.shown).foldl (· + ·) 0) ++ s.stop)
    say (s.show_ t now entries)
    if s.recursive then
      for e in entries do
        if e.isDirectory t && e.name ≠ "." && e.name ≠ ".." then
          s.list t now headline fuel false (inDirectory path e.name) e.shown

/-- Lists operands: first those that are no directories. -/
def Style.listAll (s : Style) (self : String) (operands : List String) : Run Nat := do
  let t ← files
  let now := Int.ofNat ((← present) / 1000000000)
  let isLone := operands.length ≤ 1
  let operands := if operands.isEmpty then ["."] else operands
  let mut found : List Entry := []
  let mut status := 0
  for path in operands do
    let direct := placeOf t path
    let through := t.locate (pathOf path)
    let isLink := t.isLink (pathOf path) && !path.endsWith "/"
    let entry : Except ReadFault Entry :=
      match s.follow, direct, through with
      | .all, _, .error fault => .error fault
      | .all, _, .ok there => .ok ⟨path, there, there⟩
      | .operands, .ok here, .error _ => .ok ⟨path, here, here⟩
      | .operands, _, .ok there => .ok ⟨path, there, there⟩
      | .directories, .ok here, .ok there =>
        if isLink && t.isDirectoryAt there then .ok ⟨path, there, there⟩ else .ok ⟨path, here, here⟩
      | _, .ok here, _ => .ok ⟨path, here, here⟩
      | _, .error fault, _ => .error fault
    match entry with
    | .ok e => found := found ++ [e]
    | .error fault =>
      complain self ("cannot access " ++ quotedName path ++ ": " ++ fault.wording)
      status := 2
  let sorted := s.sorted t found
  -- a directory that was taken away can still be listed: nothing is in it
  let isListed (e : Entry) : Bool := !s.asFiles && (e.isDirectory t || (t.node? e.shown).isNone)
  let single := sorted.filter fun e => !isListed e
  let dirs := sorted.filter isListed
  if !single.isEmpty then
    say (s.show_ t now single)
    if !dirs.isEmpty then say s.stop
  let headline := !(single.isEmpty && isLone && dirs.length = 1)
  for (e, i) in dirs.zipIdx do
    s.list t now headline 200 (i = 0) e.name e.shown
  return status

end Listing

open Listing

/-- The words for the forms of listings. -/
def listingForms : List (String × Listing.Form) :=
  [("verbose", .long), ("long", .long), ("commas", .commas), ("horizontal", .across), ("across", .across),
    ("vertical", .columns), ("single-column", .lines)]

/-- The words for the orders of listings. -/
def listingOrders : List (String × Order) :=
  [("none", .none), ("time", .time), ("size", .size), ("extension", .extension), ("version", .version),
    ("width", .width)]

/-- The words for the marks of listings. -/
def listingMarks : List (String × Marks) :=
  [("none", .none), ("slash", .slash), ("file-type", .kind), ("classify", .all)]

/-- The words for the times that listings show. -/
def listingTimes : List (String × Char) :=
  [("atime", 'a'), ("access", 'a'), ("use", 'a'), ("ctime", 'c'), ("status", 'c'), ("mtime", 'm'),
    ("modification", 'm'), ("birth", 'b'), ("creation", 'b')]

/-- The words for whether something is coloured or marked. -/
def listingWhens : List (String × Bool) :=
  [("always", true), ("yes", true), ("force", true), ("never", false), ("no", false), ("none", false),
    ("auto", false), ("tty", false), ("if-tty", false)]

/-- The forms of times by a word or by a text after a plus sign. -/
def timeFormsOf? (word : String) : Option (String × String) :=
  if word.startsWith "+" then
    match (word.drop 1).toString.splitOn "\n" with
    | [one] => some (one, one)
    | [old, late] => some (old, late)
    | _ => none
  else
    wordOf? [("full-iso", ("%Y-%m-%d %H:%M:%S.%N %z", "%Y-%m-%d %H:%M:%S.%N %z")),
      ("long-iso", ("%Y-%m-%d %H:%M", "%Y-%m-%d %H:%M")), ("iso", ("%Y-%m-%d ", "%m-%d %H:%M")),
      ("locale", ("%b %e  %Y", "%b %e %H:%M"))] (if word.startsWith "posix-" then "locale" else word)

/-- A listing program, which starts from a style of its own. -/
def listing (start : Style) : Tool := fun self args =>
  let o : Options := {
    flags := "aAbBcCdDfgGhHiklLmnNopqQrRsStuUvxXZ1".toList ++ ['\x01', '\x02', '\x03', '\x04', '\x05', '\x06', '\x07']
    valued := ['I', 'T', 'w', '\x10', '\x11', '\x12', '\x13', '\x14', '\x15', '\x16', '\x17']
    optional := ['F', '\x18', '\x19']
    names := [("all", 'a'), ("almost-all", 'A'), ("author", '\x01'), ("escape", 'b'), ("block-size", '\x10'),
      ("ignore-backups", 'B'), ("color", '\x18'), ("classify", 'F'), ("file-type", '\x02'), ("format", '\x11'),
      ("directory", 'd'), ("dired", 'D'), ("full-time", '\x03'), ("group-directories-first", '\x04'),
      ("no-group", 'G'), ("human-readable", 'h'), ("si", '\x05'), ("dereference-command-line", 'H'),
      ("dereference-command-line-symlink-to-dir", '\x06'), ("hide", '\x12'), ("hyperlink", '\x19'),
      ("indicator-style", '\x13'), ("inode", 'i'), ("ignore", 'I'), ("kibibytes", 'k'), ("dereference", 'L'),
      ("numeric-uid-gid", 'n'), ("literal", 'N'), ("hide-control-chars", 'q'), ("show-control-chars", '\x07'),
      ("quote-name", 'Q'), ("quoting-style", '\x14'), ("reverse", 'r'), ("recursive", 'R'), ("size", 's'),
      ("sort", '\x15'), ("tabsize", 'T'), ("time", '\x16'), ("time-style", '\x17'), ("width", 'w'), ("context", 'Z')] }
  -- the letter for marks takes no value
  let o := { o with
    flags := 'F' :: o.flags
    optional := o.optional.filter (· != 'F') }
  o.read self args 2 fun g => do
    let mut s := start
    let mut ordered := false
    let mut timed := false
    let mut follow : Option Follow := none
    for (letter, value) in g.options do
      match letter with
      | 'a' => s := { s with hidden := true, own := true }
      | 'A' => s := { s with hidden := true, own := false }
      | '\x01' => s := { s with author := true }
      | 'b' => s := { s with quoting := .escape }
      | 'B' => s := { s with ignored := s.ignored ++ ["*~", ".*~"] }
      | 'C' => s := { s with form := .columns }
      | 'd' => s := { s with asFiles := true }
      | 'f' =>
        ordered := true
        s := { s with
          order := .none
          hidden := true
          own := true
          blocks := false
          form := if s.form = .long then .lines else s.form }
      | 'F' => s := { s with marks := .all }
      | '\x02' => s := { s with marks := .kind }
      | 'p' => s := { s with marks := .slash }
      | 'g' => s := { s with form := .long, owner := false }
      | 'o' => s := { s with form := .long, group := false }
      | 'G' => s := { s with group := false }
      | 'n' => s := { s with form := .long, numeric := true }
      | 'l' => s := { s with form := .long }
      | 'm' => s := { s with form := .commas }
      | 'x' => s := { s with form := .across }
      | '1' => s := { s with form := if s.form = .long then .long else .lines }
      | '\x03' => s := { s with form := .long, timeForms := (timeFormsOf? "full-iso").getD ("", "") }
      | '\x04' => s := { s with directoriesFirst := true }
      | 'h' => s := { s with base := some 1024 }
      | '\x05' => s := { s with base := some 1000 }
      | 'k' => s := { s with blockUnit := 1024 }
      | 'H' => follow := some .operands
      | '\x06' => follow := some .directories
      | 'L' => follow := some .all
      | 'i' => s := { s with inodes := true }
      | 's' => s := { s with blocks := true }
      | 'N' => s := { s with quoting := .literal }
      | 'q' => s := { s with masks := true }
      | '\x07' => s := { s with masks := false }
      | 'Q' => s := { s with quoting := .c }
      | 'r' => s := { s with reversed := true }
      | 'R' => s := { s with recursive := true }
      | 'S' =>
        ordered := true
        s := { s with order := .size }
      | 't' =>
        ordered := true
        s := { s with order := .time }
      | 'U' =>
        ordered := true
        s := { s with order := .none }
      | 'v' =>
        ordered := true
        s := { s with order := .version }
      | 'X' =>
        ordered := true
        s := { s with order := .extension }
      | 'c' | 'u' => timed := true
      | 'I' => s := { s with ignored := s.ignored ++ [value] }
      | '\x12' => s := { s with alsoHidden := s.alsoHidden ++ [value] }
      | 'w' =>
        match natOf? value with
        | some n => s := { s with width := n }
        | none =>
          complain self ("invalid line width: " ++ quoted value)
          return 2
      | 'T' =>
        match natOf? value with
        | some n => s := { s with tab := n }
        | none =>
          complain self ("invalid tab size: " ++ quoted value)
          return 2
      | '\x10' =>
        if value = "human-readable" then s := { s with base := some 1024 }
        else if value = "si" then s := { s with base := some 1000 }
        else
          let isBare := !(value.toList.head?.any Char.isDigit)
          match sizeOf? (if isBare then "1" ++ value else value) with
          | some n =>
            s := { s with
              blockUnit := n
              sizeUnit := n
              unitMark := if isBare then value else "" }
          | none =>
            complain self ("invalid --block-size argument " ++ quoted value)
            return 2
      | '\x11' =>
        match wordOf? listingForms value with
        | some form => s := { s with form := form }
        | none => return ← refuseWord self "--format" value listingForms 2
      | '\x13' =>
        match wordOf? listingMarks value with
        | some marks => s := { s with marks := marks }
        | none => return ← refuseWord self "--indicator-style" value listingMarks 2
      | '\x14' =>
        match wordOf? quotingStyles value with
        | some quoting => s := { s with quoting := quoting }
        | none => return ← refuseWord self "--quoting-style" value quotingStyles 2
      | '\x15' =>
        match wordOf? listingOrders value with
        | some order =>
          ordered := true
          s := { s with order := order }
        | none => return ← refuseWord self "--sort" value listingOrders 2
      | '\x16' =>
        if (wordOf? listingTimes value).isNone then return ← refuseWord self "--time" value listingTimes 2
        timed := true
      | '\x17' =>
        match timeFormsOf? value with
        | some forms => s := { s with timeForms := forms }
        | none =>
          complain self ("invalid argument " ++ quoted value ++ " for 'time style'")
          tell ("Valid arguments are:\n  - [posix-]full-iso\n  - [posix-]long-iso\n  - [posix-]iso\n  - [posix-]locale\n" ++
            "  - +FORMAT (e.g., +%H:%M) for a 'date'-style format\n")
          tell ("Try '" ++ self ++ " --help' for more information.\n")
          return 2
      | '\x18' =>
        if value ≠ "" && (wordOf? listingWhens value).isNone then
          return ← refuseWord self "--color" value listingWhens 2
      | _ => pure ()
    if timed && !ordered && s.form ≠ .long then s := { s with order := .time }
    let usual : Follow := if s.asFiles || s.form = .long || s.marks = .all then .none else .directories
    s := { s with follow := follow.getD usual }
    s.listAll self g.operands

/-- Lists files. -/
def ls : Tool := listing {}

/-- Lists files in columns. -/
def dir : Tool := listing { form := .columns, quoting := .escape }

/-- Lists files at length. -/
def vdir : Tool := listing { form := .long, quoting := .escape }

end ClassLens.Tool
