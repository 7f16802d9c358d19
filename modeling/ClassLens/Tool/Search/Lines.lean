import ClassLens.Shell.Format
import ClassLens.Tool.Regex.Reader
import ClassLens.Tool.Regex.RichReader

/-! # Finding lines and showing them

A pattern is a text, a regular expression or a rich one; it may have to match a whole word or a whole line.

* `Finder`: finds the first match in a line from an offset on.
* `Key.searchOf`: the search for some patterns, or what is wrong with them.
* `idleSigns`: what is remarked about repetitions that have nothing to repeat.
* `Listing`: what is shown of lines, and how.
* `Listing.report`: what a search of one content gives.

Lines around those that are found are shown with them; a sign stands between groups of lines that do not
follow one another. -/

namespace ClassLens.Tool.Search

/-! ## What lines are searched for -/

/-- Finds the first match in a line from an offset on: where it starts and where it ends. -/
abbrev Finder := List Char → Nat → Option (Nat × Nat)

/-- A search: which lines it selects, and what it finds in them. A line may be selected in which nothing is
found, since a repetition of a place counts only for the selection. -/
structure Search where
  find : Finder
  selects : List Char → Bool

/-- The search that selects the lines in which it finds something. -/
def Search.ofFinder (find : Finder) : Search := ⟨find, fun line => (find line 0).isSome⟩

/-- What kind of patterns is searched for. -/
inductive Kind where
  | basic
  | extended
  | plain
  | rich
  deriving DecidableEq

/-- A pattern, and where it stands if it is of a file. -/
structure Key where
  text : String
  origin : String := ""

/-- What must hold of matches. -/
structure Demand where
  foldsCase : Bool := false
  wholeWords : Bool := false
  wholeLines : Bool := false
  /-- Whether a word may have no characters where a longer match is none. -/
  allowsVoid : Bool := false

/-! ### Expressions -/

/-- The expression of a plain text. -/
def literal (text : List Char) : Regex :=
  match text with
  | [] => .nothing
  | c :: cs => cs.foldl (fun r c => .seq r (.one (.one c))) (.one (.one c))

/-- Whether a character of a word stands before or after a match. -/
def isInWord (chars : List Char) (start stop : Nat) : Bool :=
  (start > 0 && (chars[start - 1]?).any Regex.isWordChar) || (chars[stop]?).any Regex.isWordChar

/-- Where the match of an expression ends that starts at a place and meets the demand. A shorter match is
taken for a word only where it has characters. -/
def stopAt? (d : Demand) (r : Regex) (line : List Char) (p : Regex.Place) : Option Nat :=
  let stops := (r.ends d.foldsCase line (Regex.matchFuel line) p).map Regex.Place.pos
  if d.wholeLines then
    if p.pos = 0 && stops.contains line.length then some line.length else none
  else
    match stops.max? with
    | none => none
    | some longest =>
      if !d.wholeWords || !isInWord line p.pos longest then some longest
      else (stops.filter fun n => (d.allowsVoid || n > p.pos) && !isInWord line p.pos n).max?

/-- The first of the longest matches of some expressions from a place on. -/
def findFrom? (d : Demand) (rs : List Regex) (line : List Char) : Nat → Regex.Place → Option (Nat × Nat)
  | 0, _ => none
  | n + 1, p =>
    match (rs.filterMap fun r => stopAt? d r line p).max? with
    | some stop => some (p.pos, stop)
    | none => if p.after.isEmpty then none else findFrom? d rs line n p.next

/-- The finder of some expressions. -/
def finderOf (d : Demand) (rs : List Regex) : Finder := fun line offset =>
  let start : Regex.Place := { before := [], after := line, pos := 0 }
  findFrom? d rs line (line.length + 1) (start.skip offset)

/-- The finder of a rich expression. -/
def richFinder (r : Rich) : Finder := fun line offset =>
  (r.find? line.toArray offset true).map fun found => (found.start, found.stop)

/-- Whether an expression asks for what a group has matched. -/
def asksAgain : Regex → Bool
  | .again _ => true
  | .seq a b | .either a b => asksAgain a || asksAgain b
  | .many _ _ r | .group _ r => asksAgain r
  | _ => false

/-- The search for some expressions, or what is wrong with them. -/
def searchOfKeys (extended : Bool) (d : Demand) (keys : List Key) : Except (List String) Search :=
  let style := if extended then Regex.extendedSearch else Regex.basicSearch
  let read := keys.map fun k => (k, Regex.parse style k.text.toList)
  let faults := read.filterMap fun (k, r) =>
    match r with
    | .error e => some (k.origin ++ e)
    | .ok _ => none
  if !faults.isEmpty then .error faults
  else
    let rs := read.filterMap fun (_, r) => r.toOption.map Prod.fst
    let search := Search.ofFinder (finderOf d rs)
    let namesSigns (k : Key) : Bool := ["[.", "[="].any fun s => (k.text.splitOn s).length > 1
    if rs.any asksAgain || keys.any namesSigns then .ok search
    else
      let looser := keys.filterMap fun k =>
        (Regex.parse { style with repeatsPlaces := true } k.text.toList).toOption.map Prod.fst
      let select := finderOf { d with allowsVoid := true } looser
      .ok { search with selects := fun line => (select line 0).isSome }

/-- The search for some patterns, or what is wrong with them. -/
def Key.searchOf (kind : Kind) (d : Demand) (keys : List Key) : Except (List String) Search :=
  match kind with
  | .plain => .ok (Search.ofFinder (finderOf d (keys.map fun k => literal k.text.toList)))
  | .rich =>
    let text := (keys.headD ⟨"", ""⟩).text
    let text :=
      if d.wholeLines then "^(?:" ++ text ++ ")$"
      else if d.wholeWords then "(?<!\\w)(?:" ++ text ++ ")(?!\\w)" else text
    let flags : Rich.Flags := { foldsCase := d.foldsCase, strictEnd := true }
    if keys.length > 1 then .error ["the -P option only supports a single pattern"]
    else
      match Rich.parse flags text.toList with
      | .ok (r, _) => .ok (Search.ofFinder (richFinder r))
      | .error e => .error [e]
  | .basic => searchOfKeys false d keys
  | .extended => searchOfKeys true d keys

/-! ### Remarks -/

/-- What follows a set of characters. -/
def afterSet (s : List Char) : List Char :=
  let rec go : Nat → Bool → List Char → List Char
    | 0, _, s => s
    | _ + 1, _, [] => []
    | n + 1, _, '[' :: c :: rest =>
      if c == ':' || c == '.' || c == '=' then
        let inner := rest.takeWhile (· != c)
        match rest.drop inner.length with
        | _ :: ']' :: rest => go n false rest
        | _ => go n false (c :: rest)
      else go n false (c :: rest)
    | n + 1, isFirst, c :: rest => if c == ']' && !isFirst then rest else go n false rest
  match s with
  | '^' :: s => go (s.length + 1) true s
  | s => go (s.length + 1) true s

/-- What follows the bounds of a repetition, if there are such. -/
def afterBounds? (s : List Char) : Option (List Char) :=
  let low := s.takeWhile Char.isDigit
  let rest := s.drop low.length
  match rest with
  | '\x7d' :: rest => if low.isEmpty then none else some rest
  | ',' :: rest =>
    match rest.dropWhile Char.isDigit with
    | '\x7d' :: rest => some rest
    | _ => none
  | _ => none

/-- Remarks about the repetitions of an extended expression that stand at the start of an alternative. -/
def idleSigns (text : String) : List String :=
  let rec go : Nat → Bool → List Char → List String
    | 0, _, _ => []
    | _ + 1, _, [] => []
    | n + 1, isStart, '\\' :: c :: rest => go n (isStart && "<>bB`'".toList.contains c) rest
    | n + 1, isStart, c :: rest =>
      match c with
      | '[' => go n false (afterSet rest)
      | '(' | '|' => go n true rest
      | '^' | '$' => go n isStart rest
      | '*' | '+' | '?' =>
        let remark := if isStart then [String.singleton c ++ " at start of expression"] else []
        remark ++ go n isStart rest
      | '\x7b' =>
        match afterBounds? rest with
        | some rest =>
          (if isStart then ["\x7b...\x7d at start of expression"] else []) ++ go n false rest
        | none => go n false rest
      | _ => go n false rest
  go (text.length + 1) true text.toList

/-! ## Showing the lines that are found -/

/-- The colours of the parts of a line, as numbers between semicolons. -/
structure Colours where
  matched : String := "01;31"
  matchedNear : String := "01;31"
  line : String := ""
  near : String := ""
  path : String := "35"
  number : String := "32"
  offset : String := "32"
  sign : String := "36"
  /-- Whether the colours of lines that are found and of other ones are swapped for other lines. -/
  swaps : Bool := false
  /-- Whether the rest of a line is cleared after a change of colour. -/
  clears : Bool := true

namespace Colours

/-- The start of a colour. -/
def opening (x : Colours) (colour : String) : String :=
  if colour = "" then "" else "\x1b[" ++ colour ++ "m" ++ if x.clears then "\x1b[K" else ""

/-- The end of a colour. -/
def closing (x : Colours) (colour : String) : String :=
  if colour = "" then "" else "\x1b[m" ++ if x.clears then "\x1b[K" else ""

/-- The colours with one of them set by its name. -/
def set (x : Colours) (name value : String) (hasValue : Bool) : Colours :=
  match name with
  | "ne" => { x with clears := false }
  | "rv" => { x with swaps := true }
  | "mt" =>
    let matched := if hasValue then value else x.matched
    { x with matched, matchedNear := matched }
  | _ =>
    if !hasValue then x
    else
      match name with
      | "ms" => { x with matched := value }
      | "mc" => { x with matchedNear := value }
      | "fn" => { x with path := value }
      | "ln" => { x with number := value }
      | "bn" => { x with offset := value }
      | "se" => { x with sign := value }
      | "sl" => { x with line := value }
      | "cx" => { x with near := value }
      | _ => x

/-- The colours that a text sets, up to the first thing in it that is wrong. -/
def read (x : Colours) : List String → Colours
  | [] => x
  | entry :: rest =>
    let cs := entry.toList
    let name := cs.takeWhile (· != '=')
    match cs.drop name.length with
    | [] => read (x.set (String.ofList name) "" false) rest
    | _ :: value =>
      if name.isEmpty || !value.all fun c => c == ';' || c.isDigit then x
      else read (x.set (String.ofList name) (String.ofList value) true) rest

end Colours

/-- What is shown of lines, and how. -/
structure Listing where
  colours : Option Colours := none
  inverts : Bool := false
  /-- Whether only matches are shown. -/
  onlyMatches : Bool := false
  /-- Whether no line is shown, and whether the first one that is found is enough. -/
  quiet : Bool := false
  once : Bool := false
  named : Bool := false
  numbered : Bool := false
  withOffsets : Bool := false
  aligned : Bool := false
  /-- Whether a zero follows the name of a file. -/
  zeroNames : Bool := false
  stop : Char := '\n'
  before : Option Nat := none
  after : Option Nat := none
  separator : Option String := some "--"
  most : Option Nat := none

/-- A line of a content, and the place where it starts. -/
structure Row where
  text : List Char
  offset : Nat

/-- The lines of a content. -/
def rowsOf (stop : Char) : List Char → List Char → Nat → List Row
  | [], [], _ => []
  | [], line, start => [⟨line.reverse, start⟩]
  | c :: cs, line, start =>
    if c == stop then ⟨line.reverse, start⟩ :: rowsOf stop cs [] (start + line.length + 1)
    else rowsOf stop cs (c :: line) start

/-- How far a report has come. -/
structure Progress where
  /-- The line after the last one that is shown. -/
  shown : Option Nat := none
  /-- How many lines are still shown after one that is found. -/
  pending : Nat := 0
  count : Nat := 0
  /-- Whether a line has been shown of this content or of one before it. -/
  used : Bool
  text : List String := []
  /-- The line after the last one that is found. -/
  last : Nat := 0

namespace Listing

/-- A text in a colour. -/
def paint (x : Listing) (colour : Colours → String) (text : String) : String :=
  match x.colours with
  | some c => c.opening (colour c) ++ text ++ c.closing (colour c)
  | none => text

/-- The name of a file in front of something. -/
def nameSign (x : Listing) (path sign : String) : String :=
  x.paint (·.path) path ++ if x.zeroNames then "\x00" else x.paint (·.sign) sign

/-- A number filled up at its left. -/
def padded (width n : Nat) : String :=
  let s := toString n
  String.ofList (List.replicate (width - s.length) ' ') ++ s

/-- What stands in front of a line or of a match. -/
def head (x : Listing) (path : String) (width number offset : Nat) (sign : String) (isEmpty : Bool) : String :=
  let numberOf (wanted : Bool) (colour : Colours → String) (n : Nat) : String :=
    if wanted then x.paint colour (padded width n) ++ x.paint (·.sign) sign else ""
  (if x.named then x.nameSign path sign else "") ++
    numberOf x.numbered (·.number) number ++
    numberOf x.withOffsets (·.offset) offset ++
    (if x.aligned && (x.named || x.numbered || x.withOffsets) && !isEmpty then "\t" else "")

/-- The matches of a line and what stands before each of them, and the offset from which on nothing is shown
yet. `waiting` is the place of the first empty match since the last one with characters. -/
def middle (x : Listing) (find : Finder) (line : List Char) (lead : Nat → String) (lineColour matchColour : String) :
    Nat → Nat → Option Nat → String × Nat
  | 0, here, waiting => ("", waiting.getD here)
  | n + 1, here, waiting =>
    match if here > line.length then none else find line here with
    | none => ("", waiting.getD here)
    | some (start, stop) =>
      if stop ≤ start then x.middle find line lead lineColour matchColour n (start + 1) (waiting <|> some here)
      else
        let colours := x.colours.getD {}
        let opening (c : String) : String := if x.colours.isSome then colours.opening c else ""
        let closing (c : String) : String := if x.colours.isSome then colours.closing c else ""
        let text := String.ofList ((line.drop start).take (stop - start))
        let shown := opening matchColour ++ text ++ closing matchColour
        let from_ := waiting.getD here
        let shown :=
          if x.onlyMatches then lead start ++ shown ++ String.singleton x.stop
          else opening lineColour ++ String.ofList ((line.drop from_).take (start - from_)) ++ shown
        let (rest, last) := x.middle find line lead lineColour matchColour n stop none
        (shown ++ rest, last)

/-- A line as it is shown. -/
def row (x : Listing) (find : Finder) (path : String) (width number : Nat) (r : Row) (isFound : Bool) : String :=
  let sign := if isFound then ":" else "-"
  let lead := x.head path width number r.offset sign r.text.isEmpty
  let matching := isFound != x.inverts
  let matchLead (start : Nat) : String :=
    x.head path width number (r.offset + start) (if x.inverts then "-" else ":") false
  let stop := String.singleton x.stop
  let parts (lineColour matchColour : String) : String × Nat :=
    if matching then x.middle find r.text matchLead lineColour matchColour (r.text.length + 2) 0 none else ("", 0)
  match x.colours with
  | none => if x.onlyMatches then (parts "" "").1 else lead ++ String.ofList r.text ++ stop
  | some c =>
    let lineColour := if isFound != (x.inverts && c.swaps) then c.line else c.near
    let matchColour := if isFound then c.matched else c.matchedNear
    if x.onlyMatches then (parts lineColour matchColour).1
    else
      let (shown, here) := if matchColour = "" then ("", 0) else parts lineColour matchColour
      let rest := r.text.drop here
      let tail :=
        if lineColour = "" then String.ofList rest
        else
          let (plain, end_) := if rest.getLast? == some '\r' then (rest.dropLast, "\r") else (rest, "")
          (if plain.isEmpty then ""
            else c.opening lineColour ++ String.ofList plain ++ c.closing lineColour) ++ end_
      lead ++ shown ++ tail ++ stop

/-- Shows lines up to one that are still to be shown after one that is found. -/
def follow (show_ : Nat → Bool → String) (stop : Nat) (p : Progress) : Progress :=
  let start := p.shown.getD 0
  let n := min p.pending (stop - start)
  { p with
    shown := some (start + n)
    pending := p.pending - n
    text := ((List.range n).map fun i => show_ (start + i) false).reverse ++ p.text }

/-- Shows a line that is found, with lines before it. -/
def found (x : Listing) (show_ : Nat → Bool → String) (i : Nat) (p : Progress) : Progress :=
  if x.quiet then { p with count := p.count + 1, last := i + 1, used := true }
  else
    let p := if p.pending > 0 then follow show_ i p else p
    let start := max (p.shown.getD 0) (i - x.before.getD 0)
    let isApart := (x.before.isSome || x.after.isSome) && p.used && p.shown != some start
    let gap := match x.separator with
      | some s => if isApart then [x.paint (·.sign) s ++ "\n"] else []
      | none => []
    let near := (List.range (i - start)).map fun j => show_ (start + j) false
    { shown := some (i + 1)
      pending := x.after.getD 0
      count := p.count + 1
      used := true
      text := show_ i true :: near.reverse ++ gap ++ p.text
      last := i + 1 }

/-- Goes through the lines of a content from one on. -/
def through (x : Listing) (selects : List Char → Bool) (show_ : Nat → Bool → String) : List Row → Nat → Progress → Progress
  | [], i, p => if !x.quiet && p.pending > 0 then follow show_ i p else p
  | r :: rs, i, p =>
    if x.most.any (· ≤ p.count) || (x.once && p.count > 0) then
      if !x.quiet && p.pending > 0 then follow show_ (i + rs.length + 1) p else p
    else
      let p := if selects r.text != x.inverts then x.found show_ i p else p
      through x selects show_ rs (i + 1) p

/-- What a search of one content gives. -/
def report (x : Listing) (search : Search) (path : String) (width : Nat) (used : Bool) (rows : List Row) : Progress :=
  let all := rows.toArray
  let show_ (i : Nat) (isFound : Bool) : String :=
    match all[i]? with
    | some r => x.row search.find path width (i + 1) r isFound
    | none => ""
  x.through search.selects show_ rows 0 { used }

end Listing

end ClassLens.Tool.Search
