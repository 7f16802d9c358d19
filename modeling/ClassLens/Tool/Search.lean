import ClassLens.Tool.Files
import ClassLens.Tool.Search.Lines

/-! # Lines that match

`grep` writes the lines of files that one of some patterns matches. -/

namespace ClassLens.Tool

open Shell
open Search

namespace Search

/-- The options of `grep`. -/
def options : Options where
  flags := "0123456789EFGHILPRTUVZabchilnoqrsuvwxyz\x07\x0e\x10\x11".toList
  valued := "ABCDXdefm\x01\x03\x04\x05\x06\x08\x0f".toList
  optional := ['\x02']
  names := [("basic-regexp", 'G'), ("extended-regexp", 'E'), ("fixed-regexp", 'F'), ("fixed-strings", 'F'),
    ("perl-regexp", 'P'), ("after-context", 'A'), ("before-context", 'B'), ("binary-files", '\x01'),
    ("binary", 'U'), ("byte-offset", 'b'), ("context", 'C'), ("color", '\x02'), ("colour", '\x02'),
    ("count", 'c'), ("devices", 'D'), ("directories", 'd'), ("exclude", '\x03'), ("exclude-from", '\x04'),
    ("exclude-dir", '\x05'), ("file", 'f'), ("files-with-matches", 'l'), ("files-without-match", 'L'),
    ("group-separator", '\x06'), ("help", '\x11'), ("include", '\x08'), ("ignore-case", 'i'),
    ("no-ignore-case", '\x0e'), ("initial-tab", 'T'), ("label", '\x0f'), ("line-buffered", '\x10'),
    ("line-number", 'n'), ("line-regexp", 'x'), ("max-count", 'm'), ("no-filename", 'h'),
    ("no-group-separator", '\x07'), ("no-messages", 's'), ("null", 'Z'), ("null-data", 'z'),
    ("only-matching", 'o'), ("quiet", 'q'), ("recursive", 'r'), ("dereference-recursive", 'R'),
    ("regexp", 'e'), ("invert-match", 'v'), ("silent", 'q'), ("text", 'a'),
    ("unix-byte-offsets", 'u'), ("version", 'V'), ("with-filename", 'H'), ("word-regexp", 'w')]

/-- How the program is used. -/
def usageText : String :=
  "Usage: grep [OPTION]... PATTERNS [FILE]...\nTry 'grep --help' for more information.\n"

/-- What is done with a directory. -/
inductive DirectoryUse where
  | read
  | descend
  | skip
  deriving DecidableEq

/-- What is done with a content that is no text. -/
inductive BinaryUse where
  | tell
  | show
  | skip
  deriving DecidableEq

/-- What the options say. -/
structure Setup where
  kind : Option Kind := none
  demand : Demand := {}
  listing : Listing := {}
  keys : Option (List Key) := none
  /-- How many lines are shown around those that are found, by digits or by a letter. -/
  context : Option Nat := none
  digits : String := ""
  /-- Whether names are shown; by the number of files where nothing is said. -/
  names : Option Bool := none
  directories : DirectoryUse := .read
  binary : BinaryUse := .tell
  label : Option String := none
  /-- Names that are searched or left out, and of directories that are left out. -/
  filters : List (Bool × String) := []
  hidden : List String := []
  silent : Bool := false
  counts : Bool := false
  lists : Option Bool := none
  quiet : Bool := false
  coloured : Bool := false

/-- A number of lines, where a greater one than fits is as good as the greatest. -/
def countOf? (s : String) : Option Nat := natOf? s

/-- The setup after one more option, or the end of the program with a status. -/
def Setup.read (x : Setup) (letter : Char) (value : String) : Run (Except Nat Setup) := do
  let fault (message : String) : Run (Except Nat Setup) := do
    complain "grep" message
    return .error 2
  let matcher (kind : Kind) : Run (Except Nat Setup) :=
    if x.kind.all (· = kind) then return .ok { x with kind := some kind }
    else fault "conflicting matchers specified"
  let around (set : Nat → Setup) : Run (Except Nat Setup) :=
    match countOf? value with
    | some n => return .ok (set n)
    | none => fault (value ++ ": invalid context length argument")
  let listing (f : Listing → Listing) : Run (Except Nat Setup) := return .ok { x with listing := f x.listing }
  let demand (f : Demand → Demand) : Run (Except Nat Setup) := return .ok { x with demand := f x.demand }
  let keys (more : List Key) : Run (Except Nat Setup) := return .ok { x with keys := some (x.keys.getD [] ++ more) }
  match letter with
  | 'E' => matcher .extended
  | 'F' => matcher .plain
  | 'G' => matcher .basic
  | 'P' => matcher .rich
  | 'X' =>
    match value with
    | "grep" => matcher .basic
    | "egrep" => matcher .extended
    | "fgrep" => matcher .plain
    | "perl" => matcher .rich
    | _ => fault ("invalid matcher " ++ value)
  | 'A' => around fun n => { x with listing := { x.listing with after := some n } }
  | 'B' => around fun n => { x with listing := { x.listing with before := some n } }
  | 'C' => around fun n => { x with context := some n }
  | 'D' => if value = "read" ∨ value = "skip" then return .ok x else fault "unknown devices method"
  | 'd' =>
    let words : List (String × DirectoryUse) := [("read", .read), ("recurse", .descend), ("skip", .skip)]
    match wordOf? words value with
    | some d => return .ok { x with directories := d }
    | none =>
      let isAmbiguous := (words.filter fun w => w.1.startsWith value).length > 1
      complain "grep" ((if isAmbiguous then "ambiguous argument " else "invalid argument ") ++ quoted value ++
        " for '--directories'")
      tell ("Valid arguments are:\n" ++ String.join (words.map fun w => "  - '" ++ w.1 ++ "'\n") ++ usageText)
      return .error 1
  | 'r' | 'R' => return .ok { x with directories := .descend }
  | 'e' => keys ((value.splitOn "\n").map fun s => ⟨s, ""⟩)
  | 'f' =>
    match ← readInput value with
    | .error e => fault (value ++ ": " ++ e.wording)
    | .ok content =>
      keys ((lines content).zipIdx.map fun (s, i) => ⟨s, value ++ ":" ++ toString (i + 1) ++ ": "⟩)
  | 'm' =>
    match countOf? value with
    | some n => listing fun l => { l with most := some n }
    | none =>
      if value.startsWith "-" && (natOf? (value.drop 1).toString).isSome then
        listing fun l => { l with most := none }
      else fault "invalid max count"
  | '\x01' =>
    match value with
    | "binary" => return .ok { x with binary := .tell }
    | "text" => return .ok { x with binary := .show }
    | "without-match" => return .ok { x with binary := .skip }
    | _ => fault "unknown binary-files type"
  | 'a' => return .ok { x with binary := .show }
  | 'I' => return .ok { x with binary := .skip }
  | '\x02' =>
    if ["always", "yes", "force"].contains value then return .ok { x with coloured := true }
    else if ["", "never", "no", "none", "auto", "tty", "if-tty"].contains value then
      return .ok { x with coloured := false }
    else
      say usageText
      return .error 0
  | '\x03' => return .ok { x with filters := x.filters ++ [(false, value)] }
  | '\x08' => return .ok { x with filters := x.filters ++ [(true, value)] }
  | '\x04' =>
    match ← readInput value with
    | .error e => fault (value ++ ": " ++ e.wording)
    | .ok content => return .ok { x with filters := x.filters ++ (lines content).map ((false, ·)) }
  | '\x05' => return .ok { x with hidden := x.hidden ++ [value] }
  | '\x06' => listing fun l => { l with separator := some value }
  | '\x07' => listing fun l => { l with separator := none }
  | '\x0f' => return .ok { x with label := some value }
  | '\x11' =>
    say usageText
    return .error 0
  | 'H' => return .ok { x with names := some true }
  | 'h' => return .ok { x with names := some false }
  | 'T' => listing fun l => { l with aligned := true }
  | 'Z' => listing fun l => { l with zeroNames := true }
  | 'b' => listing fun l => { l with withOffsets := true }
  | 'n' => listing fun l => { l with numbered := true }
  | 'o' => listing fun l => { l with onlyMatches := true }
  | 'v' => listing fun l => { l with inverts := true }
  | 'z' => listing fun l => { l with stop := '\x00' }
  | 'c' => return .ok { x with counts := true }
  | 'L' => return .ok { x with lists := some false }
  | 'l' => return .ok { x with lists := some true }
  | 'q' => return .ok { x with quiet := true }
  | 's' => return .ok { x with silent := true }
  | 'i' | 'y' => demand fun d => { d with foldsCase := true }
  | '\x0e' => demand fun d => { d with foldsCase := false }
  | 'w' => demand fun d => { d with wholeWords := true }
  | 'x' => demand fun d => { d with wholeLines := true }
  | 'u' =>
    complain "grep" "warning: --unix-byte-offsets (-u) is obsolete"
    return .ok x
  | c =>
    if c.isDigit then
      let digits := x.digits ++ String.singleton c
      return .ok { x with digits, context := natOf? digits }
    else return .ok x

/-- The setup of all options. -/
def Setup.readAll (x : Setup) : List (Char × String) → Run (Except Nat Setup)
  | [] => return .ok x
  | (letter, value) :: rest => do
    match ← x.read letter value with
    | .ok x => x.readAll rest
    | .error status => return .error status

/-- Whether a name matches a pattern of names. -/
def matchesName (pattern name : String) : Bool :=
  (Pattern.ofMarked (pattern.toList.map fun c => (c, false))).accepts name.toList

/-- Whether a file is left out. The last of the patterns that match decides. -/
def Setup.leavesOut (x : Setup) (path : String) : Bool :=
  match x.filters.reverse.find? fun f => matchesName f.2 (lastName path) || matchesName f.2 path with
  | some f => !f.1
  | none => x.filters.head?.any Prod.fst

/-- What has been found so far. -/
structure Tally where
  found : Bool := false
  fault : Bool := false
  used : Bool := false
  /-- Whether nothing more is searched. -/
  done : Bool := false

/-- The digits that the places in a content take. -/
def widthOf (x : Listing) (size : Option Nat) : Nat :=
  if !x.aligned then 0
  else
    let most : Nat := 9223372036854775807
    let n := size.getD most
    (toString (if x.numbered && n < most then n + 1 else n)).length

/-- Searches one content. -/
def Setup.searchIn (x : Setup) (search : Search) (t : Tally) (path : String) (size : Option Nat)
    (content : String) : Run (Tally × Progress) := do
  let cs := content.toList
  let isBinary := x.listing.stop == '\n' && x.binary ≠ .show && cs.contains '\x00'
  let cs := if isBinary then cs.map fun c => if c == '\x00' then '\n' else c else cs
  let l := x.listing
  let once := x.quiet || x.lists.isSome
  let quiet := once || x.counts
  let l := { l with
    quiet := quiet || isBinary
    once := once || (isBinary && !x.counts) }
  let p : Progress :=
    if isBinary && x.binary = .skip then { used := t.used }
    else l.report search path (widthOf l size) t.used (rowsOf l.stop cs [] 0)
  let found : Bool := p.count > 0
  say (String.join p.text.reverse)
  if isBinary && found && !quiet then complain "grep" (path ++ ": binary file matches")
  if x.counts && !once then
    say ((if l.named then l.nameSign path ":" else "") ++ toString p.count ++ "\n")
  if !x.quiet && x.lists == some found then
    say (l.paint (·.path) path ++ if l.zeroNames then "\x00" else "\n")
  return ({ t with found := t.found || found, used := p.used, done := x.quiet && found }, p)

/-- Whether the output leads to a file at a place. -/
def writesTo (here : Location) : Run Bool := do
  match ← channelOf 1 with
  | some n =>
    match (← world).channels[n]? with
    | some (.file place ..) => return place == here
    | _ => return false
  | none => return false

/-- Tells that a file is read and written at once. -/
def Setup.isOutput (x : Setup) (here : Option Location) : Run Bool := do
  match here with
  | some here =>
    let shows := !x.quiet && !x.counts && x.lists.isNone && x.listing.most.all (· > 1)
    return shows && (← writesTo here)
  | none => return false

/-- Searches the standard input. -/
def Setup.searchInput (x : Setup) (search : Search) (t : Tally) : Run Tally := do
  let path := x.label.getD "(standard input)"
  let here : Option Location ← do
    match ← channelOf 0 with
    | some n =>
      match (← world).channels[n]? with
      | some (.file here ..) => pure (some here)
      | _ => pure none
    | none => pure none
  if ← x.isOutput here then
    complain "grep" (path ++ ": input file is also the output")
    return { t with fault := true }
  match ← readInput "-" with
  | .error e =>
    if !x.silent then complain "grep" (path ++ ": " ++ e.wording)
    return { t with fault := true }
  | .ok content =>
    let tree ← files
    let size := here.map fun here => (contentAt tree here).length
    let (t, p) ← x.searchIn search t path size content
    if !x.quiet && x.listing.most == some p.count then
      let rows := rowsOf x.listing.stop content.toList [] 0
      let kept := match rows[p.last]? with
        | some r => r.offset
        | none => content.length
      giveBack 0 (content.length - kept)
    return t

/-- Searches a file or what a directory holds. -/
def Setup.searchAt (search : Search) : Nat → Setup → Bool → Tally → String → Run Tally
  | 0, _, _, t, _ => return t
  | fuel + 1, x, isOperand, t, path => do
    if t.done then return t
    if isOperand && path = "-" then x.searchInput search t
    else
      let tree ← files
      let isDirectory := (tree.nodeOf? (pathOf path)) matches some .directory
      if isDirectory then
        if x.directories = .skip || x.hidden.any (matchesName · (lastName path)) then return t
        else if x.directories = .descend then
          match placeOf tree path with
          | .error _ => return t
          | .ok here =>
            let start := if path.endsWith "/" then (path.dropEnd 1).toString else path
            let x := { x with listing := { x.listing with named := x.names.getD true } }
            let mut t := t
            for name in entriesIn tree here do
              let inner := if isOperand && path = "" then name else start ++ "/" ++ name
              if !(tree.isLink (pathOf inner)) then t ← searchAt search fuel x false t inner
            return t
      else if x.leavesOut path then return t
      let here := (placeOf tree path).toOption
      if ← x.isOutput here then
        complain "grep" (path ++ ": input file is also the output")
        return { t with fault := true }
      match ← readInput path with
      | .error e =>
        if !x.silent then complain "grep" (path ++ ": " ++ e.wording)
        let t := { t with fault := true }
        if e = .isDirectory then return (← x.searchIn search t path none "").1
        return t
      | .ok content => return (← x.searchIn search t path (some content.length) content).1

end Search

open Search in
/-- Writes the lines of files that match. -/
def grep (kind : Option Kind) : Tool := fun _ args => do
  match options.readFrom true (args.length + 1) {} args with
  | .error e =>
    complain "grep" e
    tell usageText
    return 2
  | .ok g =>
    let start : Setup := { kind }
    match ← start.readAll g.options with
    | .error status => return status
    | .ok x =>
      let direct := (g.operands.headD "").splitOn "\n"
      let (keys, paths) := match x.keys with
        | some keys => (keys, g.operands)
        | none => (direct.map fun s => ⟨s, ""⟩, g.operands.tail)
      if x.keys.isNone && g.operands.isEmpty then
        tell usageText
        return 2
      let environment := (← shell).exported
      let old := if x.coloured then (environment.lookup "GREP_COLOR").getD "" else ""
      if old ≠ "" then
        complain "grep" ("warning: GREP_COLOR='" ++ old ++ "' is deprecated; use GREP_COLORS='mt=" ++ old ++ "'")
      let colours : Colours := { matched := if old = "" then "01;31" else old
                                 matchedNear := if old = "" then "01;31" else old }
      let colours := colours.read (((environment.lookup "GREP_COLORS").getD "").splitOn ":")
      let isVoid := keys.all (fun k => k.text = "") && (keys.isEmpty != x.listing.inverts) &&
        !x.demand.wholeLines && !x.demand.wholeWords
      if (x.listing.most == some 0 || isVoid) && x.lists != some false then return 1
      let kind := x.kind.getD .basic
      match Key.searchOf kind x.demand keys with
      | .error faults =>
        for fault in faults do complain "grep" fault
        return 2
      | .ok search =>
        if kind = .extended then
          for key in keys do
            for remark in idleSigns key.text do complain "grep" ("warning: " ++ remark)
        let x := { x with
          listing := { x.listing with
            colours := if x.coloured then some colours else none
            after := x.listing.after <|> x.context
            before := x.listing.before <|> x.context
            named := x.names.getD (paths.length > 1) } }
        let operands :=
          if !paths.isEmpty then paths else if x.directories = .descend then [""] else ["-"]
        let mut t : Tally := {}
        for path in operands do
          t ← if path = "" && paths.isEmpty then
              (match entriesIn (← files) (← shell).directory with
                | names => names.foldlM (fun t name =>
                  Setup.searchAt search 100 { x with listing := { x.listing with named := x.names.getD true } } false t
                    name) t)
            else x.searchAt search 100 true t path
        return if t.done then 0 else if t.fault then 2 else if t.found then 0 else 1

end ClassLens.Tool
