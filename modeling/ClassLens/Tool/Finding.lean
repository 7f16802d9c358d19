import ClassLens.Tool.Finding.Syntax
import ClassLens.Tool.Launching
import ClassLens.Tool.Regex

/-! # Looking for files

* `Finding.readTokens`: the conditions that arguments say.
* `Finding.walk`: goes through a tree and does what an expression says.
* `find`: the program that looks for files. -/

namespace ClassLens.Tool

open Shell

namespace Finding

/-- Which links are followed. -/
inductive Follow where
  | none
  | operands
  | all
  deriving DecidableEq

/-- What holds for all of a search. -/
structure Settings where
  follow : Follow := .none
  most : Option Nat := none
  least : Nat := 0
  /-- Whether what is in a directory comes before it. -/
  depthFirst : Bool := false
  /-- Whether days start at midnight. -/
  daily : Bool := false
  form : Option Regex.Style := none
  /-- The last condition that was read. -/
  last : String := ""

/-! ### Reading -/

/-- Ends the program with a fault. -/
def stopWith {α : Type} (message : String) : Run α := do
  complain "find" message
  throw (.exit 1)

/-- The time that a name of a file tells, or ends the program. -/
def timeOfFile (path : String) : Run Int := do
  let t ← files
  match t.locate (pathOf path) with
  | .ok here => return timeOf t here
  | .error fault => stopWith (quotedName path ++ ": " ++ fault.wording)

/-- Starts a file that is written to. -/
def openFile (path : String) : Run Unit := do
  if !(["/dev/stdout", "/dev/stderr"].contains path) then
    if let some fault ← writeFile path "" false then
      stopWith (quotedName path ++ ": " ++ fault.wording)

/-- The words of a program to run, up to the sign that ends them, and what follows. -/
def readWords (name : String) (mayBatch : Bool) : List String → List String → Run (List String × Bool × List String)
  | [], _ => stopWith ("missing argument to \x60" ++ name ++ "'")
  | word :: rest, words =>
    if word = ";" then
      if words.isEmpty then stopWith ("missing argument to \x60" ++ name ++ "'")
      else return (words.reverse, false, rest)
    else if word = "+" && mayBatch && words.head? == some "\x7b\x7d" then
      return (words.reverse, true, rest)
    else if word = "+" && mayBatch && (words.head?.any fun w => (w.splitOn "\x7b\x7d").length > 1) && rest.isEmpty then
      stopWith ("In '" ++ name ++ " ... \x7b\x7d +' the '\x7b\x7d' must appear by itself, but you specified " ++
        quotedName (words.headD ""))
    else readWords name mayBatch rest (word :: words)

/-- The unit of a size by its letter, in bytes. -/
def unitOf? : Char → Option Nat
  | 'b' => some 512
  | 'c' => some 1
  | 'w' => some 2
  | 'k' => some 1024
  | 'M' => some 1048576
  | 'G' => some 1073741824
  | _ => none

/-- The letters of kinds that a text names, or what is wrong with them. -/
def kindsOf (name text : String) : Except String (List Char) :=
  let rec go : List Char → Except String (List Char)
    | [] => .error ("Last file type in list argument to " ++ name ++ " is missing, i.e., list is ending on: ','")
    | c :: rest =>
      if !"bcdpflsD".toList.contains c then
        .error ("Unknown argument to " ++ name ++ ": " ++ String.singleton c)
      else
        match rest with
        | [] => .ok [c]
        | ',' :: more => (go more).map fun cs => c :: cs
        | _ => .error ("Must separate multiple arguments to " ++ name ++ " using: ','")
  if text.isEmpty then .error ("Arguments to " ++ name ++ " should contain at least one letter") else go text.toList

/-- The conditions that take no value. -/
def plainSteps : List (String × Step) :=
  [("-true", .constant true), ("-false", .constant false), ("-empty", .empty), ("-readable", .reachable false),
    ("-writable", .reachable false), ("-executable", .reachable true), ("-print", .print "\n" none),
    ("-print0", .print "\x00" none), ("-ls", .list none), ("-prune", .prune), ("-quit", .quit),
    ("-nouser", .constant false), ("-nogroup", .constant false)]

/-- Options that change nothing here. -/
def idleOptions : List String :=
  ["-mount", "-xdev", "-noleaf", "-warn", "-nowarn", "-ignore_readdir_race", "-noignore_readdir_race"]

/-- Reads conditions. -/
def readTokens : Nat → Settings → List String → List Token → Run (Settings × List Token)
  | 0, s, _, found => return (s, found.reverse)
  | _ + 1, s, [], found => return (s, found.reverse)
  | n + 1, before, word :: rest, found => do
    let s := if word.startsWith "-" then { before with last := word } else before
    let done (step : Step) (rest : List String) : Run (Settings × List Token) :=
      readTokens n s rest (.step step :: found)
    let value (body : String → List String → Run (Settings × List Token)) : Run (Settings × List Token) := do
      match rest with
      | v :: rest => body v rest
      | [] => stopWith ("missing argument to \x60" ++ word ++ "'")
    let invalid {α : Type} (v : String) : Run α := stopWith ("invalid argument \x60" ++ v ++ "' to \x60" ++ word ++ "'")
    let bounded (make : Bound → Step) : Run (Settings × List Token) := value fun v rest =>
      match Bound.read? v with
      | some b => done (make b) rest
      | none => invalid v
    let now ← present
    match word with
    | "(" => readTokens n s rest (.opening :: found)
    | ")" => readTokens n s rest (.closing :: found)
    | "!" | "-not" => readTokens n s rest (.not word :: found)
    | "-a" | "-and" => readTokens n s rest (.and word :: found)
    | "-o" | "-or" => readTokens n s rest (.or word :: found)
    | "," => readTokens n s rest (.comma :: found)
    | "-depth" | "-d" => readTokens n { s with depthFirst := true } rest (.step (.constant true) :: found)
    | "-daystart" => readTokens n { s with daily := true } rest (.step (.constant true) :: found)
    | "-follow" => readTokens n { s with follow := .all } rest (.step (.constant true) :: found)
    | "-maxdepth" | "-mindepth" =>
      value fun v rest => do
        match natOf? v with
        | some k =>
          let s := if word = "-maxdepth" then { s with most := some k } else { s with least := k }
          readTokens n s rest (.step (.constant true) :: found)
        | none => stopWith ("Expected a positive decimal integer argument to " ++ word ++ ", but got " ++ quotedName v)
    | "-regextype" =>
      value fun v rest => do
        match regexForms.lookup v with
        | some form => readTokens n { s with form } rest (.step (.constant true) :: found)
        | none =>
          stopWith ("Unknown regular expression type " ++ quotedName v ++ "; valid types are " ++
            ", ".intercalate (regexForms.map fun f => "'" ++ f.1 ++ "'") ++ ".")
    | "-name" => value fun v rest => done (.name false v) rest
    | "-iname" => value fun v rest => done (.name true v) rest
    | "-path" | "-wholename" => value fun v rest => done (.path false v) rest
    | "-ipath" | "-iwholename" => value fun v rest => done (.path true v) rest
    | "-lname" => value fun v rest => done (.linkName false v) rest
    | "-ilname" => value fun v rest => done (.linkName true v) rest
    | "-regex" | "-iregex" =>
      value fun v rest => do
        match regexOf s.form v with
        | .ok r => done (.regex (word = "-iregex") r) rest
        | .error e => stopWith ("failed to compile regular expression " ++ quotedName v ++ ": " ++ e)
    | "-type" | "-xtype" =>
      value fun v rest => do
        match kindsOf word v with
        | .ok kinds => done (.kind kinds (word = "-xtype")) rest
        | .error e => stopWith e
    | "-size" =>
      value fun v rest => do
        let last := v.toList.getLast?.getD ' '
        let (body, unit) : String × Option Nat :=
          if last.isDigit then (v, some 512) else ((v.dropEnd 1).toString, unitOf? last)
        if v.isEmpty then stopWith "invalid null argument to -size"
        match unit, Bound.read? body with
        | none, _ => stopWith ("invalid -size type \x60" ++ String.singleton last ++ "'")
        | some unit, some b => done (.size b unit) rest
        | some _, none => stopWith ("Invalid argument \x60" ++ v ++ "' to -size")
    | "-perm" =>
      value fun v rest => do
        let (bits, text) : Bits × String := match v.toList with
          | '-' :: cs => (.all, String.ofList cs)
          | '/' :: cs => (.any, String.ofList cs)
          | _ => (.exactly, v)
        match Modes.compile? text with
        | some changes =>
          let mode := Modes.adjust changes false 0 0
          if (bits matches .any) && mode = 0 then done (.mode .all 0) rest else done (.mode bits mode) rest
        | none => stopWith ("invalid mode " ++ quotedName v)
    | "-newer" | "-anewer" | "-cnewer" => value fun v rest => do done (.newer (← timeOfFile v)) rest
    | "-mtime" | "-atime" | "-ctime" =>
      bounded fun b => .age b 86400
    | "-mmin" | "-amin" | "-cmin" => bounded fun b => .age b 60
    | "-used" =>
      value fun v rest => do
        match Bound.read? v with
        | some _ => done (.constant false) rest
        | none => stopWith ("Invalid argument " ++ v ++ " to -used")
    | "-links" => bounded .links
    | "-inum" => bounded .inode
    | "-uid" | "-gid" => bounded fun b => .constant (b.holds 0)
    | "-user" | "-group" =>
      value fun v rest => do
        if v = "root" || natOf? v == some 0 then done (.constant true) rest
        else if (natOf? v).isSome then done (.constant false) rest
        else if word = "-group" then
          stopWith (quotedName v ++ (if v.isEmpty then " is not" else " is not the name of an existing group"))
        else stopWith (quotedName v ++ " is not the name of a known user")
    | "-samefile" =>
      value fun v rest => do
        match placeOf (← files) v with
        | .ok here => done (.same here) rest
        | .error fault => stopWith (quotedName v ++ ": " ++ fault.wording)
    | "-fstype" => value fun v rest => done (.constant (v = "overlay")) rest
    | "-delete" => readTokens n { s with depthFirst := true } rest (.step .delete :: found)
    | "-printf" | "-fprintf" =>
      value fun v rest => do
        let (file, v, rest) ← (do
          if word = "-fprintf" then
            openFile v
            match rest with
            | f :: rest => return (some v, f, rest)
            | [] => stopWith ("missing argument to \x60" ++ word ++ "'")
          else return ((none : Option String), v, rest))
        match readFormat (v.length + 1) v.toList with
        | .error e => stopWith e
        | .ok (pieces, warnings) =>
          for w in warnings do complain "find" ("warning: " ++ w)
          done (.format pieces file) rest
    | "-fprint" | "-fprint0" | "-fls" =>
      value fun v rest => do
        openFile v
        done (if word = "-fls" then .list (some v) else .print (if word = "-fprint" then "\n" else "\x00") (some v)) rest
    | "-exec" | "-execdir" | "-ok" | "-okdir" => do
      let asks := word.startsWith "-ok"
      let (words, many, rest) ← readWords word (!asks) rest []
      if many && (words.filter fun w => (w.splitOn "\x7b\x7d").length > 1).length > 1 then
        stopWith ("Only one instance of \x7b\x7d is supported with " ++ word ++ " ... +")
      let l : Launching := {
        number := rest.length
        words
        many
        inside := word.endsWith "dir"
        asks }
      done (.launch l) rest
    | word =>
      match plainSteps.lookup word with
      | some step => done step rest
      | none =>
        if idleOptions.contains word then done (.constant true) rest
        else if word.startsWith "-newer" && word.length = 8 then
          value fun v rest => do
            let letters := (word.drop 6).toString.toList
            let (x, y) := (letters.headD ' ', letters.getD 1 ' ')
            if !"acmB".toList.contains x || !"acmBt".toList.contains y then
              stopWith ("invalid predicate \x60" ++ word ++ "'")
            if y == 't' then
              match Dates.read now v with
              | some (seconds, fraction) => done (.newer (seconds * 1000000000 + fraction)) rest
              | none => stopWith ("I cannot figure out how to interpret " ++ quotedName v ++ " as a date or time")
            else done (.newer (← timeOfFile v)) rest
        else if word.startsWith "-" then stopWith ("unknown predicate \x60" ++ word ++ "'")
        else do
          complain "find" ("paths must precede expression: \x60" ++ word ++ "'")
          if ((← files).nodeOf? (pathOf word)).isSome && s.last ≠ "" then
            complain "find" ("possible unquoted pattern after predicate \x60" ++ s.last ++ "'?")
          throw (.exit 1)

/-! ### Going through files -/

/-- Something that is looked at. -/
structure Item where
  path : String
  /-- The path from which the search started, and how far below it this is. -/
  start : String
  level : Nat
  place : Location
  /-- The place that the facts are taken from. -/
  shown : Location

/-- What has happened in a search. -/
structure Progress where
  status : Nat := 0
  prunes : Bool := false
  quits : Bool := false
  /-- What a program is to be run on, by the number of the step and the directory to run it in. -/
  waiting : List (Launching × Option String × List String) := []

/-- A path without the slashes at its end. -/
def trimmed (path : String) : String :=
  let bare := String.ofList (path.toList.reverse.dropWhile (· == '/')).reverse
  if bare.isEmpty && !path.isEmpty then "/" else bare

/-- The last name of a path. -/
def Item.name (i : Item) : String :=
  let path := trimmed i.path
  if path = "/" then path else String.ofList (path.toList.reverse.takeWhile (· != '/')).reverse

/-- The directory that a path names a file in. -/
def Item.directory (i : Item) : String :=
  let path := trimmed i.path
  if path.toList.contains '/' then
    let name := path.toList.reverse.takeWhile (· != '/')
    (path.dropEnd (name.length + 1)).toString
  else if i.path.endsWith "/" then path
  else "."

/-- The letter of what stands at a place. -/
def kindLetter (t : FileTree) (here : Location) : Char :=
  match t.node? here with
  | some .directory => 'd'
  | some (.file ..) => 'f'
  | some (.link _) => 'l'
  | _ => 'c'

/-- Whether a text fits a pattern of names. -/
def fits (folds : Bool) (pattern text : String) : Bool :=
  let low (s : String) : String := if folds then s.toLower else s
  (Pattern.ofMarked ((low pattern).toList.map fun c => (c, false))).accepts (low text).toList

/-- The letter of what a link leads to. -/
def throughLetter (t : FileTree) (here : Location) : Char :=
  match throughLinks t here with
  | .ok there => kindLetter t there
  | .error .tooManyLinks => 'L'
  | .error _ => 'N'

/-- A text filled up as a directive says. -/
def Directive.text (d : Directive) (s : String) : String :=
  let s := match d.precision with
    | some n => (s.take n).toString
    | none => s
  let gap := String.ofList (List.replicate (d.width - s.length) ' ')
  if d.flags.contains '-' then s ++ gap else gap ++ s

/-- A number filled up as a directive says. -/
def Directive.number (d : Directive) (n : Nat) : String :=
  let s := (if d.flags.contains '+' then "+" else if d.flags.contains ' ' then " " else "") ++ toString n
  if d.flags.contains '0' && !d.flags.contains '-' then
    String.ofList (List.replicate (d.width - s.length) '0') ++ s
  else ({ d with precision := none } : Directive).text s

/-- The time of a file, with a letter for its form. -/
def timeText (seconds : Int) (fraction : Nat) (letter : Char) : String :=
  let m := Moment.ofSeconds seconds fraction 0 "UTC"
  let fine := "." ++ ((toString (1000000000 + fraction)).drop 1).toString ++ "0"
  match letter with
  | '@' => toString seconds ++ fine
  | '+' => m.write true "%Y-%m-%d+%H:%M:%S" ++ fine
  | 'S' => m.write true "%S" ++ fine
  | 'T' | 'X' => m.write true "%H:%M:%S" ++ fine
  | 'c' => m.write true "%a %b %e %H:%M:%S %Y"
  | letter => m.write true (String.ofList ['%', letter])

/-- What a letter tells of a file. -/
def factText (t : FileTree) (i : Item) (d : Directive) (letter : Char) : String :=
  let here := i.shown
  let (seconds, fraction) := secondsAt t here
  let target := match t.node? here with
    | some (.link target) => ofBytes target.bytes
    | _ => ""
  let below := if i.level = 0 then "" else
    ((i.path.drop i.start.length).dropWhile (· == '/')).toString
  match letter with
  | 'a' | 'c' | 't' =>
    let m := Moment.ofSeconds seconds fraction 0 "UTC"
    d.text (m.write true "%a %b %e %H:%M:%S" ++ "." ++ ((toString (1000000000 + fraction)).drop 1).toString ++ "0 " ++
      m.write true "%Y")
  | 'b' => d.text (toString (blocksAt t here))
  | 'k' => d.text (toString (blocksAt t here / 2))
  | 'd' => d.number i.level
  | 'D' => d.text "50"
  | 'f' => d.text (if i.path.endsWith "/" && i.path ≠ "/" then i.name ++ "/" else i.name)
  | 'F' => d.text "overlay"
  | 'g' | 'u' => d.text "root"
  | 'G' | 'U' => d.text "0"
  | 'h' => d.text i.directory
  | 'H' => d.text i.start
  | 'i' => d.text (toString (inodeAt t here))
  | 'l' => d.text target
  | 'm' => d.text ((if d.flags.contains '#' then "0" else "") ++ Modes.digits 1 (t.modeAt here))
  | 'M' => d.text (Modes.full ((t.node? here).getD .sink) (t.modeAt here))
  | 'n' => d.text (toString (linksAt t here))
  | 'p' => d.text i.path
  | 'P' => d.text below
  | 's' => d.text (toString (sizeAt t here))
  | 'S' => d.text "1"
  | 'y' => d.text (String.singleton (kindLetter t here))
  | 'Y' => d.text (String.singleton (if target.isEmpty then kindLetter t here else throughLetter t here))
  | _ => ""

/-- What a format tells of a file. -/
def formatText (t : FileTree) (i : Item) : List Piece → String
  | [] => ""
  | .text s :: rest => s ++ formatText t i rest
  | .fact d letter :: rest => factText t i d letter ++ formatText t i rest
  | .time d letter :: rest =>
    let (seconds, fraction) := secondsAt t i.shown
    d.text (timeText seconds fraction letter) ++ formatText t i rest
  | .stop :: _ => ""

/-- A file as a long listing shows it. -/
def longText (t : FileTree) (i : Item) : String :=
  let (seconds, fraction) := secondsAt t i.shown
  let time := (Moment.ofSeconds seconds fraction 0 "UTC").write true "%b %e %H:%M"
  let node := (t.node? i.shown).getD .sink
  let target := match node with
    | .link target => " -> " ++ withEscapes [' '] (ofBytes target.bytes)
    | _ => ""
  padLeft 9 (toString (inodeAt t i.shown)) ++ " " ++ padLeft 6 (toString (blocksAt t i.shown / 2)) ++ " " ++
    Modes.full node (t.modeAt i.shown) ++ " " ++ padLeft 3 (toString (linksAt t i.shown)) ++ " root     root     " ++
    padLeft 8 (toString (sizeAt t i.shown)) ++ " " ++ time ++ " " ++ withEscapes [' '] i.path ++ target ++ "\n"

/-- Writes to the output or to a file. -/
def emit (file : Option String) (text : String) : Run Unit := do
  match file with
  | none | some "/dev/stdout" => say text
  | some "/dev/stderr" => tell text
  | some path => let _ ← writeFile path text true

/-- Runs a program on some paths; gives whether all went well. -/
def runOn (launch : Launch) (l : Launching) (dir : Option String) (paths : List String) : Run Bool := do
  let words :=
    if l.many then l.words.flatMap fun w => if w = "\x7b\x7d" then paths else [w]
    else l.words.map (replaceText "\x7b\x7d" (paths.headD ""))
  let before := (← shell).directory
  if let some dir := dir then
    if let .ok here := (← files).locate (pathOf dir) then
      modifyShell fun s => { s with directory := here }
  let input ← channelOf 0
  if l.asks then setDescriptor 0 (← makeChannel .nothing)
  let e ← inChild (launchAs launch "find" quotedName words)
  if l.asks then
    match input with
    | some n => setDescriptor 0 n
    | none => closeDescriptor 0
  modifyShell fun s => { s with directory := before }
  reap
  return e matches .exited 0

/-- Looks at a step for a file. -/
def Step.holds (launch : Launch) (s : Settings) (i : Item) (p : Progress) : Step → Run (Bool × Progress)
  | .constant b => return (b, p)
  | .name folds pattern => return (fits folds pattern i.name, p)
  | .path folds pattern => return (fits folds pattern i.path, p)
  | .linkName folds pattern => do
    match (← files).node? i.shown with
    | some (.link target) => return (fits folds pattern (ofBytes target.bytes), p)
    | _ => return (false, p)
  | .regex folds r => do
    let text := i.path.toList
    let hits := r.ends folds text (Regex.matchFuel text) { before := [], after := text, pos := 0 }
    return (hits.any fun h => h.pos = text.length, p)
  | .kind letters through => do
    let t ← files
    let letter := kindLetter t i.place
    let seen :=
      if !through then kindLetter t i.shown
      else if s.follow = .all then letter
      else if letter == 'l' then
        match throughLetter t i.place with
        | 'N' => 'l'
        | c => c
      else letter
    return (letters.contains seen, p)
  | .size b unit => do
    let t ← files
    return (b.holds (ceilDiv (sizeAt t i.shown) unit), p)
  | .empty => do
    let t ← files
    let isEmpty := match t.node? i.shown with
      | some .directory => (namesIn t i.shown).isEmpty
      | some (.file content _) => content.isEmpty
      | _ => false
    return (isEmpty, p)
  | .mode bits value => do
    let mode := (← files).modeAt i.shown
    let holds := match bits with
      | .exactly => mode = value
      | .all => mode &&& value = value
      | .any => mode &&& value ≠ 0
    return (holds, p)
  | .newer time => do
    let t ← files
    return (decide (time < timeOf t i.shown), p)
  | .age b unit => do
    let t ← files
    let now : Int := ← present
    let now := if s.daily then (now.fdiv 86400000000000 + 1) * 86400000000000 else now
    let units := (now - timeOf t i.shown).fdiv (unit * 1000000000)
    return (if units < 0 then b.sign == .lt else b.holds units.toNat, p)
  | .links b => do return (b.holds (linksAt (← files) i.shown), p)
  | .inode b => do return (b.holds (inodeAt (← files) i.shown), p)
  | .same place => do return (((← files).twins place).contains i.shown, p)
  | .reachable runs => do
    let t ← files
    match throughLinks t i.shown with
    | .ok there => return (!runs || t.isDirectoryAt there || t.modeAt there &&& 0o111 ≠ 0, p)
    | .error _ => return (false, p)
  | .print stop file => do
    emit file (i.path ++ stop)
    return (true, p)
  | .format pieces file => do
    emit file (formatText (← files) i pieces)
    return (true, p)
  | .list file => do
    emit file (longText (← files) i)
    return (true, p)
  | .delete => do
    if i.path = "." then return (true, p)
    let t ← files
    if t.isDirectoryAt i.place && !(namesIn t i.place).isEmpty then
      complain "find" ("cannot delete " ++ quotedName i.path ++ ": Directory not empty")
      return (false, { p with status := 1 })
    if t.isDirectoryAt i.place then setFiles fun t => t.eraseTree i.place else takeAway i.place
    return (true, p)
  | .prune => return (true, { p with prunes := true })
  | .quit => return (true, { p with quits := true })
  | .launch l => do
    let (dir, target) : Option String × String :=
      if l.inside then
        if i.name = "/" then (some "/", "/")
        else if i.name = "." || i.name = ".." then (some i.directory, "./" ++ i.name)
        else (some i.directory, "./" ++ i.name)
      else (none, i.path)
    if !(← confirms l.asks ("< " ++ l.words.headD "" ++ " ... " ++ i.path ++ " > ? ")) then
      return (false, p)
    if l.many then
      let isOurs (w : Launching × Option String × List String) : Bool := w.1.number = l.number && w.2.1 == dir
      let waiting :=
        if p.waiting.any isOurs then
          p.waiting.map fun w => if isOurs w then (w.1, w.2.1, w.2.2 ++ [target]) else w
        else p.waiting ++ [(l, dir, [target])]
      return (true, { p with waiting })
    else return (← runOn launch l dir [target], p)

/-- Looks at an expression for a file. -/
def Expression.holds (launch : Launch) (s : Settings) (i : Item) : Expression → Progress → Run (Bool × Progress)
  | .step one, p => one.holds launch s i p
  | .not e, p => do
    let (b, p) ← e.holds launch s i p
    return (!b, p)
  | .and a b, p => do
    let (x, p) ← a.holds launch s i p
    if x && !p.quits then b.holds launch s i p else return (x, p)
  | .or a b, p => do
    let (x, p) ← a.holds launch s i p
    if x || p.quits then return (x, p) else b.holds launch s i p
  | .then_ a b, p => do
    let (x, p) ← a.holds launch s i p
    if p.quits then return (x, p) else b.holds launch s i p

/-- Goes through a tree. -/
def walk (launch : Launch) (s : Settings) (e : Expression) (start : String) :
    Nat → Nat → String → Location → Progress → Run Progress
  | 0, _, _, _, p => return p
  | fuel + 1, level, path, place, p => do
    if p.quits then return p
    let t ← files
    let follows := s.follow = .all || (s.follow = .operands && level = 0)
    let shown := if follows then (throughLinks t place).toOption.getD place else place
    let i : Item := {
      path
      start
      level
      place
      shown }
    let look (p : Progress) : Run Progress := do
      if s.least ≤ level then return (← e.holds launch s i { p with prunes := false }).2 else return { p with prunes := false }
    let isDir := t.isDirectoryAt shown && s.most.all (level < ·)
    let enter (p : Progress) : Run Progress := do
      if !isDir then return p
      let mut p := p
      for name in entriesIn (← files) shown do
        p ← walk launch s e start fuel (level + 1) (inDirectory path name) (shown ++ [toBytes name]) p
      return p
    if s.depthFirst then
      let p ← enter p
      if p.quits then return p else look p
    else
      let p ← look p
      if p.prunes || p.quits then return { p with prunes := false } else enter p

/-- Whether a step of an expression does something. -/
def Expression.acts : Expression → Bool
  | .step s => s.acts
  | .not e => e.acts
  | .and a b | .or a b | .then_ a b => a.acts || b.acts

end Finding

open Finding

/-- Looks for files. -/
def find (launch : Launch) : Tool := fun self args => do
  let rec leading : Follow → List String → Follow × List String
    | f, "-P" :: rest => let _ := f; leading .none rest
    | _, "-H" :: rest => leading .operands rest
    | _, "-L" :: rest => leading .all rest
    | f, "-D" :: _ :: rest => leading f rest
    | f, "--" :: rest => (f, rest)
    | f, word :: rest => if word.startsWith "-O" then leading f rest else (f, word :: rest)
    | f, [] => (f, [])
  let (follow, args) := leading .none args
  let isCondition (a : String) : Bool := (a.startsWith "-" && a.length > 1) || a = "(" || a = "!"
  let paths := args.takeWhile fun a => !isCondition a
  let words := args.drop paths.length
  -- a word that is no condition follows one
  let (s, tokens) ← readTokens (words.length + 1) { follow } words []
  let expression : Except String (Option Expression) :=
    if tokens.isEmpty then .ok none else (Expression.build tokens).map some
  match expression with
  | .error e =>
    complain self e
    return 1
  | .ok e =>
    let all : Expression := match e with
      | none => .step (.print "\n" none)
      | some e => if e.acts then e else .and e (.step (.print "\n" none))
    let mut p : Finding.Progress := {}
    for path in if paths.isEmpty then ["."] else paths do
      let t ← files
      let found := placeOf t path
      if p.quits then pure ()
      else
        match found with
        | .error fault =>
          complain self (quotedName path ++ ": " ++ fault.wording)
          p := { p with status := 1 }
        | .ok here => p ← walk launch s all path 200 0 path here p
    for (l, dir, batch) in p.waiting do
      if !(← runOn launch l dir batch) then p := { p with status := 1 }
    return p.status

end ClassLens.Tool
