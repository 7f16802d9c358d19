import ClassLens.Shell.Builtin
import ClassLens.Shell.Floating
import ClassLens.Tool.Basic

/-! # Programs that run programs

`env`, `xargs`, `timeout` and others run a program that their arguments name. How a program is run is
given to them: `launch` puts it in the place of the process. -/

namespace ClassLens.Tool

open Shell

/-- Puts the program that some words name in the place of the process. -/
abbrev Launch := List String → Run Nat

/-- Runs a program if there is one, in place of the process that was asked to. -/
def launchAs (launch : Launch) (self : String) (shown : String → String) (words : List String) :
    Run Nat := do
  let name := words.headD ""
  let t ← files
  let s ← shell
  let dirs := ((s.value? "PATH").getD "/usr/local/bin:/usr/bin:/bin").splitOn ":"
  let paths := if name.toList.contains '/' then [name] else dirs.map fun dir => dir ++ "/" ++ name
  let runs (p : String) : Bool := t.nodeOf? ⟨toBytes p⟩ matches some (.file _ true)
  if paths.any runs then launch words
  else if paths.any fun p => (t.nodeOf? ⟨toBytes p⟩).isSome then
    complain self (shown name ++ ": Permission denied")
    return 126
  else
    let blocked := paths.any fun p => t.locate ⟨toBytes p⟩ matches .error .notDirectory
    complain self (shown name ++ ": " ++
      (if blocked && name.toList.contains '/' then "Not a directory" else "No such file or directory"))
    return 127

/-- Whether a word sets a variable. -/
def setsVariable (word : String) : Bool := word.toList.contains '='

/-- Runs a program with other variables, or shows the variables. -/
def env (launch : Launch) : Tool := fun self args =>
  let o : Options := {
    flags := ['i', '0', 'v']
    valued := ['u', 'C', 'S']
    names := [("ignore-environment", 'i'), ("unset", 'u'), ("chdir", 'C'), ("split-string", 'S')] }
  o.readFirst self args 125 fun g => do
    let split := (g.values 'S').flatMap fun s => (s.splitOn " ").filter (· ≠ "")
    let operands := split ++ g.operands
    let clears := g.has 'i' || operands.head? == some "-"
    let operands := if operands.head? == some "-" then operands.tail else operands
    if clears then modifyShell fun s => { s with vars := .empty }
    for name in g.values 'u' do
      modifyShell fun s => { s with vars := s.vars.erase name }
    let settings := operands.takeWhile setsVariable
    for word in settings do
      let name := (word.takeWhile (· != '=')).toString
      let value := (word.drop (name.length + 1)).toString
      modifyShell fun s =>
        { s with vars := s.vars.insert name { value := some value, isExported := true } }
    match operands.drop settings.length with
    | [] =>
      for (name, value) in (← shell).exported do say (name ++ "=" ++ value ++ "\n")
      return 0
    | words => launchAs launch self quoted words

/-! ### Words from an input -/

/-- The words of an input with quotes and backslashes, each with whether its line ends right after it, and what
is wrong with what follows them. With `wholeLines` a word is a line without the blanks before it. -/
def quotedWords (wholeLines : Bool) : Nat → List Char → Option (List Char) → List (String × Bool) →
    List (String × Bool) × Option String
  | 0, _, _, found => (found, none)
  | n + 1, s, word, found =>
    let done (ends : Bool) : List (String × Bool) := match word with
      | some w => found ++ [(String.ofList w, ends)]
      | none => found
    let add (cs : List Char) (rest : List Char) : List (String × Bool) × Option String :=
      quotedWords wholeLines n rest (some ((word.getD []) ++ cs)) found
    let close (q : Char) (rest : List Char) : List (String × Bool) × Option String :=
      let inner := rest.takeWhile fun c => c != q && c != '\n'
      match rest.drop inner.length with
      | c :: after => if c == q then add inner after else (found, some (unmatched q))
      | [] => (found, some (unmatched q))
    match s with
    | [] => (done true, none)
    | '\'' :: rest => close '\'' rest
    | '"' :: rest => close '"' rest
    | '\\' :: c :: rest => add [c] rest
    | c :: rest =>
      if c == '\n' then quotedWords wholeLines n rest none (done true)
      else if c == ' ' || c == '\t' then
        if wholeLines && word.isSome then add [c] rest else quotedWords wholeLines n rest none (done false)
      else add [c] rest
where
  /-- What is said of a quote that is not closed. -/
  unmatched (q : Char) : String :=
    "unmatched " ++ (if q = '"' then "double" else "single") ++
      " quote; by default quotes are special to xargs unless you use the -0 option"

/-- How words are shared out among commands: so many words or lines for each, or each in the place of a mark. -/
inductive Sharing where
  | all
  | words (count : Nat)
  | lines (count : Nat)
  | each (mark : String)

/-- What is told where an option takes the place of another one. -/
def Sharing.conflict? (before : Sharing) (option : String) : Option String :=
  let told (name : String) : Option String :=
    some ("warning: options " ++ name ++ " and " ++ option ++ " are mutually exclusive, ignoring previous " ++ name ++
      " value")
  match before with
  | all => none
  | words _ => told "--max-args"
  | lines _ => told "--max-lines"
  | each _ => told "--replace"

/-- How words are shared out after one more option, and what is told of it. -/
def Sharing.after (before : Sharing) (option : Char × String) : Sharing × Option String :=
  let count := (natOf? option.2).getD 1
  match option.1, before with
  | 'n', .each mark =>
    if count = 1 then (.each mark, none) else (.words count, before.conflict? "--max-args/-n")
  | 'n', .words _ => (.words count, none)
  | 'n', _ => (.words count, before.conflict? "--max-args/-n")
  | 'L', .lines _ | 'l', .lines _ => (.lines count, none)
  | 'L', _ => (.lines count, before.conflict? "-L")
  | 'l', _ => (.lines count, before.conflict? "--max-lines/-l")
  | 'I', .each _ => (.each option.2, none)
  | 'I', _ => (.each option.2, before.conflict? "--replace/-I/-i")
  | 'i', .each _ => (.each (if option.2 = "" then "\x7b\x7d" else option.2), none)
  | 'i', _ => (.each (if option.2 = "" then "\x7b\x7d" else option.2), before.conflict? "--replace/-I/-i")
  | _, before => (before, none)

/-- How much room a word takes among the words of a command. -/
def roomOf (word : String) : Nat := word.length + 1

/-- Rows of words, each with room for no more than a size, and with no more words or lines than are allowed. -/
def sharedRows (room : Nat) (count lines : Option Nat) (items : List (String × Bool)) : List (List String) :=
  let (rows, row, _, _) := items.foldl (fun (rows, row, used, n) (item, ends) =>
    let (rows, row, used, n) := if row ≠ [] ∧ used + roomOf item > room then (rows ++ [row], [], 0, 0)
      else (rows, row, used, n)
    let row := row ++ [item]
    let n := if ends then n + 1 else n
    if count = some row.length || (ends && lines = some n) then (rows ++ [row], [], 0, 0)
    else (rows, row, used + roomOf item, n))
    (([], [], 0, 0) : List (List String) × List String × Nat × Nat)
  if row.isEmpty then rows else rows ++ [row]

/-- A text with all places of another one replaced. -/
def replaceText (old new s : String) : String := new.intercalate (s.splitOn old)

/-- The sign between words that an argument names, or what is wrong with it. -/
def delimiter? (s : String) : Except String Char :=
  match s.toList with
  | [c] => .ok c
  | ['\\', c] =>
    match [('n', '\n'), ('t', '\t'), ('0', '\x00'), ('a', '\x07'), ('b', '\x08'), ('f', '\x0c'), ('r', '\r'),
      ('v', '\x0b'), ('\\', '\\')].lookup c with
    | some d => .ok d
    | none =>
      if isOctal c then .ok (Char.ofNat (digitValue 8 [c]))
      else .error ("Invalid escape sequence " ++ s ++ " in input delimiter specification.")
  | '\\' :: 'x' :: ds =>
    if ds.all isHex then .ok (Char.ofNat (digitValue 16 ds % 256))
    else .error ("Invalid escape sequence " ++ s ++ " in input delimiter specification.")
  | '\\' :: c :: ds =>
    if (c :: ds).all isOctal then .ok (Char.ofNat (digitValue 8 (c :: ds) % 256))
    else .error ("Invalid escape sequence " ++ s ++ " in input delimiter specification.")
  | _ =>
    .error ("Invalid input delimiter specification " ++ s ++
      ": the delimiter must be either a single character or an escape sequence starting with \\.")

/-- How much room the words of a command have if nothing else is said. -/
def usualRoom : Nat := 131072

/-- The options of the program. -/
def xargsOptions : Options :=
  { flags := ['0', 'r', 't', 'x', 'p', 'o', '\x01', '\x02', '\x03']
    valued := ['n', 'I', 'd', 'L', 'P', 's', 'a', 'E', '\x04']
    optional := ['i', 'l', 'e']
    names := [("null", '0'), ("no-run-if-empty", 'r'), ("max-args", 'n'), ("delimiter", 'd'), ("replace", 'i'),
      ("max-procs", 'P'), ("verbose", 't'), ("max-lines", 'l'), ("arg-file", 'a'), ("eof", 'e'), ("interactive", 'p'),
      ("max-chars", 's'), ("exit", 'x'), ("open-tty", 'o'), ("show-limits", '\x01'), ("version", '\x02'),
      ("help", '\x03'), ("process-slot-var", '\x04')] }

/-- What is wrong with a number that is given to the program. -/
def countFault? (o : Char × String) : Option String :=
  let name := "-" ++ String.singleton o.1
  if !"nLlPs".toList.contains o.1 || (o.1 == 'l' && o.2 = "") then none
  else
    match decimalOf? o.2 with
    | none => some ("invalid number \"" ++ o.2 ++ "\" for " ++ name ++ " option")
    | some n =>
      if n < 1 && o.1 != 'P' then some ("value " ++ o.2 ++ " for " ++ name ++ " option should be >= 1") else none

/-- Runs a program with words from the input. -/
def xargs (launch : Launch) : Tool := fun self args =>
  xargsOptions.readFirst self args 1 fun g => do
    if g.has '\x02' then
      say "xargs (GNU findutils) 4.9.0\n"
      return 0
    if let some fault := g.options.findSome? countFault? then return ← usage self fault 1
    let delimiter : Option (Except String Char) :=
      (g.options.reverse.find? fun o => o.1 == '0' || o.1 == 'd').map fun o =>
        if o.1 == '0' then .ok '\x00' else delimiter? o.2
    if let some (.error e) := delimiter then
      complain self e
      return 1
    let mut sharing := Sharing.all
    for o in g.options do
      let (next, told) := sharing.after o
      sharing := next
      if let some message := told then complain self message
    let source : Except ReadFault String ← match g.value? 'a' with
      | some path => readInput path
      | none => pure (.ok (← readAll 0))
    match source with
    | .error fault =>
      complain self ("Cannot open input file " ++ quotedName ((g.value? 'a').getD "") ++ ": " ++ fault.wording)
      return 1
    | .ok content =>
      let isEach : Bool := sharing matches .each _
      let (items, wrong) : List (String × Bool) × Option String := match delimiter with
        | some (.ok stop) => ((linesFrom stop content.toList []).map fun line => (bare stop line, true), none)
        | _ => quotedWords isEach (content.length + 2) content.toList none []
      let final := (g.options.reverse.find? fun o => o.1 == 'E' || o.1 == 'e').map Prod.snd
      let (items, wrong) := match if delimiter.isSome then none else final.filter (· ≠ "") with
        | some word =>
          if items.any fun (item : String × Bool) => item.1 == word then
            (items.takeWhile fun (item : String × Bool) => item.1 != word, none)
          else (items, wrong)
        | none => (items, wrong)
      let command := if g.operands.isEmpty then ["echo"] else g.operands
      let base := (command.map roomOf).foldl (· + ·) 0
      let room := ((g.value? 's').bind natOf?).getD usualRoom
      if base ≥ room then
        complain self "cannot fit single argument within argument list size limit"
        return 1
      let isLong (item : String × Bool) : Bool := base + roomOf item.1 > room
      let (items, wrong) := if items.any isLong then
          (items.takeWhile fun item => !isLong item, some "argument line too long")
        else (items, wrong)
      let isWhole (row : List String) : Bool := match sharing with
        | .words n => row.length = n
        | .lines _ | .each _ => true
        | .all => false
      let shared : List (List String) := match sharing with
        | .each mark => items.map fun (item : String × Bool) => command.map (replaceText mark item.1)
        | .words n => (sharedRows (room - base) (some n) none items).map (command ++ ·)
        | .lines n => (sharedRows (room - base) none (some n) items).map (command ++ ·)
        | .all => (sharedRows (room - base) none none items).map (command ++ ·)
      let rows := if wrong.isSome then shared.filter fun (row : List String) => isWhole (row.drop command.length)
        else if items.isEmpty && !isEach && !g.has 'r' then [command] else shared
      let statuses ← rows.mapM (runRow self g)
      match wrong with
      | some e =>
        complain self e
        return 1
      | none => return if statuses.all (· = 0) then 0 else 123
where
  /-- Runs one command. -/
  runRow (self : String) (g : Given) (words : List String) : Run Nat := do
    if g.has 't' || g.has 'p' then tell (" ".intercalate (words.map (shellWord [])))
    if g.has 'p' then
      complain self "failed to open /dev/tty for reading: No such device or address"
      throw (.exit 1)
    if g.has 't' then tell "\n"
    let before ← channelOf 0
    if !g.has 'a' then setDescriptor 0 (← makeChannel .nothing)
    let e ← inChild (launchAs launch self id words)
    match before with
    | some n => setDescriptor 0 n
    | none => closeDescriptor 0
    reap
    match e with
    | .exited 255 =>
      complain self (words.headD "" ++ ": exited with status 255; aborting")
      throw (.exit 124)
    | .exited 127 => throw (.exit 127)
    | .exited 126 => throw (.exit 126)
    | .exited n => return n
    | .killed signal =>
      complain self (words.headD "" ++ ": terminated by signal " ++ toString signal)
      throw (.exit 125)

/-- Runs a program whose surroundings make no difference here. `fault` says that there is no program. -/
def wrapper (launch : Launch) (o : Options) (fault : String → String) (failure : Nat) : Tool :=
  fun self args =>
    o.readFirst self args failure fun g => do
      match g.operands with
      | [] => usage self (if self.endsWith "setsid" then "no command specified" else "missing operand") failure
      | words => launchAs launch self fault words

/-- What `nohup` and others say of a program that cannot be run. -/
def cannotRun (name : String) : String := "failed to run command " ++ quoted name

/-- The programs that only change the surroundings of another one. -/
def wrappers (launch : Launch) : List (String × Tool) :=
  let buffers : Options := {
    flags := []
    valued := ['i', 'o', 'e']
    names := [("input", 'i'), ("output", 'o'), ("error", 'e')] }
  [("nohup", wrapper launch { flags := [] } cannotRun 125),
    ("stdbuf", fun self args =>
      buffers.readFirst self args 125 fun g =>
        if g.options.isEmpty && !g.operands.isEmpty then
          usage self "you must specify a buffering mode option" 125
        else wrapper launch buffers cannotRun 125 self args),
    ("setsid", wrapper launch { flags := "cfw".toList } (fun name => "failed to execute " ++ name) 1),
    ("ionice", wrapper launch { flags := ['t'], valued := ['c', 'n', 'p'] }
      (fun name => "failed to execute " ++ name) 1)]

/-- Runs a program with another priority, or shows the priority. -/
def nice (launch : Launch) : Tool := fun self args =>
  let (old, args) : Option String × List String := match args with
    | arg :: rest =>
      match arg.toList with
      | '-' :: c :: cs =>
        if c.isDigit then (some (String.ofList (c :: cs)), rest)
        else if (c == '-' || c == '+') && cs.all Char.isDigit && !cs.isEmpty then (some (String.ofList (c :: cs)), rest)
        else (none, args)
      | _ => (none, args)
    | [] => (none, [])
  ({ flags := [], valued := ['n'], names := [("adjustment", 'n')] } : Options).readFirst self args 125 fun g => do
    let given := g.value? 'n' <|> old
    let isNumber (s : String) : Bool := match s.toList with
      | '-' :: ds | '+' :: ds => !ds.isEmpty && ds.all Char.isDigit
      | ds => !ds.isEmpty && ds.all Char.isDigit
    if let some bad := given.filter fun s => !isNumber s then
      complain self ("invalid adjustment " ++ quoted bad)
      return 125
    match g.operands with
    | [] =>
      if given.isSome then return ← usage self "a command must be given with an adjustment" 125
      say (toString (← shell).niceness ++ "\n")
      return 0
    | words =>
      let digits := (given.getD "10").toList.filter Char.isDigit
      let size : Int := ((natOf? (String.ofList digits)).getD 10 : Nat)
      let step := if (given.getD "").startsWith "-" then -size else size
      modifyShell fun s => { s with niceness := max (-20) (min 19 (s.niceness + step)) }
      launchAs launch self quoted words

/-! ### Time -/

/-- How many billionths of a second a text says, or all time, for a text such as `1.5m`. -/
def durationOf? (s : String) : Option (Option Nat) :=
  let (body, unit) : String × Nat := match s.toList.getLast? with
    | some 's' => ((s.dropEnd 1).toString, 1)
    | some 'm' => ((s.dropEnd 1).toString, 60)
    | some 'h' => ((s.dropEnd 1).toString, 3600)
    | some 'd' => ((s.dropEnd 1).toString, 86400)
    | _ => (s, 1)
  let (x, rest, _) := Floating.read .extended body.toList
  if body = "" || rest.length = body.length || !rest.isEmpty then none
  else
    match x with
    | .finite negative m e =>
      if negative && m ≠ 0 then none
      else
        let n := m * unit * 1000000000
        some (some (if 0 ≤ e then n * Nat.pow 2 e.toNat else (n + Nat.pow 2 (-e).toNat - 1) / Nat.pow 2 (-e).toNat))
    | .infinite false => some none
    | _ => none

/-- Waits. -/
def sleep : Tool := fun self args => ({ flags := [] } : Options).read self args 1 fun g => do
  if g.operands.isEmpty then return ← usage self "missing operand" 1
  match g.operands.filter fun a => (durationOf? a).isNone with
  | [] =>
    let times := g.operands.filterMap durationOf?
    pass (times.foldl (fun sum t => sum.bind fun n => t.map (n + ·)) (some 0)) 1000
    return 0
  | bad =>
    for a in bad do complain self ("invalid time interval " ++ quoted a)
    tell ("Try '" ++ self ++ " --help' for more information.\n")
    return 1

/-- Runs a program for a limited time. -/
def timeout (launch : Launch) : Tool := fun self args =>
  let o : Options := {
    flags := ['v', '\x01', '\x02']
    valued := ['k', 's']
    names := [("foreground", '\x01'), ("kill-after", 'k'), ("preserve-status", '\x02'), ("signal", 's'),
      ("verbose", 'v')] }
  o.readFirst self args 125 fun g => do
    for o in g.options do
      if o.1 == 'k' && (durationOf? o.2).isNone then
        return ← usage self ("invalid time interval " ++ quoted o.2) 125
      if o.1 == 's' && (signalOf? true o.2).isNone then
        return ← usage self (quoted o.2 ++ ": invalid signal") 125
    match g.operands with
    | [] | [_] =>
      tell ("Try '" ++ self ++ " --help' for more information.\n")
      return 125
    | limit :: words =>
      let some time := durationOf? limit
        | return ← usage self ("invalid time interval " ++ quoted limit) 125
      let signal := ((g.value? 's').bind (signalOf? true)).getD 15
      let kills := ((g.value? 'k').bind durationOf?).bind id |>.filter (· ≠ 0)
      let number ← newProcess
      let limited := time.filter (· ≠ 0)
      if let some n := limited then
        modifyWorld fun w => { w with
          alarms := w.alarms ++ [{ time := w.clock + n, first := number, signal, kills }] }
      let e ← inProcess number (launchAs launch self ("failed to run command " ++ quoted ·) words)
      let w ← world
      let timedOut := w.rung.contains number
      modifyWorld fun w => { w with alarms := w.alarms.filter fun a => a.first != number }
      reap
      let name := words.headD ""
      if timedOut && g.has 'v' then
        complain self ("sending signal " ++ signalName signal ++ " to command " ++ quoted name)
      let killed := timedOut && !g.has '\x01' && (signal = 9 || (kills.isSome && (e matches .killed 9)))
      if killed then
        if g.has 'v' && signal ≠ 9 then
          complain self ("sending signal KILL to command " ++ quoted name)
        throw (.killed 9)
      match e with
      | .exited n => return if timedOut && !g.has '\x02' then 124 else n
      | .killed s =>
        if !timedOut then throw (.killed s)
        return if g.has '\x02' || s = 9 then 128 + s else 124

end ClassLens.Tool
