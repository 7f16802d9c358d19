import ClassLens.Shell.Extended.Judging
import ClassLens.Shell.Redirection
import ClassLens.Tool.Catalogue

/-! # Running commands

How commands, scripts and programs are run. A command knows whether it is `tested`, so that its failure
does not end a script that is to end at failures, and whether the process ends with it (`exits`), so that
a program takes the place of the process.

* `runCommand`: a command of a script.
* `runText`: a script as a text.
* `become`: a program takes the place of the process.

A script is run with fuel, as it may never end. -/

namespace ClassLens.Shell

/-- The name of a signal as it is told that one ended a process. -/
def signalWords (signal : Nat) : String :=
  let known := ["Hangup", "Interrupt", "Quit", "Illegal instruction", "Trace/breakpoint trap", "Aborted",
    "Bus error", "Floating point exception", "Killed", "User defined signal 1", "Segmentation fault",
    "User defined signal 2", "Broken pipe", "Alarm clock", "Terminated", "Stack fault", "Child exited",
    "Continued", "Stopped (signal)", "Stopped", "Stopped (tty input)", "Stopped (tty output)",
    "Urgent I/O condition", "CPU time limit exceeded", "File size limit exceeded",
    "Virtual timer expired", "Profiling timer expired", "Window changed", "I/O possible",
    "Power failure", "Bad system call"]
  match known[signal - 1]? with
  | some words => words
  | none => if signal < 34 then "Unknown signal " ++ toString signal
    else "Real-time signal " ++ toString (signal - 34)

/-- The status of a process that was waited for; a signal that ended it is told, unless it is one that
is sent on purpose. -/
def awaited (e : Ending) : Run Nat := do
  match e with
  | .killed signal =>
    let isQuiet := signal = 2 ∨ signal = 13 ∨ (signal = 15 ∧ (← shell).isExtended)
    if !isQuiet then tell (signalWords signal ++ "\n")
  | .exited _ => pure ()
  return statusOf e

/-- Whether anything is to be done at a signal or at the end. -/
def Shell.hasTraps (s : Shell) : Bool :=
  s.traps.entries.any fun e => e.2 ≠ ""

/-- A table without some entries. -/
def keepEntries {κ ν : Type} [DecidableEq κ] (p : κ → ν → Bool) (t : Table κ ν) : Table κ ν :=
  t.entries.foldl (fun t e => if p e.1 e.2 then t else t.erase e.1) t

/-- The shell of a subshell: signals that are not ignored end it again. -/
def Shell.forked (s : Shell) : Shell :=
  { s with traps := keepEntries (fun _ action => action == "") s.traps }

/-- The shell of a program that is started: it knows what is exported. -/
def Shell.started (s : Shell) (name : String) : Shell :=
  { name
    vars := keepEntries (fun _ v => v.isExported && v.value.isSome)
      ⟨s.vars.entries.map fun e => (e.1, { value := e.2.value, isExported := e.2.isExported }), by
        have h := s.vars.nodup
        rw [List.map_map]; exact h⟩
    process := s.process
    parent := s.parent
    number := s.process
    descriptors := s.descriptors
    traps := keepEntries (fun n action => n != 0 && action == "") s.traps
    directory := s.directory
    place := s.place
    mask := s.mask
    niceness := s.niceness }

/-- Where programs are looked for. -/
def defaultPath : String := "/usr/local/sbin:/usr/local/bin:/usr/sbin:/usr/bin:/sbin:/bin"

/-- The directories in which programs are looked for. -/
def Shell.searchPath (s : Shell) (usual : String := "") : List String :=
  ((s.value? "PATH").getD usual).splitOn ":"

/-- The path of a program by its name, or whether there is a file that is not run. -/
def findProgram (name : String) (usual : String := "") : Run (Except Bool String) := do
  let t ← tree
  let paths := ((← shell).searchPath usual).map fun dir =>
    if dir = "" then name else if dir.endsWith "/" then dir ++ name else dir ++ "/" ++ name
  let runs (path : String) : Bool := t.nodeOf? ⟨toBytes path⟩ matches some (.file _ true)
  match paths.find? runs with
  | some path => return .ok path
  | none => return .error (paths.any fun path => (t.nodeOf? ⟨toBytes path⟩).isSome)

/-- What the name of a command leads to. -/
inductive Meaning where
  | function (body : Nat × Command)
  | builtin
  | program

/-- What the name of a command leads to. -/
def Shell.meaning (s : Shell) (noFunctions : Bool) (name : String) : Meaning :=
  match if noFunctions then none else s.functions.get? name with
  | some body => .function body
  | none => if Builtin.names.contains name then .builtin else .program

/-- What the name of a command of the extended language leads to; functions have any names. -/
def Shell.wideMeaning (s : Shell) (noFunctions onlyBuiltins : Bool) (name : String) : Meaning :=
  match if noFunctions || onlyBuiltins then none else s.functions.get? name with
  | some body => .function body
  | none => if Session.names.contains name then .builtin else .program

/-- Whether the misuse of a builtin command ends a script. -/
def isSpecialBuiltin (name : String) : Bool :=
  specialBuiltins.contains name || name == "local"

/-- The words after `command` and its flags, if it does not show anything. -/
def afterCommand : List String → Option (List String)
  | "--" :: words => if words.isEmpty then none else some words
  | word :: words =>
    match word.toList with
    | '-' :: c :: cs => if (c :: cs).all (· == 'p') then afterCommand words else none
    | _ => some (word :: words)
  | [] => none

/-- The words of a simple command without `command` before them, and whether there was any. -/
def dropCommand : Nat → List String → Bool → List String × Bool
  | 0, words, any => (words, any)
  | n + 1, "command" :: words, any =>
    match afterCommand words with
    | some words => dropCommand n words true
    | none => ("command" :: words, any)
  | _ + 1, words, any => (words, any)

/-- The arguments of a simple command of the extended language without `command` and `builtin` before them,
whether functions do not count, and whether only builtin commands do. -/
def dropMarks : Nat → List Given → Bool → Bool → List Given × Bool × Bool
  | 0, gs, b, c => (gs, b, c)
  | n + 1, .text "command" :: gs, b, c =>
    match gs with
    | .text "-p" :: rest | .text "--" :: rest =>
      if rest.isEmpty then (.text "command" :: gs, b, c) else dropMarks n (.text "command" :: rest) b c
    | .text word :: _ =>
      if word.startsWith "-" && word.length > 1 then (.text "command" :: gs, b, c) else dropMarks n gs true c
    | _ => (.text "command" :: gs, b, c)
  | n + 1, .text "builtin" :: .text word :: gs, b, _ =>
    if Session.names.contains word then dropMarks n (.text word :: gs) b true
    else (.text "builtin" :: .text word :: gs, b, true)
  | _ + 1, gs, b, c => (gs, b, c)

/-- What `type` and `command` show of a name: its status is 127 where there is nothing. -/
def describe (verbose : Bool) (name : String) : Run Nat := do
  let s ← shell
  let show_ (short long : String) : Run Nat :=
    Builtin.putLines [if verbose then name ++ " is " ++ long else short]
  if keywords.contains name then show_ name "a shell keyword"
  else if let some text := s.aliases.lookup name then
    if verbose then show_ "" ("an alias for " ++ text)
    else Builtin.putLines ["alias " ++ name ++ "=" ++ quoteText text]
  else
    match s.meaning false name with
    | .function _ => show_ name "a shell function"
    | .builtin =>
      show_ name (if isSpecialBuiltin name then "a special shell builtin" else "a shell builtin")
    | .program =>
      let found ←
        if name.toList.contains '/' then
          pure (if (← tree).nodeOf? ⟨toBytes name⟩ matches some (.file _ true) then some name else none)
        else pure (← findProgram name).toOption
      match found with
      | some path => show_ path path
      | none =>
        if verbose then
          let _ ← Builtin.put (name ++ ": not found\n")
        return 127

/-- Describes names; the last status that is not zero. -/
def describeAll (verbose : Bool) : List String → Nat → Run Nat
  | [], status => return status
  | name :: names, status => do
    let n ← describe verbose name
    describeAll verbose names (if n = 0 then status else n)

/-- Runs something with some variables, which are put back at its end however it ends. -/
def keepingVariables {α : Type} (names : List String) (body : Run α) : Run α := do
  let s ← shell
  let kept := names.map fun name => (name, s.vars.get? name)
  let r ← attempt body
  modifyShell fun s => { s with
    vars := kept.foldl (fun t e => match e.2 with
      | some v => t.insert e.1 v
      | none => t.erase e.1) s.vars }
  match r with
  | .ok a => return a
  | .error e => throw e

/-! ### The extended language -/

/-- An argument as it is shown before it is run. -/
def Given.traced : Given → String
  | .value name sub appends v =>
    name ++ (sub.elim "" fun t => "[" ++ t ++ "]") ++ (if appends then "+=" else "=") ++
      (if v = "" then "" else Reshaping.traced v)
  | .items name appends list =>
    name ++ (if appends then "+=(" else "=(") ++
      " ".intercalate (list.flatMap fun e => e.2.2.map fun v =>
        (e.1.elim "" fun t => "[" ++ t ++ "]=") ++ Reshaping.traced v) ++ ")"
  | .text t => Reshaping.traced t

/-- Runs something as a builtin command of a name does: a fault in it is a failure. -/
def asBuiltin (name : String) (body : Run Nat) : Run Nat := do
  let before := (← shell).builtin
  modifyShell fun s => { s with builtin := some name }
  let r ← attempt body
  modifyShell fun s => { s with builtin := before }
  match r with
  | .ok n => return n
  | .error .fault => return 1
  | .error e => throw e

/-- What is told of a program that cannot be run. -/
def Shell.lostText (s : Shell) : String :=
  if s.isExtended then
    if s.builtin == some "exec" then "not found"
    else if ((s.value? "PATH").getD "").isEmpty then ReadFault.notFound.wording
    else "command not found"
  else "not found"

/-- The variables of a shell of the extended language in the order in which programs get them. -/
def Shell.arranged (s : Shell) : Table String Variable :=
  let place (e : String × Variable) : Nat := keyCode e.1 % keyPlaces
  let sorted := (s.vars.entries.filter fun e => e.1 != "_").mergeSort fun a b => place a ≤ place b
  sorted.foldl (fun t e => t.insert e.1 e.2) .empty

/-- The value of the variable that counts how deep shells stand in one another, as a program gets it that takes
the place of its shell, or not. -/
def Shell.level (s : Shell) (replaced : Bool) : String :=
  let n := ((s.value? "SHLVL").bind plainNumber?).getD 1
  toString (if replaced then n - 1 else n)

/-- How the name of a command is shown by `type` and `command` in the extended language; the status. -/
def describeWide (form : Char) (all : Bool) (name : String) : Run Nat := do
  let s ← shell
  let t ← tree
  let isProgram (path : String) : Bool := t.nodeOf? ⟨toBytes path⟩ matches some (.file _ true)
  let paths : List String :=
    if name.toList.contains '/' then (if isProgram name then [name] else [])
    else (s.searchPath.map fun dir => if dir = "" then "./" ++ name else dir ++ "/" ++ name).filter isProgram
  let words := keywords ++ ["[[", "]]", "function", "time", "select", "coproc"]
  let kinds : List (String × String × String) :=
    (if words.contains name then [("keyword", name, name ++ " is a shell keyword")] else []) ++
    (if (s.functions.get? name).isSome then [("function", name, name ++ " is a function")] else []) ++
    (if Session.names.contains name then [("builtin", name, name ++ " is a shell builtin")] else []) ++
    paths.map fun p => ("file", p, name ++ " is " ++ p)
  let kinds := if form == 'P' then kinds.filter fun k => k.1 == "file" else kinds
  let kinds := if all then kinds else kinds.take 1
  match kinds with
  | [] =>
    if form == 'V' || form == ' ' then warn (name ++ ": not found")
    return 1
  | kinds =>
    match form with
    | 't' => Writing.putLines (kinds.map fun k => k.1)
    | 'p' | 'P' => Writing.putLines ((kinds.filter fun k => k.1 == "file").map fun k => k.2.1)
    | 'v' => Writing.putLines (kinds.map fun k => k.2.1)
    | _ => Writing.putLines (kinds.map fun k => k.2.2)

/-- Describes names; the status tells whether one of them, or each one, is known. -/
def describeEach (form : Char) (all : Bool) (names : List String) : Run Nat := do
  let mut found := 0
  for name in names do
    let n ← describeWide form all name
    if n = 0 then found := found + 1
  let isEnough := if form == 'v' || form == 'V' then found > 0 else found = names.length
  return if isEnough || names.isEmpty then 0 else 1

/-- The variables that a shell of the extended language starts with. -/
def startVariables : Run Unit := do
  let s ← shell
  let own (name value : String) (flags : String) : Run Unit := modifyShell fun s =>
    let v : Variable := {
      value := some value
      isExported := flags.toList.contains 'x'
      isReadonly := flags.toList.contains 'r'
      isWhole := flags.toList.contains 'i' }
    { s with vars := s.vars.insert name v }
  own "IFS" " \t\n" ""
  own "BASH" "/usr/bin/bash" ""
  own "BASH_VERSION" "5.2.15(1)-release" ""
  own "HOSTTYPE" "x86_64" ""
  own "MACHTYPE" "x86_64-pc-linux-gnu" ""
  own "OSTYPE" "linux-gnu" ""
  own "UID" "0" "ri"
  own "EUID" "0" "ri"
  own "PPID" (toString s.parent) "ri"
  own "OPTIND" "1" ""
  own "OPTERR" "1" ""
  own "PS4" "+ " ""
  own "PWD" s.place "x"
  if (s.vars.get? "OLDPWD").isNone then
    modifyShell fun s => { s with vars := s.vars.insert "OLDPWD" { isExported := true } }
  own "SHLVL" (toString (((s.value? "SHLVL").bind plainNumber?).getD 0 + 1)) "x"
  if (s.value? "PATH").isNone then own "PATH" defaultPath ""
  if (s.value? "TERM").isNone then own "TERM" "dumb" ""
  if (s.value? "SHELL").isNone then own "SHELL" "/bin/bash" ""

/-- What is said of the use of a shell of the extended language. -/
def wideUsage (name : String) : String :=
  "Usage:\t" ++ name ++ " [GNU long option] [option] ...\n\t" ++ name ++
    " [GNU long option] [option] script-file ...\nGNU long options:\n" ++
    String.join (["debug", "debugger", "dump-po-strings", "dump-strings", "help", "init-file", "login", "noediting",
      "noprofile", "norc", "posix", "pretty-print", "rcfile", "restricted", "verbose", "version"].map
      fun o => "\t--" ++ o ++ "\n") ++
    "Shell options:\n\t-ilrsD or -c command or -O shopt_option\t\t(invocation only)\n" ++
    "\t-abefhkmnptuvxBCEHPT or -o option\n"

/-- The options of a shell of the extended language that is started: a status that ends it, or whether its
script is an argument, whether it only tells its version, and the operands. -/
def startWideOptions : Nat → List String → Bool → Run (Except Nat (Bool × List String))
  | 0, words, inArgument => return .ok (inArgument, words)
  | _ + 1, [], inArgument => return .ok (inArgument, [])
  | fuel + 1, word :: words, inArgument => do
    let name := (← shell).name
    let refused (option : String) : Run (Except Nat (Bool × List String)) := do
      tell (name ++ ": " ++ option ++ ": invalid option\n" ++ wideUsage name)
      return .error 2
    match word.toList with
    | ['-'] | ['-', '-'] => return .ok (inArgument, words)
    | '-' :: '-' :: long =>
      match String.ofList long with
      | "norc" | "noprofile" | "login" | "noediting" | "restricted" | "debugger" => startWideOptions fuel words inArgument
      | "posix" =>
        Switches.setOption true '\x08'
        startWideOptions fuel words inArgument
      | "verbose" =>
        Switches.setOption true 'v'
        startWideOptions fuel words inArgument
      | "rcfile" | "init-file" => startWideOptions fuel words.tail inArgument
      | "version" =>
        say "GNU bash, version 5.2.15(1)-release (x86_64-pc-linux-gnu)\n"
        return .error 0
      | "help" =>
        say ("GNU bash, version 5.2.15(1)-release-(x86_64-pc-linux-gnu)\n" ++ wideUsage name)
        return .error 0
      | _ => refused word
    | sign :: c :: cs =>
      if sign != '-' && sign != '+' then return .ok (inArgument, word :: words)
      let known := "abefhkmnptuvxBCEHPTclirsDoO".toList
      match (c :: cs).find? fun c => !known.contains c with
      | some bad => refused (String.ofList [sign, bad])
      | none =>
        for c in c :: cs do
          if !"clirDoO".toList.contains c then Switches.setOption (sign == '-') c
        let inArgument := inArgument || (c :: cs).contains 'c'
        let takes := (c :: cs).filter fun c => c == 'o' || c == 'O'
        for (c, value) in takes.zip words do
          if c == 'o' then
            match wideOptionNames.find? fun e => e.2 == value with
            | some (letter, _) => Switches.setOption (sign == '-') letter
            | none =>
              tell (name ++ ": line 0: " ++ name ++ ": " ++ value ++ ": invalid option name\n")
              throw (.exit 2)
          else if (Switches.features.map Prod.fst).contains value then
            modifyShell fun s => { s with
              features := s.features.filter (· != value) ++ (if sign == '-' then [value] else []) }
          else
            tell (name ++ ": line 0: " ++ name ++ ": " ++ value ++ ": invalid shell option name\n")
            throw (.exit 2)
        startWideOptions fuel (words.drop takes.length) inArgument
    | _ => return .ok (inArgument, word :: words)

/-- Takes note of a status. -/
def setStatus (n : Nat) : Run Unit := modifyShell fun s => { s with status := n }

/-- The interpreter that the first line of a script names, and its argument. -/
def interpreter? (content : String) : Option (List String) :=
  match content.toList with
  | '#' :: '!' :: rest =>
    let line := rest.takeWhile (· != '\n')
    let line := line.dropWhile fun c => c == ' ' || c == '\t'
    let name := line.takeWhile fun c => c != ' ' && c != '\t'
    let arg := (line.drop name.length).dropWhile fun c => c == ' ' || c == '\t'
    let arg := (arg.reverse.dropWhile fun c => c == ' ' || c == '\t').reverse
    some (String.ofList name :: (if arg.isEmpty then [] else [String.ofList arg]))
  | _ => none

/-- What a shell is started with. -/
structure Invocation where
  script : Option String := none
  operands : List String := []

/-- The options of a shell that is started; whether its script is an argument. -/
def startOptions : Nat → List String → Bool → Run (Bool × List String)
  | 0, words, inArgument => return (inArgument, words)
  | _ + 1, [], inArgument => return (inArgument, [])
  | fuel + 1, word :: words, inArgument => do
    match word.toList with
    | ['-'] | ['-', '-'] => return (inArgument, words)
    | ['-', 'o'] | ['+', 'o'] =>
      let _ ← Builtin.takeOptions [word, words.headD ""]
      startOptions fuel words.tail inArgument
    | sign :: c :: cs =>
      if sign = '-' ∨ sign = '+' then
        let flags := (c :: cs).filter fun c => c != 'c' && c != 'l'
        if !flags.isEmpty then
          let _ ← Builtin.takeOptions [String.ofList (sign :: flags)]
        startOptions fuel words (inArgument || (c :: cs).contains 'c')
      else return (inArgument, word :: words)
    | _ => return (inArgument, word :: words)

/-- How far processes beside others are run: until a time, until a process or those of a parent have ended, until
one more of a parent has ended, until those from a number on have, or until all have. -/
inductive Goal where
  | time (t : Nat)
  | process (number : Nat)
  | children (parent : Nat)
  | next (parent : Nat)
  | since (number : Nat)
  | all
  deriving DecidableEq

/-- Whether there is nothing left to run, `waiting` being what has not run yet. -/
def Goal.isReached (goal : Goal) (waiting : List Job) : Bool :=
  match goal with
  | .process n => !waiting.any fun j => j.number == n
  | .children p | .next p => !waiting.any fun j => j.parent == p
  | .since n => !waiting.any fun j => n ≤ j.number
  | .time _ | .all => waiting.isEmpty

/-- How long one round of a loop takes, in billionths of a second. -/
def roundTime : Nat := 20000

/-- For how long a program has to run so that others may end meanwhile. -/
def longTime : Nat := 100000

mutual

/-- Runs a process that was started beside another one, from the time of its start to its end. One that gets a
signal at once ends before it does anything. -/
def runJob (fuel : Nat) (job : Job) : Run Unit :=
  match fuel with
  | 0 => pure ()
  | fuel + 1 => do
    let w ← world
    modifyWorld fun w => { w with
      jobs := w.jobs.filter fun j => j.number != job.number
      clock := job.start
      firstJob := w.nextProcess }
    let isMine (a : Alarm) : Bool := a.isPersonal && a.first == job.number
    let e ← match w.alarms.find? fun a => isMine a && a.time ≤ job.start && endsProgram a.signal with
      | some a => pure (Ending.killed a.signal)
      | none => inProcess job.number (finish fuel do
        modifyShell fun _ => { job.shell with process := job.number }
        guard
        runCommand fuel false true job.command)
    modifyWorld fun x => { x with
      alarms := x.alarms.filter fun a => !isMine a
      ended := x.ended.insert job.number e
      firstJob := w.firstJob }
termination_by structural fuel

/-- When a process ends that was started beside another one, if that is before a time. -/
def endOfJob (fuel : Nat) (limit : Option Nat) (job : Job) : Run (Option Nat) :=
  match fuel with
  | 0 => return none
  | fuel + 1 => do
    let before ← get
    match limit with
    | some time => modifyWorld fun w => { w with
      alarms := w.alarms ++ [{ time := time + 1, first := job.number, signal := 9 }] }
    | none => pure ()
    runJob fuel job
    let time := (← world).clock
    set before
    return if limit.all (time ≤ ·) then some time else none
termination_by structural fuel

/-- Runs the processes that were started beside others, in the order in which they end, as far as that is wanted. -/
def settle (fuel : Nat) (goal : Goal) : Run Unit :=
  match fuel with
  | 0 => pure ()
  | fuel + 1 => do
    let w ← world
    let waiting := w.jobs.filter fun j => w.firstJob ≤ j.number
    if goal.isReached waiting then return
    let limit := match goal with
      | .time t => some t
      | _ => none
    let ends ← if waiting.length = 1 && limit.isNone then pure (waiting.map fun j => (0, j))
      else waiting.filterMapM fun j => do
        match ← endOfJob fuel limit j with
        | some time => return some (time, j)
        | none => return none
    let earliest := ends.foldl (fun (best : Option (Nat × Job)) e =>
      match best with
      | some b => if e.1 < b.1 then some e else some b
      | none => some e) none
    match earliest with
    | none => return
    | some (_, job) =>
      runJob fuel job
      modifyWorld fun x => { x with clock := max w.clock x.clock }
      if goal == .next job.parent then return
      settle fuel goal
termination_by structural fuel

/-- Runs something to the end of its process, with what is to be done at the end. -/
def finish (fuel : Nat) (body : Run Nat) : Run Nat :=
  match fuel with
  | 0 => throw .fault
  | fuel + 1 => do
    match ← attempt body with
    | .error (.killed signal) => throw (.killed signal)
    | r =>
      let isLost := (← shell).isExtended && (r matches .error .fault)
      let n := if isLost then 1 else lastStatus r
      match (← shell).traps.get? 0 with
      | some action =>
        modifyShell fun s => { s with
          traps := s.traps.erase 0, status := n, beforeTrap := some n, loops := 0 }
        match ← attempt (runText fuel false false action) with
        | .error (.exit m) => return m
        | .error (.killed signal) => throw (.killed signal)
        | _ => return n
      | none => return n
termination_by structural fuel

/-- Runs something in a new process; whoever reads what it writes `waits` for those that it starts too. -/
def fork (fuel : Nat) (waits : Bool) (body : Run Nat) : Run Ending :=
  match fuel with
  | 0 => throw .fault
  | fuel + 1 => do
    let number ← newProcess
    let e ← inProcess number (finish fuel do
      modifyShell Shell.forked
      guard
      body)
    if waits then settle fuel (.since number)
    return e
termination_by structural fuel

/-- Does what is to be done at the signals that have come. -/
def notice (fuel : Nat) : Run Unit :=
  match fuel with
  | 0 => pure ()
  | fuel + 1 => do
    let s ← shell
    match (← world).pending.find? fun e => e.1 == s.process with
    | none => pure ()
    | some (process, signal) =>
      modifyWorld fun w => { w with
        pending := w.pending.filter fun e => !(e.1 == process && e.2 == signal) }
      match s.traps.get? signal with
      | some action =>
        if action ≠ "" then
          modifyShell fun s => { s with beforeTrap := some s.status }
          let _ ← runText fuel false false action
          modifyShell fun t => { t with status := s.status, beforeTrap := s.beforeTrap }
      | none => pure ()
      notice fuel
termination_by structural fuel

/-- Runs the lines of a script of the extended language. A fault ends a line; a subshell ends with it. -/
def runWideLines (fuel : Nat) (tested exits : Bool) (r : Reader) (status : Nat) : Run Nat :=
  match fuel with
  | 0 => throw .fault
  | fuel + 1 => do
    let s ← shell
    let r := { r with
      hasGroups := s.features.contains "extglob", nextDocument := (← world).nextDocument, aliases := s.replacedNames }
    match readLine r with
    | .error fault =>
      tellFault s.label fault
      setStatus fault.status
      return fault.status
    | .ok (none, _) => return status
    | .ok (some program, r) =>
      for (line, delimiter) in r.openDocuments do
        tell (s.source.getD s.name ++ ": line " ++ toString (r.line - 1) ++ ": warning: here-document at line " ++
          toString line ++ " delimited by end-of-file (wanted \x60" ++ delimiter ++ "')\n")
      modifyWorld fun w => { w with
        nextDocument := r.nextDocument
        documents := program.documents.foldl (fun t d => t.insert d.1 d.2) w.documents }
      match program.command with
      | none => runWideLines fuel tested exits r status
      | some c =>
        match ← attempt (runCommand fuel tested (exits && r.rest.isEmpty) c) with
        | .ok n => runWideLines fuel tested exits r n
        | .error .fault =>
          setStatus 1
          let s ← shell
          if s.process != s.number then throw (.exit 1)
          modifyShell fun s => { s with builtin := none }
          runWideLines fuel tested exits r 1
        | .error e => throw e
termination_by structural fuel

/-- Runs the lines of a script. -/
def runLines (fuel : Nat) (tested exits : Bool) (r : Reader) (status : Nat) : Run Nat :=
  match fuel with
  | 0 => throw .fault
  | fuel + 1 => do
    let aliases := (← shell).replacedNames
    match readLine { r with nextDocument := (← world).nextDocument, aliases } with
    | .error fault =>
      modifyShell fun s => { s with line := fault.line }
      refuse fault.message
    | .ok (none, _) => return status
    | .ok (some program, r) =>
      modifyWorld fun w => { w with
        nextDocument := r.nextDocument
        documents := program.documents.foldl (fun t d => t.insert d.1 d.2) w.documents }
      match program.command with
      | none => runLines fuel tested exits r status
      | some c =>
        let n ← runCommand fuel tested (exits && r.rest.isEmpty) c
        runLines fuel tested exits r n
termination_by structural fuel

/-- Runs a script. -/
def runText (fuel : Nat) (tested exits : Bool) (text : String) : Run Nat :=
  match fuel with
  | 0 => throw .fault
  | fuel + 1 => do
    let s ← shell
    let line := s.line
    let n ← if s.isExtended then runWideLines fuel tested exits (s.reader text) 0
      else runLines fuel tested (exits && !text.endsWith "\n") (s.reader text) 0
    modifyShell fun s => { s with line }
    return n
termination_by structural fuel

/-- Runs the lines of a substitution. -/
def runPrograms (fuel : Nat) (status : Nat) : List Program → Run Nat
  | programs =>
    match fuel with
    | 0 => throw .fault
    | fuel + 1 => do
      match programs with
      | [] => return status
      | program :: rest =>
        modifyWorld fun w => { w with
          documents := program.documents.foldl (fun t d => t.insert d.1 d.2) w.documents }
        match program.command with
        | none => runPrograms fuel status rest
        | some c => runPrograms fuel (← runCommand fuel false rest.isEmpty c) rest
termination_by structural fuel

/-- What a substitution stands for. -/
def substitute (fuel : Nat) (programs : List Program) : Run String :=
  match fuel with
  | 0 => throw .fault
  | fuel + 1 => do
    let s ← shell
    let n ← makeChannel (.ofText "")
    let e ← fork fuel true do
      setDescriptor 1 n
      if s.isExtended then
        modifyShell fun s => { s with
          depth := s.depth + 1
          builtin := none
          options := if s.features.contains "inherit_errexit" then s.options else s.options.filter (· != 'e') }
        match programs with
        | [.mk (some (.simple line [] [] [.input 0 w])) _] =>
          modifyShell fun s => { s with line }
          redirect (substitute fuel) (← resolve (substitute fuel) [.input 0 w])
          say (← readAll 0)
          return 0
        | _ => runPrograms fuel 0 programs
      else runPrograms fuel 0 programs
    let text ← drain n
    reap
    let status ← awaited e
    modifyShell fun s => { s with
      substituted := some status
      status := if s.isExtended then status else s.status }
    return text
termination_by structural fuel

/-- Runs a command. -/
def runCommand (fuel : Nat) (tested exits : Bool) (c : Command) : Run Nat :=
  match fuel with
  | 0 => throw .fault
  | fuel + 1 => do
    let isExtended := (← shell).isExtended
    if (← shell).options.contains 'n' then return (← shell).status
    let (status, checks) ← match c with
      | .simple line assignments words rs =>
        pure (← if isExtended then runWide fuel tested exits line assignments words rs
          else runSimple fuel tested exits line assignments words rs, true)
      | .pipe commands =>
        modifyShell fun s => { s with pipeEnds := [] }
        let n ← runPipe fuel tested commands none 0
        let s ← shell
        let last := (s.pipeEnds.reverse.find? (· ≠ 0)).getD 0
        pure (if isExtended && s.options.contains '\x02' then last else n, true)
      | .condition line test =>
        modifyShell fun s => { s with line }
        let n ← asBuiltin "[[" do
          match ← Judging.holds (substitute fuel) false test with
          | some b => return if b then 0 else 1
          | none => return 2
        pure (n, true)
      | .calculate line text =>
        modifyShell fun s => { s with line }
        let text ← expandSubscript (substitute fuel) text
        trace ["((", text, "))"]
        pure (← asBuiltin "((" do return if (← calculate text) = 0 then 1 else 0, true)
      | .count line start test step body =>
        modifyShell fun s => { s with line }
        let text ← expandSubscript (substitute fuel) start
        trace ["((", text, "))"]
        let n ← asBuiltin "((" do
          let _ ← calculate text
          return 0
        if n = 0 then pure (← runCount fuel tested test step body 0, false) else pure (1, false)
      | .timed short c =>
        let n ← runCommand fuel tested false c
        tell (if short then "real 0.00\nuser 0.00\nsys 0.00\n"
          else "\nreal\t0m0.000s\nuser\t0m0.000s\nsys\t0m0.000s\n")
        pure (n, false)
      | .negated c => pure (if (← runCommand fuel true false c) = 0 then 1 else 0, false)
      | .both a b =>
        let n ← runCommand fuel true false a
        if n = 0 then pure (← runCommand fuel tested exits b, false) else pure (n, false)
      | .either a b =>
        let n ← runCommand fuel true false a
        if n = 0 then pure (n, false) else pure (← runCommand fuel tested exits b, false)
      | .sequence a b =>
        let _ ← runCommand fuel tested false a
        pure (← runCommand fuel tested exits b, false)
      | .background c =>
        let number ← newProcess
        let s := (← shell).forked
        let w ← world
        let nothing ← makeChannel .nothing
        let s := { s with descriptors := s.descriptors.insert 0 nothing }
        modifyWorld fun w => { w with
          jobs := w.jobs ++ [{ number, parent := s.process, command := c, shell := s, start := w.clock }] }
        let live := s.children.filter fun e => w.jobs.any fun j => j.number == e.2
        let place := live.foldl (fun n e => max n (e.1 + 1)) 1
        modifyShell fun s => { s with lastJob := some number, children := s.children ++ [(place, number)] }
        pure (0, true)
      | .subshell line body rs =>
        modifyShell fun s => { s with line }
        let targets ← resolve (substitute fuel) rs
        let run : Run Nat := do
          redirect (substitute fuel) targets
          runCommand fuel tested true body
        if exits && !(← shell).hasTraps then
          modifyShell Shell.forked
          let n ← finish fuel run
          throw (.exit n)
        else
          let e ← fork fuel false run
          reap
          pure (← awaited e, true)
      | .redirected line body rs =>
        modifyShell fun s => { s with line }
        let n ← keepingDescriptors do
          let targets ← resolve (substitute fuel) rs
          if ← redirects (substitute fuel) targets then runCommand fuel tested false body
          else pure (if isExtended then 1 else 2)
        pure (n, false)
      | .branch test yes no =>
        let n ← runCommand fuel true false test
        if n = 0 then pure (← runCommand fuel tested exits yes, false)
        else match no with
          | some no => pure (← runCommand fuel tested exits no, false)
          | none => pure (0, false)
      | .loop _ untilDone test body =>
        pure (← runLoop fuel tested untilDone test body 0, false)
      | .each line name words body =>
        modifyShell fun s => { s with line }
        let fields ← words.flatMapM (expandFields (substitute fuel))
        if isExtended && !isName name.toList then
          warn ("\x60" ++ name ++ "': not a valid identifier")
          pure (1, true)
        else if isExtended && !fields.isEmpty && (((← shell).vars.get? name).map Variable.isReadonly).getD false then
          warn (name ++ ": readonly variable")
          pure (1, true)
        else
          let head := if isExtended then ["for", name, "in"] ++ words.map sourceOf else []
          pure (← runEach fuel tested name head fields body 0, false)
      | .choose line word arms =>
        modifyShell fun s => { s with line }
        if isExtended then trace ["case", sourceOf word, "in"]
        let text ← expandText (substitute fuel) word
        pure (← runArms fuel tested exits text.toList arms 0, false)
      | .define name line body =>
        modifyShell fun s => { s with functions := s.functions.insert name (line, body) }
        pure (0, false)
    setStatus status
    notice fuel
    if isExtended then
      match c with
      | .simple .. | .condition .. | .calculate .. | .subshell .. =>
        modifyShell fun s => { s with pipeEnds := [status] }
      | _ => pure ()
      if checks && !tested && status ≠ 0 then
        let s ← shell
        match if s.calls = 0 || s.options.contains 'E' then s.traps.get? errorTrap else none with
        | some action =>
          modifyShell fun s => { s with traps := s.traps.erase errorTrap }
          let _ ← runText fuel true false action
          modifyShell fun s => { s with traps := s.traps.insert errorTrap action }
          setStatus status
        | none => pure ()
    if checks && !tested && status ≠ 0 && (← shell).options.contains 'e' then throw (.exit status)
    return status
termination_by structural fuel

/-- Runs the body of a loop; whether the loop goes on. -/
def runBody (fuel : Nat) (tested : Bool) (body : Command) : Run (Nat × Bool) :=
  match fuel with
  | 0 => throw .fault
  | fuel + 1 => do
    let loops := (← shell).loops
    modifyShell fun s => { s with loops := loops + 1 }
    let r ← attempt (runCommand fuel tested false body)
    modifyShell fun s => { s with loops }
    match r with
    | .ok n => return (n, true)
    | .error (.leave n) => if n ≤ 1 then return (0, false) else throw (.leave (n - 1))
    | .error (.again n) => if n ≤ 1 then return (0, true) else throw (.again (n - 1))
    | .error e => throw e
termination_by structural fuel

/-- Runs a loop with a condition. -/
def runLoop (fuel : Nat) (tested untilDone : Bool) (test body : Command) (status : Nat) : Run Nat :=
  match fuel with
  | 0 => throw .fault
  | fuel + 1 => do
    let (n, isOn) ← runBody fuel true test
    if !isOn then return n
    if (n = 0) = untilDone then return status
    pass (some roundTime) 16
    let (n, isOn) ← runBody fuel tested body
    if isOn then runLoop fuel tested untilDone test body n else return n
termination_by structural fuel

/-- Runs a loop over words; its head is shown before each round if there is one. -/
def runEach (fuel : Nat) (tested : Bool) (name : String) (head words : List String) (body : Command)
    (status : Nat) : Run Nat :=
  match fuel with
  | 0 => throw .fault
  | fuel + 1 => do
    match words with
    | [] => return status
    | word :: words =>
      if !head.isEmpty then trace head
      assign name word
      let (n, isOn) ← runBody fuel tested body
      if isOn then runEach fuel tested name head words body n else return n
termination_by structural fuel

/-- Runs a loop that counts. -/
def runCount (fuel : Nat) (tested : Bool) (test step : Word) (body : Command) (status : Nat) : Run Nat :=
  match fuel with
  | 0 => throw .fault
  | fuel + 1 => do
    let text ← expandSubscript (substitute fuel) test
    trace ["((", text, "))"]
    let isOn ← asBuiltin "((" do
      if text.toList.all fun c => c == ' ' || c == '\t' || c == '\n' then return 1
      return if (← calculate text) = 0 then 0 else 1
    if isOn = 0 then return status
    pass (some roundTime) 16
    let (n, isOn) ← runBody fuel tested body
    if !isOn then return n
    let text ← expandSubscript (substitute fuel) step
    trace ["((", text, "))"]
    let _ ← asBuiltin "((" do
      let _ ← calculate text
      return 0
    runCount fuel tested test step body n
termination_by structural fuel

/-- Runs the first arm of a choice that has a pattern for a text. -/
def runArms (fuel : Nat) (tested exits : Bool) (text : List Char)
    (arms : List (List Word × Option Command × ArmEnd)) (status : Nat) : Run Nat :=
  match fuel with
  | 0 => throw .fault
  | fuel + 1 => do
    match arms with
    | [] => return status
    | ([], _) :: arms => runArms fuel tested exits text arms status
    | (word :: words, body, after) :: arms =>
      let pattern ← expandPattern (substitute fuel) word
      let s ← shell
      let accepts := Reshaping.acceptor (s.isExtended && s.features.contains "extglob")
        (s.features.contains "nocasematch") pattern
      if accepts text then runArm fuel tested exits text body after arms
      else runArms fuel tested exits text ((words, body, after) :: arms) status
termination_by structural fuel

/-- Runs an arm of a choice, and those after it that its end tells. -/
def runArm (fuel : Nat) (tested exits : Bool) (text : List Char) (body : Option Command) (after : ArmEnd)
    (arms : List (List Word × Option Command × ArmEnd)) : Run Nat :=
  match fuel with
  | 0 => throw .fault
  | fuel + 1 => do
    let n ← match body with
      | some c => runCommand fuel tested (exits && after == .stops) c
      | none => pure 0
    match after, arms with
    | .falls, (_, body, after) :: arms => runArm fuel tested exits text body after arms
    | .tries, arms => runArms fuel tested exits text arms n
    | _, _ => return n
termination_by structural fuel

/-- Runs the commands of a pipe, `input` being the channel that the one before has written to. -/
def runPipe (fuel : Nat) (tested : Bool) (commands : List Command) (input : Option Nat)
    (status : Nat) : Run Nat :=
  match fuel with
  | 0 => throw .fault
  | fuel + 1 => do
    match commands with
    | [] => return status
    | c :: rest =>
      let s ← shell
      if rest.isEmpty && s.isExtended && s.features.contains "lastpipe" then
        let n ← keepingDescriptors do
          match input with
          | some n => setDescriptor 0 n
          | none => pure ()
          runCommand fuel tested false c
        modifyShell fun t => { t with pipeEnds := s.pipeEnds ++ [n] }
        return n
      let output ← makeChannel (.ofText "")
      let e ← fork fuel (!rest.isEmpty) do
        match input with
        | some n => setDescriptor 0 n
        | none => pure ()
        if !rest.isEmpty then setDescriptor 1 output
        runCommand fuel tested true c
      reap
      let n ← awaited e
      modifyShell fun s => { s with pipeEnds := s.pipeEnds ++ [n] }
      runPipe fuel tested rest (some output) n
termination_by structural fuel

/-- Runs a simple command. -/
def runSimple (fuel : Nat) (tested exits : Bool) (line : Nat) (assignments : List Assignment)
    (words : List Word) (rs : List Redirect) : Run Nat :=
  match fuel with
  | 0 => throw .fault
  | fuel + 1 => do
    modifyShell fun s => { s with line, substituted := none }
    let output := substitute fuel
    let fields ← expandArguments fuel [] words
    let written := fields
    let (fields, isPlain) := dropCommand fields.length fields false
    let name := fields.headD ""
    let meaning := (← shell).meaning isPlain name
    let isBuiltin := meaning matches .builtin
    let isSpecial := isBuiltin && !isPlain && isSpecialBuiltin name
    let isExec := isBuiltin && name == "exec"
    let targets ← resolve output rs
    let before ← shell
    let run : Run Nat := do
      if !(← redirects (substitute fuel) targets) then
        if isSpecial then throw .fault else return 2
      let stays := fields.isEmpty || isSpecial
      let mine : Run Nat := do
        let values ← assignments.mapM fun a => do
          let (name, word) := match a with
            | .value name _ _ word => (name, word)
            | .items name _ _ => (name, [])
          let value ← expandValue output word
          if stays && !(isExec && fields.length > 1) then assign name value
          else Builtin.assignExported name value
          return name ++ "=" ++ value
        if before.options.contains 'x' then
          let s ← shell
          modifyShell fun _ => { s with descriptors := before.descriptors }
          tell ((s.value? "PS4").getD "+ " ++ " ".intercalate (values ++ written) ++ "\n")
          modifyShell fun _ => s
        match fields with
        | [] => return (← shell).substituted.getD 0
        | name :: args =>
          match meaning with
          | .function body => callFunction fuel tested body args
          | .builtin => runBuiltin fuel tested isSpecial name args
          | .program => runProgram fuel exits (name :: args)
      let names := assignments.map fun
        | .value name .. | .items name .. => name
      if stays then mine else keepingVariables names mine
    if isExec then run else keepingDescriptors run
termination_by structural fuel

/-- Runs a simple command of the extended language. -/
def runWide (fuel : Nat) (tested exits : Bool) (line : Nat) (assignments : List Assignment)
    (words : List Word) (rs : List Redirect) : Run Nat :=
  match fuel with
  | 0 => throw .fault
  | fuel + 1 => do
    modifyShell fun s => { s with line, substituted := none }
    let before := (← shell).descriptors
    let r ← attempt (runWideFrom fuel tested exits assignments words rs)
    match r with
    | .ok (n, keeps) =>
      if !keeps then modifyShell fun s => { s with descriptors := before }
      return n
    | .error e =>
      modifyShell fun s => { s with descriptors := before }
      throw e
termination_by structural fuel

/-- Runs a simple command of the extended language; whether it keeps its descriptors. -/
def runWideFrom (fuel : Nat) (tested exits : Bool) (assignments : List Assignment) (words : List Word)
    (rs : List Redirect) : Run (Nat × Bool) :=
  match fuel with
  | 0 => throw .fault
  | fuel + 1 => do
    let output := substitute fuel
    let written ← expandGivens fuel [] words
    let (givens, noFunctions, onlyBuiltins) := dropMarks written.length written false false
    let name := (givens.head?.map Given.toText).getD ""
    let meaning := (← shell).wideMeaning noFunctions onlyBuiltins name
    let isExec := (meaning matches .builtin) && name == "exec"
    match ← attempt (resolve output rs) with
    | .error .fault => return (1, false)
    | .error e => throw e
    | .ok targets =>
      if givens.isEmpty then
        for a in assignments do
          let g ← expandSetting fuel a
          trace [g.traced]
          g.put
        if !(← redirects output targets) then return (1, false)
        return ((← shell).substituted.getD 0, false)
      else
        let names := assignments.map fun
          | .value name .. | .items name .. => name
        let run : Run Nat := do
          for a in assignments do
            let g ← expandSetting fuel a
            trace [g.traced]
            match ← attempt g.put with
            | .ok _ => Marking.modifyVariable (g.name?.getD "") fun v => { v with isExported := true }
            | .error .fault => pure ()
            | .error e => throw e
          trace (written.map fun g => match g with
            | .value .. => Reshaping.traced g.toText
            | g => g.traced)
          if name = "export" || name = "readonly" then
            for g in written do
              if g matches .value .. then trace [g.traced]
          let last := (written.getLast?.map Given.toText).getD ""
          if !(← redirects output targets) then return 1
          let n ← match meaning with
            | .function body => callWide fuel tested name body (givens.tail.map Given.toText)
            | .builtin => runWideBuiltin fuel tested name givens.tail
            | .program => runProgram fuel exits (givens.map Given.toText)
          modifyShell fun s => { s with vars := s.vars.insert "_" { value := some last } }
          return n
        return (← if names.isEmpty then run else keepingVariables names run, isExec)
termination_by structural fuel

/-- The arguments of a command of the extended language. -/
def expandGivens (fuel : Nat) (found : List Given) (words : List Word) : Run (List Given) :=
  match fuel with
  | 0 => throw .fault
  | fuel + 1 => do
    match words with
    | [] => return found
    | [.setting a] :: rest => expandGivens fuel (found ++ [← expandSetting fuel a]) rest
    | word :: rest =>
      let fields ← expandFields (substitute fuel) word
      expandGivens fuel (found ++ fields.map Given.text) rest
termination_by structural fuel

/-- What sets a variable, expanded. -/
def expandSetting (fuel : Nat) (a : Assignment) : Run Given :=
  match fuel with
  | 0 => throw .fault
  | fuel + 1 => do
    let output := substitute fuel
    match a with
    | .value name index appends word =>
      let sub ← index.mapM (expandSubscript output)
      return .value name sub appends (← expandValue output word)
    | .items name appends list =>
      let list ← list.mapM fun (index, adds, word) => do
        match index with
        | some index => return (some (← expandSubscript output index), adds, [← expandValue output word])
        | none => return (none, adds, ← expandFields output word)
      return .items name appends list
termination_by structural fuel

/-- Runs a function of the extended language. -/
def callWide (fuel : Nat) (tested : Bool) (name : String) (body : Nat × Command) (args : List String) : Run Nat :=
  match fuel with
  | 0 => throw .fault
  | fuel + 1 => do
    let s ← shell
    if s.calls ≥ 2000 then throw (.killed 11)
    modifyShell fun s => { s with
      positional := args
      loops := 0
      calls := s.calls + 1
      locals := [] :: s.locals
      callers := (name, s.line) :: s.callers
      source := if s.isArgument then some "environment" else s.source }
    let r ← attempt (runCommand fuel tested false body.2)
    modifyShell fun t => { t with
      positional := s.positional
      loops := s.loops
      calls := s.calls
      locals := s.locals
      callers := s.callers
      source := s.source
      vars := (t.locals.headD []).foldl (fun vs e => match e.2 with
        | some v => vs.insert e.1 v
        | none => vs.erase e.1) t.vars }
    match r with
    | .ok n => return n
    | .error (.back n) => return n
    | .error e => throw e
termination_by structural fuel

/-- Runs a builtin command of the extended language. -/
def runWideBuiltin (fuel : Nat) (tested : Bool) (name : String) (args : List Given) : Run Nat :=
  match fuel with
  | 0 => throw .fault
  | fuel + 1 => do
    let before := (← shell).builtin
    modifyShell fun s => { s with builtin := some name }
    let r ← attempt <| match Session.plain? name with
      | some run => run args
      | none => runWideOwn fuel tested name (args.map Given.toText)
    modifyShell fun s => { s with builtin := before }
    match r with
    | .ok n => return n
    | .error .fault =>
      if ["exit", "return", "break", "continue", "shift"].contains name then throw .fault else return 1
    | .error e => throw e
termination_by structural fuel

/-- Runs a builtin command of the extended language that runs commands or leaves one. -/
def runWideOwn (fuel : Nat) (tested : Bool) (name : String) (args : List String) : Run Nat :=
  match fuel with
  | 0 => throw .fault
  | fuel + 1 => do
    let s ← shell
    let status (args : List String) (wrong : Nat) : Run Nat := do
      match args with
      | [] => return s.beforeTrap.getD s.status
      | arg :: more =>
        match decimalOf? arg with
        | none =>
          warn (arg ++ ": numeric argument required")
          return wrong
        | some n =>
          if !more.isEmpty then refuse "too many arguments"
          return (n % 256).toNat
    match name, args with
    | "exit", args => throw (.exit (← status (if args.head? == some "--" then args.tail else args) 2))
    | "return", args =>
      if s.calls = 0 && s.source.isNone then
        warn "can only \x60return' from a function or sourced script"
        return 2
      throw (.back (← status args 2))
    | "break", args | "continue", args =>
      if s.loops = 0 then
        warn "only meaningful in a \x60for', \x60while', or \x60until' loop"
        return 0
      match args with
      | [] => throw (if name = "break" then .leave 1 else .again 1)
      | arg :: more =>
        match decimalOf? arg with
        | none =>
          warn (arg ++ ": numeric argument required")
          throw (.exit 128)
        | some n =>
          if !more.isEmpty then refuse "too many arguments"
          if n ≤ 0 then
            warn (arg ++ ": loop count out of range")
            throw (.leave s.loops)
          let n := min n.toNat s.loops
          throw (if name = "break" then .leave n else .again n)
    | "eval", args =>
      let args := if args.head? == some "--" then args.tail else args
      let text := " ".intercalate args
      if text = "" then return 0
      modifyShell fun s => { s with builtin := none, label := "eval: " }
      let r ← attempt (nested (runText fuel tested false text))
      modifyShell fun t => { t with label := s.label }
      match r with
      | .ok n => return n
      | .error e => throw e
    | ".", args | "source", args =>
      match if args.head? == some "--" then args.tail else args with
      | [] =>
        warn "filename argument required"
        tell (name ++ ": usage: " ++ name ++ " filename [arguments]\n")
        return 2
      | path :: given =>
        let t ← tree
        let isFile (p : String) : Bool := t.nodeOf? ⟨toBytes p⟩ matches some (.file ..)
        let found := if path.toList.contains '/' then path
          else ((s.searchPath.map fun dir => dir ++ "/" ++ path).find? isFile).getD path
        modifyShell fun s => { s with builtin := none }
        match ← openPath .input found with
        | .error fault =>
          warn (path ++ ": " ++ fault.wording)
          return 1
        | .ok channel =>
          if t.nodeOf? ⟨toBytes found⟩ matches some .directory then
            modifyShell fun s => { s with builtin := some name }
            warn (path ++ ": is a directory")
            return 1
          let text ← drain channel
          modifyShell fun s => { s with
            source := some found
            line := 1
            label := ""
            positional := if given.isEmpty then s.positional else given }
          let r ← attempt (nested (runText fuel tested false text))
          modifyShell fun t => { t with
            source := s.source
            line := s.line
            label := s.label
            positional := if given.isEmpty then t.positional else s.positional }
          match r with
          | .ok n => return n
          | .error (.back n) => return n
          | .error e => throw e
    | "exec", args =>
      let rec words : Nat → List String → Option String → List String × Option String
        | n + 1, "-a" :: name :: rest, _ => words n rest (some name)
        | n + 1, "-c" :: rest, called | n + 1, "-l" :: rest, called => words n rest called
        | _, "--" :: rest, called => (rest, called)
        | _, rest, called => (rest, called)
      match words args.length args none with
      | ([], _) => return 0
      | (program :: rest, called) =>
        let isPath := program.toList.contains '/'
        if isPath then modifyShell fun s => { s with builtin := none }
        modifyShell fun s => { s with
          vars := s.arranged.insert "SHLVL" { value := some (s.level true), isExported := true } }
        match called, isPath, ← findProgram program with
        | some called, false, .ok path => throw (.exit (← becomeNamed fuel path (called :: rest)))
        | _, _, _ => throw (.exit (← become fuel (program :: rest)))
    | "command", args =>
      match Marking.takeFlags "pvV".toList {} (args.map Given.text) with
      | .error option => Writing.invalidOption option "command [-pVv] command [arg ...]"
      | .ok (f, rest) =>
        if f.on.contains 'v' then describeEach 'v' false (rest.map Given.toText)
        else if f.on.contains 'V' then describeEach 'V' false (rest.map Given.toText)
        else return 0
    | "builtin", args =>
      match args with
      | [] => return 0
      | name :: _ =>
        warn (name ++ ": not a shell builtin")
        return 1
    | "type", args =>
      match Marking.takeFlags "afptP".toList {} (args.map Given.text) with
      | .error option => Writing.invalidOption option "type [-afptP] name [name ...]"
      | .ok (f, rest) =>
        let form := (f.on.find? fun c => c == 't' || c == 'p' || c == 'P').getD ' '
        describeEach form (f.on.contains 'a') (rest.map Given.toText)
    | "hash", args =>
      match args with
      | [] => Writing.putLines ["hash: hash table empty"]
      | args =>
        let mut status := 0
        for name in args do
          if !name.startsWith "-" && (← findProgram name).toOption.isNone then
            warn (name ++ ": not found")
            status := 1
        return status
    | "wait", args =>
      match args with
      | "-n" :: _ =>
        let known (w : World) : Option Nat := (s.children.map Prod.snd).find? fun n => (w.ended.get? n).isSome
        if (known (← world)).isNone then settle fuel (.next s.process)
        reap
        match known (← world) with
        | some n => waitFor [toString n] 0
        | none => return 127
      | args => waitForAll fuel (args.filter fun a => !(a.startsWith "-"))
    | "test", args | "[", args => Judging.test name args
    | _, _ => return 0
termination_by structural fuel

/-- The fields of the words of a command. What looks like an assignment is not split where the command
assigns. -/
def expandArguments (fuel : Nat) (found : List String) (words : List Word) : Run (List String) :=
  match fuel with
  | 0 => throw .fault
  | fuel + 1 => do
    match words with
    | [] => return found
    | word :: rest =>
      let name := (dropCommand found.length found false).1.headD ""
      let fields ←
        match if Builtin.assigns name then assignment? word else none with
        | some (name, value) => pure [name ++ "=" ++ (← expandValue (substitute fuel) value)]
        | none => expandFields (substitute fuel) word
      expandArguments fuel (found ++ fields) rest
termination_by structural fuel

/-- Runs a function. -/
def callFunction (fuel : Nat) (tested : Bool) (body : Nat × Command) (args : List String) : Run Nat :=
  match fuel with
  | 0 => throw .fault
  | fuel + 1 => do
    let s ← shell
    if s.calls ≥ 1000 then refuse "Maximum function recursion depth (1000) reached"
    modifyShell fun s => { s with
      positional := args, loops := 0, calls := s.calls + 1, locals := [] :: s.locals, optionPlace := 0 }
    let r ← attempt (runCommand fuel tested false body.2)
    modifyShell fun t => { t with
      positional := s.positional, loops := s.loops, calls := s.calls, locals := s.locals
      optionPlace := s.optionPlace
      vars := (t.locals.headD []).foldl (fun vs e => match e.2 with
        | some v => vs.insert e.1 v
        | none => vs.erase e.1) t.vars }
    match r with
    | .ok n => return n
    | .error (.back n) => return n
    | .error e => throw e
termination_by structural fuel

/-- Runs a builtin command. Its misuse ends the script only if it is a special one. -/
def runBuiltin (fuel : Nat) (tested isSpecial : Bool) (name : String) (args : List String) : Run Nat :=
  match fuel with
  | 0 => throw .fault
  | fuel + 1 => do
    let before := (← shell).builtin
    modifyShell fun s => { s with builtin := some name }
    let r ← attempt <| match Builtin.plain? name with
      | some run => run args
      | none => runOwn fuel tested name args
    modifyShell fun s => { s with builtin := before }
    match r with
    | .ok n => return n
    | .error .fault => if isSpecial then throw .fault else return 2
    | .error e => throw e
termination_by structural fuel

/-- Runs a builtin command that runs commands or leaves one. -/
def runOwn (fuel : Nat) (tested : Bool) (name : String) (args : List String) : Run Nat :=
  match fuel with
  | 0 => throw .fault
  | fuel + 1 => do
    let s ← shell
    match name, args with
    | "exit", [] => throw (.exit (s.beforeTrap.getD s.status))
    | "exit", arg :: _ => throw (.exit (← wholeNumber arg))
    | "return", [] => throw (.back (s.beforeTrap.getD s.status))
    | "return", arg :: _ => throw (.back (← wholeNumber arg))
    | "break", args | "continue", args =>
      let n ← match args with
        | [] => pure 1
        | arg :: _ => wholeNumber arg
      if n = 0 then refuse ("Illegal number: " ++ args.headD "0")
      let n := min n s.loops
      if n = 0 then return 0
      throw (if name = "break" then .leave n else .again n)
    | "eval", args =>
      let text := " ".intercalate args
      if text = "" then return 0 else nested (runText fuel tested false text)
    | ".", [] => return 0
    | ".", path :: _ =>
      let t ← tree
      let found ←
        if path.toList.contains '/' then pure path
        else
          let paths := s.searchPath.map fun dir => dir ++ "/" ++ path
          match paths.find? fun p => t.nodeOf? ⟨toBytes p⟩ matches some (.file ..) with
          | some p => pure p
          | none => refuse (path ++ ": not found")
      match t.readBytes ⟨toBytes found⟩ with
      | .error .isDirectory => return 0
      | .error fault => refuse (openFault .input found fault)
      | .ok content =>
        modifyShell fun s => { s with builtin := some found }
        match ← attempt (nested (runText fuel tested false (ofBytes content))) with
        | .ok n => return n
        | .error (.back n) => return n
        | .error e => throw e
    | "exec", args =>
      match args with
      | [] => return 0
      | "--" :: [] => return 0
      | words =>
        let words := if words.head? == some "--" then words.tail else words
        throw (.exit (← become fuel words))
    | "command", args =>
      match args with
      | "-v" :: names => describeAll false (names.take 1) 0
      | "-V" :: names => describeAll true (names.take 1) 0
      | args =>
        let _ ← Builtin.takeFlags ['p', 'v', 'V'] [] args
        return 0
    | "type", names => describeAll true names 0
    | "wait", args => waitForAll fuel args
    | _, _ => return 0
termination_by structural fuel

/-- Waits for some processes, or for all that the shell has started. -/
def waitForAll (fuel : Nat) (targets : List String) : Run Nat :=
  match fuel with
  | 0 => throw .fault
  | fuel + 1 => do
    let s ← shell
    if targets.isEmpty then settle fuel (.children s.process)
    for target in targets do
      let number := if target.startsWith "%" then s.jobOf? target else plainNumber? target
      settle fuel (.process (number.getD 0))
    reap
    waitFor targets 0
termination_by structural fuel

/-- The status of the last of some processes. -/
def waitFor (targets : List String) (status : Nat) : Run Nat :=
  match targets with
  | [] => return status
  | target :: targets => do
    let w ← world
    let s ← shell
    let n ← if target.startsWith "%" then
        match s.jobOf? target with
        | some n => pure n
        | none =>
          if s.isExtended then
            warn (target ++ ": no such job")
            return ← waitFor targets 127
          else refuse ("No such job: " ++ target)
      else if s.isExtended then
        match plainNumber? target with
        | some n => pure n
        | none => refuse ("\x60" ++ target ++ "': not a pid or valid job spec")
      else wholeNumber target
    match w.ended.get? n with
    | some e =>
      modifyWorld fun w => { w with ended := w.ended.erase n }
      waitFor targets (← awaited e)
    | none =>
      if s.isExtended then warn ("pid " ++ target ++ " is not a child of this shell")
      waitFor targets 127

/-- Runs a program in a process of its own, or in the place of this one if that ends with it. -/
def runProgram (fuel : Nat) (exits : Bool) (words : List String) : Run Nat :=
  match fuel with
  | 0 => throw .fault
  | fuel + 1 => do
    let name := words.headD ""
    let found ← if name.toList.contains '/' then pure (Except.ok name) else findProgram name
    match found with
    | .error denied =>
      let s ← shell
      let denied := denied && !(s.isExtended && name = "")
      let shown := if s.isExtended && !name.toList.all Reshaping.isShown then Reshaping.escapeQuoted name else name
      warn (shown ++ ": " ++ (if denied then "Permission denied" else s.lostText))
      return if denied && s.isExtended then 126 else 127
    | .ok path =>
      if (← shell).isExtended then
        modifyShell fun s =>
          let level : Variable := { value := some (s.level (exits && !s.hasTraps)), isExported := true }
          let known := if ((s.vars.get? "SHLVL").map Variable.isExported).getD false
            then s.vars.insert "SHLVL" level else s.vars
          let last : Variable := { value := some path, isExported := true }
          { s with vars := ({ s with vars := known } : Shell).arranged.insert "_" last }
      else
        modifyShell fun s =>
          let sorted := s.vars.entries.mergeSort fun a b => namePlace a.1 ≤ namePlace b.1
          { s with vars := sorted.foldl (fun t e => t.insert e.1 e.2) .empty }
      if exits && !(← shell).hasTraps then throw (.exit (← become fuel words))
      else
        let number ← newProcess
        let before := (← world).clock
        let e ← inProcess number (become fuel words)
        let now := (← world).clock
        if before + longTime < now then settle fuel (.time now)
        reap
        awaited e
termination_by structural fuel

/-- A program takes the place of the process; its status. -/
def become (fuel : Nat) (words : List String) : Run Nat :=
  match fuel with
  | 0 => throw .fault
  | fuel + 1 => do
    let name := words.headD ""
    let found ← if name.toList.contains '/' then pure (Except.ok name) else findProgram name defaultPath
    let t ← tree
    let fault (status : Nat) (message : String) : Run Nat := do
      warn (name ++ ": " ++ message)
      return status
    let s ← shell
    match found with
    | .error denied => fault (if denied then 126 else 127) (if denied then "Permission denied" else s.lostText)
    | .ok path =>
      match t.locate ⟨toBytes path⟩ with
      | .error .notFound | .error .notDirectory =>
        fault 127 (if s.isExtended then ReadFault.notFound.wording else "not found")
      | .error e => fault 127 e.wording
      | .ok here =>
        match t.node? here with
        | some (.file content true) => runFile fuel words path (ofBytes content)
        | some .directory => fault 126 (if s.isExtended then ReadFault.isDirectory.wording else "Permission denied")
        | _ => fault 126 "Permission denied"
termination_by structural fuel

/-- A program of a path takes the place of the process under another name. -/
def becomeNamed (fuel : Nat) (path : String) (words : List String) : Run Nat :=
  match fuel with
  | 0 => throw .fault
  | fuel + 1 => do
    match (← tree).nodeOf? ⟨toBytes path⟩ with
    | some (.file content true) => runFile fuel words path (ofBytes content)
    | _ => return 126
termination_by structural fuel

/-- Runs the content of a file: a program, or a script with an interpreter. -/
def runFile (fuel : Nat) (words : List String) (path content : String) : Run Nat :=
  match fuel with
  | 0 => throw .fault
  | fuel + 1 => do
    let name := words.headD ""
    let dialect := (← shell).dialect
    match Tool.nameOf? content with
    | some tool =>
      modifyShell fun s => s.started name
      guard
      if tool = "bash" then finish fuel (startWide fuel words.tail)
      else if Tool.isShell tool then finish fuel (startShell fuel words.tail)
      else
        let launch (words : List String) : Run Nat := do
          let n ← become fuel words
          settle fuel (.since (← shell).process)
          return n
        Tool.run launch tool name words.tail
    | none =>
      match interpreter? content with
      | some (program :: arg) =>
        match (← tree).nodeOf? ⟨toBytes program⟩ with
        | some (.file content true) =>
          runFile fuel (program :: arg ++ path :: words.tail) program (ofBytes content)
        | some _ =>
          warn (name ++ ": Permission denied")
          return 126
        | none =>
          warn (name ++ (if dialect = .extended then ": cannot execute: required file not found" else ": not found"))
          return 127
      | _ =>
        modifyShell fun s => s.started name
        if dialect = .extended then finish fuel (startWide fuel (path :: words.tail))
        else finish fuel (startShell fuel (path :: words.tail))
termination_by structural fuel

/-- A shell of the extended language that is started with some arguments. -/
def startWide (fuel : Nat) (args : List String) : Run Nat :=
  match fuel with
  | 0 => throw .fault
  | fuel + 1 => do
    modifyShell fun s => { s with
      dialect := .extended
      line := 1
      options := Switches.startOptions
      features := Switches.startFeatures }
    startVariables
    let name := (← shell).name
    match ← startWideOptions (args.length + 1) args false with
    | .error status => throw (.exit status)
    | .ok (true, []) =>
      tell (name ++ ": -c: option requires an argument\n")
      throw (.exit 2)
    | .ok (true, script :: rest) =>
      modifyShell fun s => { s with
        name := rest.headD s.name
        positional := rest.tail
        isArgument := true
        label := "-c: " }
      runText fuel false true script
    | .ok (false, operands) =>
      if (← shell).options.contains 's' || operands.isEmpty then
        Switches.setOption true 's'
        modifyShell fun s => { s with positional := operands }
        runText fuel false false (← readAll 0)
      else
        let path := operands.headD ""
        let t ← tree
        let isFile (p : String) : Bool := t.nodeOf? ⟨toBytes p⟩ matches some (.file ..)
        let paths := (← shell).searchPath.map fun dir => dir ++ "/" ++ path
        let found := if path.toList.contains '/' || isFile path then path else (paths.find? isFile).getD path
        let lent : Option String ← match ← (descriptorOf? found).bindM channelOf with
          | some n => pure (some (← drain n))
          | none => pure none
        match (lent.map fun text => Except.ok (toBytes text)).getD (t.readBytes ⟨toBytes found⟩) with
        | .error .isDirectory =>
          tell (path ++ ": " ++ path ++ ": Is a directory\n")
          throw (.exit 126)
        | .error fault =>
          tell (name ++ ": " ++ path ++ ": " ++ fault.wording ++ "\n")
          throw (.exit 127)
        | .ok content =>
          modifyShell fun s => { s with name := found, positional := operands.tail }
          runText fuel false false (ofBytes content)
termination_by structural fuel

/-- A shell that is started with some arguments. -/
def startShell (fuel : Nat) (args : List String) : Run Nat :=
  match fuel with
  | 0 => throw .fault
  | fuel + 1 => do
    modifyShell fun s => { s with line := 0 }
    assign "IFS" " \t\n"
    assign "PPID" (toString (← shell).parent)
    for (name, value) in [("OPTIND", "1"), ("PS1", "# "), ("PS2", "> "), ("PS4", "+ ")] do
      if ((← shell).vars.get? name).isNone then assign name value
    Builtin.assignExported "PWD" (← shell).place
    if ((← shell).value? "PATH").isNone then assign "PATH" defaultPath
    let (inArgument, operands) ← startOptions (args.length + 1) args false
    let s ← shell
    if inArgument then
      match operands with
      | [] => refuse "-c requires an argument"
      | script :: rest =>
        modifyShell fun s => { s with
          line := 1, name := rest.headD s.name, positional := rest.tail }
        runText fuel false true script
    else if s.options.contains 's' || operands.isEmpty then
      Builtin.setOption true 's'
      modifyShell fun s => { s with line := 1, positional := operands }
      runText fuel false false (← readAll 0)
    else
      let path := operands.headD ""
      match (← tree).readBytes ⟨toBytes path⟩ with
      | .error .isDirectory => return 0
      | .error fault => refuse (openFault .input path fault)
      | .ok content =>
        modifyShell fun s => { s with line := 1, name := path, positional := operands.tail }
        runText fuel false false (ofBytes content)
termination_by structural fuel

end

end ClassLens.Shell
