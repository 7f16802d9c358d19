import ClassLens.Shell.Extended.Variables

/-! # Places, signals and arguments in the extended language

The commands that change the directory, tell what is done at signals, and go through arguments.

* `Session.cd`, `Session.pushd`: the directory, and the row of those to return to.
* `Session.trap`, `Session.kill`: signals.
* `Session.plain?`: these commands by their names. -/

namespace ClassLens.Shell.Session

open Writing (invalidOption putLines put)

/-- Tells how the command at work is used; the status. -/
def misused (usage : String) : Run Nat := do
  tell (((← shell).builtin.getD "") ++ ": usage: " ++ usage ++ "\n")
  return 2

/-- The letters of options before the operands; or the first one that is not known. -/
def options (known : List Char) (args : List String) : Except String (List Char × List String) :=
  (Marking.takeFlags known {} (args.map Given.text)).map fun (f, rest) => (f.on, rest.map Given.toText)

/-! ### Directories -/

/-- Goes to a directory; whether there is one, or what is wrong. -/
def goTo (isPhysical : Bool) (dest : String) : Run (Option String) := do
  let s ← shell
  let t ← tree
  let path := if dest.startsWith "/" then dest else s.place ++ "/" ++ dest
  let path := if isPhysical then path else Builtin.canonical path
  match t.locate ⟨toBytes path⟩ with
  | .error fault => return some fault.wording
  | .ok here =>
    if !t.isDirectoryAt here then return some ReadFault.notDirectory.wording
    let place := if isPhysical then ofBytes (Path.ofPieces true here).bytes else path
    assign "OLDPWD" s.place
    assign "PWD" place
    modifyShell fun s => { s with directory := here, place }
    return none

/-- Changes the directory. -/
def cd (args : List String) : Run Nat := do
  match options "LPe@".toList args with
  | .error option => invalidOption option "cd [-L|[-P [-e]] [-@]] [dir]"
  | .ok (flags, args) =>
    let s ← shell
    let isPhysical := (flags.filter fun c => c == 'P' || c == 'L').getLast? == some 'P' || s.options.contains 'P'
    let dest : Option (String × Bool) ← match args with
      | [] =>
        match s.value? "HOME" with
        | some home => pure (some (home, false))
        | none =>
          warn "HOME not set"
          pure none
      | ["-"] =>
        match s.value? "OLDPWD" with
        | some old => pure (some (old, true))
        | none =>
          warn "OLDPWD not set"
          pure none
      | [dest] => pure (some (dest, false))
      | _ =>
        warn "too many arguments"
        pure none
    match dest with
    | none => return 1
    | some (dest, shows) =>
      if dest = "" then return 0
      let roots := if dest.startsWith "/" || dest.startsWith "." then []
        else (((s.value? "CDPATH").getD "").splitOn ":").filter (· ≠ "")
      for root in roots do
        if (← goTo isPhysical (root ++ "/" ++ dest)).isNone then
          return ← putLines [(← shell).place]
      match ← goTo isPhysical dest with
      | none => if shows then putLines [(← shell).place] else return 0
      | some fault =>
        warn (dest ++ ": " ++ fault)
        return 1

/-- Writes the directory. -/
def pwd (args : List String) : Run Nat := do
  match options "LP".toList args with
  | .error option => invalidOption option "pwd [-LP]"
  | .ok (flags, _) =>
    let s ← shell
    putLines [if flags.getLast? == some 'P' then ofBytes (Path.ofPieces true s.directory).bytes else s.place]

/-- A directory with a tilde in the place of the home directory. -/
def shortened (s : Shell) (place : String) : String :=
  match s.value? "HOME" with
  | some home =>
    if home.length > 1 && place = home then "~"
    else if home.length > 1 && place.startsWith (home ++ "/") then "~" ++ (place.drop home.length).toString
    else place
  | none => place

/-- Shows the directories to return to. -/
def dirs (args : List String) : Run Nat := do
  let s ← shell
  let all := s.place :: s.places
  match args with
  | "-c" :: _ =>
    modifyShell fun s => { s with places := [] }
    return 0
  | "-v" :: _ =>
    putLines (all.zipIdx.map fun (p, i) =>
      let n := toString i
      String.ofList (List.replicate (2 - n.length) ' ') ++ n ++ "  " ++ shortened s p)
  | "-p" :: _ => putLines (all.map (shortened s))
  | "-l" :: _ => putLines [" ".intercalate all]
  | _ => putLines [" ".intercalate (all.map (shortened s))]

/-- Goes to a directory and keeps the one before. -/
def pushd (args : List String) : Run Nat := do
  let s ← shell
  let args := if args.head? == some "--" then args.tail else args
  let (dest, rest) : Option String × List String ← match args, s.places with
    | [], [] =>
      warn "no other directory"
      pure (none, [])
    | [], p :: ps => pure (some p, s.place :: ps)
    | [dest], ps => pure (some dest, s.place :: ps)
    | _, _ =>
      warn "too many arguments"
      pure (none, [])
  match dest with
  | none => return 1
  | some dest =>
    match ← goTo false dest with
    | some fault =>
      warn (dest ++ ": " ++ fault)
      return 1
    | none =>
      modifyShell fun s => { s with places := rest }
      dirs []

/-- Goes back to the directory that was kept last. -/
def popd (_ : List String) : Run Nat := do
  match (← shell).places with
  | [] =>
    warn "directory stack empty"
    return 1
  | p :: ps =>
    match ← goTo false p with
    | some fault =>
      warn (p ++ ": " ++ fault)
      return 1
    | none =>
      modifyShell fun s => { s with places := ps }
      dirs []

/-! ### Signals -/

/-- The numbers for what is done after failures, before commands, and after functions. -/
def ownSignals : List (String × Nat) := [("EXIT", 0), ("ERR", errorTrap), ("DEBUG", 66), ("RETURN", 67)]

/-- The number of a signal by its number or its name, which may be in any letters. -/
def signalOf? (s : String) : Option Nat :=
  let name := s.toUpper
  match ownSignals.find? fun e => e.1 == name, plainNumber? s with
  | some (_, n), _ => some n
  | none, some n => if n ≤ 64 then some n else none
  | none, none =>
    let name := if name.startsWith "SIG" then (name.drop 3).toString else name
    Shell.signalOf? false name

/-- The name of a signal. -/
def nameOf (n : Nat) : String :=
  match ownSignals.find? fun e => e.2 == n with
  | some (name, _) => name
  | none => "SIG" ++ signalName n

/-- The signals with their names, five in a line. -/
def signalTable : List String :=
  let known := (List.range 64).map (· + 1) |>.filter fun n => n != 32 && n != 33
  let cell (n : Nat) : String := (if n < 10 then " " else "") ++ toString n ++ ") SIG" ++ signalName n
  let rec rows : Nat → List Nat → List String
    | 0, _ => []
    | _ + 1, [] => []
    | fuel + 1, ns => "\t".intercalate ((ns.take 5).map cell) :: rows fuel (ns.drop 5)
  rows known.length known

/-- How `trap` is used. -/
def trapUsage : String := "trap [-lp] [[arg] signal_spec ...]"

/-- Sets what is done at signals, or shows it. -/
def trap (args : List String) : Run Nat := do
  match options "lp".toList args with
  | .error option => if args.head? == some "-" then change args else invalidOption option trapUsage
  | .ok (flags, rest) =>
    if flags.contains 'l' then putLines signalTable
    else if flags.contains 'p' || rest.isEmpty then
      let traps := (← shell).traps
      let wanted : List Nat := if rest.isEmpty then List.range 68 else rest.filterMap signalOf?
      let _ ← putLines (wanted.filterMap fun n =>
        (traps.get? n).map fun action => "trap -- " ++ Reshaping.singleQuoted action ++ " " ++ nameOf n)
      return 0
    else change rest
where
  /-- Sets what is done at some signals. -/
  change (args : List String) : Run Nat := do
    match args with
    | [] => misused trapUsage
    | [word] =>
      match signalOf? word with
      | some n =>
        modifyShell fun s => { s with traps := s.traps.erase n }
        guard
        return 0
      | none => misused trapUsage
    | action :: words =>
      let (action, words) := if (plainNumber? action).isSome then ("-", args) else (action, words)
      let mut status := 0
      for word in words do
        match signalOf? word with
        | some n =>
          modifyShell fun s => { s with
            traps := if action = "-" then s.traps.erase n else s.traps.insert n action }
        | none =>
          warn (word ++ ": invalid signal specification")
          status := 1
      guard
      return status

/-- How `kill` is used. -/
def killUsage : String := "kill [-s sigspec | -n signum | -sigspec] pid | jobspec ... or kill -l [sigspec]"

/-- Sends a signal to processes. -/
def send (signal : Nat) (targets : List String) : Run Nat := do
  if targets.isEmpty then return ← misused killUsage
  let mut status := 1
  for target in targets do
    let digits := if target.startsWith "-" then (target.drop 1).toString else target
    let number : Option Nat ← if target.startsWith "%" then pure (← shell).lastJob
      else pure (plainNumber? digits)
    match number with
    | none => warn (target ++ ": arguments must be process or job IDs")
    | some n =>
      if ← signalTo n signal then status := 0
      else warn ("(" ++ target ++ ") - No such process")
  return status

/-- Sends signals, or shows their names. -/
def kill (args : List String) : Run Nat := do
  let named (name : String) (targets : List String) : Run Nat := do
    match signalOf? name with
    | some n => send n targets
    | none =>
      warn (name ++ ": invalid signal specification")
      return 1
  match args with
  | [] => misused killUsage
  | "-l" :: [] | "-L" :: [] => putLines signalTable
  | "-l" :: words =>
    let mut status := 0
    for word in words do
      match plainNumber? word with
      | some n => let _ ← putLines [signalName (if n > 128 then n - 128 else n)]
      | none =>
        match signalOf? word with
        | some n => let _ ← putLines [toString n]
        | none =>
          warn (word ++ ": invalid signal specification")
          status := 1
    return status
  | "-s" :: name :: targets | "-n" :: name :: targets => named name targets
  | "--" :: targets => send 15 targets
  | word :: targets =>
    match word.toList with
    | '-' :: _ :: _ => named (word.drop 1).toString targets
    | _ => send 15 args

/-! ### Arguments -/

/-- Drops positional parameters. -/
def shift (args : List String) : Run Nat := do
  let s ← shell
  match args with
  | _ :: _ :: _ =>
    warn "too many arguments"
    throw .fault
  | [] =>
    modifyShell fun s => { s with positional := s.positional.tail, optionPlace := 0 }
    return if s.positional.isEmpty then 1 else 0
  | [arg] =>
    match decimalOf? arg with
    | none =>
      warn (arg ++ ": numeric argument required")
      return 1
    | some n =>
      if n < 0 then
        warn (arg ++ ": shift count out of range")
        return 1
      if n > s.positional.length then return 1
      modifyShell fun s => { s with positional := s.positional.drop n.toNat, optionPlace := 0 }
      return 0

/-- Where `getopts` stands after a letter: the index of the next word, and the place in the word at work. -/
def getopts (args : List String) : Run Nat := do
  match args with
  | known :: name :: given =>
    let s ← shell
    let words := if given.isEmpty then s.positional else given
    let index := max 1 (((s.value? "OPTIND").bind plainNumber?).getD 1)
    let silent := known.startsWith ":" || s.value? "OPTERR" == some "0"
    let place := max 1 s.optionPlace
    let word := (words[index - 1]?).getD ""
    let finish (index place : Nat) (found : String) (status : Nat) : Run Nat := do
      Builtin.assignQuietly "OPTIND" (toString index)
      modifyShell fun s => { s with optionPlace := place }
      if !isName name.toList then return ← Marking.notName name
      Builtin.assignQuietly name found
      return status
    let isOption := word.startsWith "-" && word.length > 1
    if !isOption || word = "--" then
      unassign "OPTARG"
      return ← finish (if word = "--" then index + 1 else index) 0 "?" 1
    let c := (word.toList[place]?).getD '-'
    let rest := word.toList.drop (place + 1)
    let (next, nextPlace) := if rest.isEmpty then (index + 1, 0) else (index, place + 1)
    let after := (known.toList.dropWhile (· == ':')).dropWhile (· != c)
    match if c == ':' then [] else after with
    | [] =>
      if silent then Builtin.assignQuietly "OPTARG" (String.singleton c)
      else
        tell (s.name ++ ": illegal option -- " ++ String.singleton c ++ "\n")
        unassign "OPTARG"
      finish next nextPlace "?" 0
    | _ :: ':' :: _ =>
      if !rest.isEmpty then
        Builtin.assignQuietly "OPTARG" (String.ofList rest)
        finish (index + 1) 0 (String.singleton c) 0
      else
        match words[index]? with
        | some value =>
          Builtin.assignQuietly "OPTARG" value
          finish (index + 2) 0 (String.singleton c) 0
        | none =>
          if known.startsWith ":" then
            Builtin.assignQuietly "OPTARG" (String.singleton c)
            finish (index + 1) 0 ":" 0
          else
            if !silent then tell (s.name ++ ": option requires an argument -- " ++ String.singleton c ++ "\n")
            unassign "OPTARG"
            finish (index + 1) 0 "?" 0
    | _ =>
      unassign "OPTARG"
      finish next nextPlace (String.singleton c) 0
  | _ => misused "getopts optstring name [arg ...]"

/-- Works out expressions; the status tells whether the last one is not zero. -/
def letAll (args : List String) : Run Nat := do
  match args with
  | [] =>
    warn "expression expected"
    return 1
  | args =>
    let mut last : Int := 0
    for arg in args do last ← calculate arg
    return if last = 0 then 1 else 0

/-! ### The rest -/

/-- Shows or sets the bits that new files do not get. -/
def umask (args : List String) : Run Nat := do
  match options "pS".toList args with
  | .error option => invalidOption option "umask [-p] [-S] [mode]"
  | .ok (flags, rest) =>
    let mask := (← shell).mask
    match rest with
    | [] =>
      if flags.contains 'S' then
        putLines ["u=" ++ Builtin.permissions (mask / 64 % 8) ++ ",g=" ++ Builtin.permissions (mask / 8 % 8) ++
          ",o=" ++ Builtin.permissions (mask % 8)]
      else
        let ds := String.ofList (Nat.toDigits 8 mask)
        let text := String.ofList (List.replicate (4 - ds.length) '0') ++ ds
        putLines [if flags.contains 'p' then "umask " ++ text else text]
    | arg :: _ =>
      if arg.toList.head?.any Char.isDigit then
        if !arg.toList.all isOctal || digitValue 8 arg.toList > 511 then
          warn (arg ++ ": octal number out of range")
          return 1
        modifyShell fun s => { s with mask := digitValue 8 arg.toList }
        return 0
      else
        match Permissions.change (511 - mask) arg with
        | some bits =>
          modifyShell fun s => { s with mask := 511 - bits }
          return 0
        | none =>
          let bad := (arg.toList.find? fun c => !"ugoa".toList.contains c).getD ' '
          warn ("\x60" ++ String.singleton bad ++ "': invalid symbolic mode operator")
          return 1

/-- Shows names that stand for commands, or keeps new ones, which scripts take no notice of. -/
def aliases (args : List String) : Run Nat := do
  let s ← shell
  let shown (e : String × String) : String := "alias " ++ e.1 ++ "=" ++ Reshaping.singleQuoted e.2
  match args with
  | [] => putLines ((s.aliases.mergeSort fun a b => a.1 ≤ b.1).map shown)
  | args =>
    let mut status := 0
    for arg in args do
      match Builtin.splitAssignment arg with
      | (name, some value) =>
        modifyShell fun s => { s with aliases := s.aliases.filter (fun e => e.1 != name) ++ [(name, value)] }
      | (name, none) =>
        match (← shell).aliases.find? fun e => e.1 == name with
        | some e => let _ ← putLines [shown e]
        | none =>
          warn (name ++ ": not found")
          status := 1
    return status

/-- Takes names away that stand for commands. -/
def unalias (args : List String) : Run Nat := do
  if args.head? == some "-a" then
    modifyShell fun s => { s with aliases := [] }
    return 0
  let mut status := 0
  for name in args do
    if (← shell).aliases.any fun e => e.1 == name then
      modifyShell fun s => { s with aliases := s.aliases.filter fun e => e.1 != name }
    else
      warn (name ++ ": not found")
      status := 1
  return status

/-- Shows from where a function was called. -/
def caller (args : List String) : Run Nat := do
  let s ← shell
  let n := ((args.head?).bind plainNumber?).getD 0
  match s.callers[n]? with
  | none => return 1
  | some (_, line) =>
    let name := match s.callers[n + 1]? with
      | some (name, _) => name
      | none => "main"
    let file := if s.isArgument then "environment" else s.name
    putLines [toString line ++ (if args.isEmpty then (if s.isArgument then " NULL" else " " ++ file)
      else " " ++ name ++ " " ++ file)]

/-- A command that needs a shell that controls jobs. -/
def noJobs (_ : List String) : Run Nat := do
  warn "no job control"
  return 1

/-- The commands of the extended language that need only the state of the shell. -/
def plain? (name : String) : Option (List Given → Run Nat) :=
  let texts (run : List String → Run Nat) : Option (List Given → Run Nat) := some fun args => run (args.map Given.toText)
  match name with
  | ":" | "true" => texts fun _ => return 0
  | "false" => texts fun _ => return 1
  | "echo" => texts Writing.echo
  | "printf" => texts Writing.printf
  | "read" => texts Reading.read
  | "mapfile" | "readarray" => texts Reading.mapfile
  | "cd" => texts cd
  | "pwd" => texts pwd
  | "dirs" => texts dirs
  | "pushd" => texts pushd
  | "popd" => texts popd
  | "declare" | "typeset" | "local" => some (Marking.declare name)
  | "export" | "readonly" => some (Marking.exportOrKeep name)
  | "unset" => texts Marking.unset
  | "set" => texts Switches.set
  | "shopt" => texts Switches.shopt
  | "shift" => texts shift
  | "getopts" => texts getopts
  | "let" => texts letAll
  | "trap" => texts trap
  | "kill" => texts kill
  | "umask" => texts umask
  | "ulimit" => texts Builtin.ulimit
  | "alias" => texts aliases
  | "unalias" => texts unalias
  | "caller" => texts caller
  | "times" => texts fun _ => putLines ["0m0.000s 0m0.000s", "0m0.000s 0m0.000s"]
  | "bg" | "fg" => texts noJobs
  | "logout" => texts fun _ => do
    warn "not login shell: use \x60exit'"
    return 1
  | "suspend" => texts fun _ => do
    warn "cannot suspend: no job control"
    return 1
  | "jobs" | "disown" | "enable" | "bind" | "complete" | "compopt" | "history" | "fc" | "help" =>
    texts fun _ => return 0
  | "compgen" => texts fun _ => return 1
  | _ => none

/-- The names of all builtin commands of the extended language. -/
def names : List String :=
  [".", ":", "[", "alias", "bg", "bind", "break", "builtin", "caller", "cd", "command", "compgen", "complete",
    "compopt", "continue", "declare", "dirs", "disown", "echo", "enable", "eval", "exec", "exit", "export",
    "false", "fc", "fg", "getopts", "hash", "help", "history", "jobs", "kill", "let", "local", "logout",
    "mapfile", "popd", "printf", "pushd", "pwd", "read", "readarray", "readonly", "return", "set", "shift",
    "shopt", "source", "suspend", "test", "times", "trap", "true", "type", "typeset", "ulimit", "umask",
    "unalias", "unset", "wait"]

end ClassLens.Shell.Session
