import ClassLens.Shell.Permissions
import ClassLens.Shell.Format
import ClassLens.Shell.Reader
import ClassLens.Shell.Test

/-! # The commands of the shell itself

The builtin commands that need nothing but the state of the shell: those that write, read, and change
variables, options, directories and signals. A command is a function from its arguments to its status.

* `Builtin.plain?`: such a command by its name.
* `Builtin.names`, `specialBuiltins`: the names of all builtin commands, and of those that end a script
  when they are misused. -/

namespace ClassLens.Shell

/-- The names of signals as the shell knows them, from the first one on. -/
def shellSignals : List String :=
  (signalNames.take 15 ++ "16" :: signalNames.drop 16) ++ ["32", "33", "RTMIN"] ++
    (List.range 15).map (fun n => "RTMIN+" ++ toString (n + 1)) ++
    (List.range 14).map (fun n => "RTMAX-" ++ toString (14 - n)) ++ ["RTMAX"]

/-- The name of a signal; zero is the end of a script. -/
def signalName (n : Nat) : String :=
  if n = 0 then "EXIT" else (shellSignals[n - 1]?).getD (toString n)

/-- The number of a signal by its number or its name, which may be in lower case. -/
def signalOf? (withEnd : Bool) (s : String) : Option Nat :=
  match plainNumber? s with
  | some n => if n ≤ 64 then some n else none
  | none =>
    if withEnd && s.toUpper == "EXIT" then some 0
    else (shellSignals.findIdx? (· == s.toUpper)).map (· + 1)

/-- A text between single quotes that the shell reads back. -/
def quoteText (s : String) : String :=
  let pieces := s.splitOn "'"
  "'" ++ "'\"'\"'".intercalate pieces ++ "'"

/-- A number that is not negative. -/
def wholeNumber (s : String) : Run Nat := do
  let isBlank (c : Char) : Bool := c == ' ' || (9 ≤ c.toNat && c.toNat ≤ 13)
  let body := ((s.toList.dropWhile isBlank).reverse.dropWhile isBlank).reverse
  let (negative, ds) := match body with
    | '-' :: ds => (true, ds)
    | '+' :: ds => (false, ds)
    | ds => (false, ds)
  match plainNumber? (String.ofList ds) with
  | some n =>
    if n > 2147483647 ∨ (negative ∧ n > 0) then refuse ("Illegal number: " ++ s) else return n
  | none => refuse ("Illegal number: " ++ s)

/-- Lines in order. -/
def sortedLines (lines : List String) : List String :=
  lines.mergeSort fun a b => a ≤ b

namespace Builtin

/-- The flags before the operands, and the operands. -/
def takeFlags (known : List Char) (found : List Char) : List String → Run (List Char × List String)
  | [] => return (found, [])
  | arg :: args =>
    match arg.toList with
    | ['-', '-'] => return (found, args)
    | '-' :: c :: cs =>
      match (c :: cs).find? fun c => !known.contains c with
      | some bad => refuse ("Illegal option -" ++ String.singleton bad)
      | none => takeFlags known (found ++ c :: cs) args
    | _ => return (found, arg :: args)

/-- Writes what a command says; its status. -/
def put (text : String) : Run Nat := do
  if text = "" then return 0
  if ← writeTo 1 text then return 0
  warn (((← shell).builtin.getD "") ++ ": I/O error")
  return 1

/-- Writes lines; the status. -/
def putLines (lines : List String) : Run Nat :=
  put (String.join (lines.map (· ++ "\n")))

/-! ### Writing -/

/-- Writes its arguments. -/
def echo (args : List String) : Run Nat := do
  let (words, last) := match args with
    | "-n" :: words => (words, "")
    | words => (words, "\n")
  let text := " ".intercalate words
  let (cs, ended) := unescape .builtin (text.length + 1) text.toList
  put (String.ofList cs ++ (if ended matches .whole then last else ""))

/-- Writes its arguments by a format. -/
def printf (args : List String) : Run Nat := do
  let (_, args) ← takeFlags [] [] args
  match args with
  | [] => refuse "usage: printf format [arg ...]"
  | format :: args =>
    let done := printFormat .builtin format args
    for (_, message) in done.messages do warn message
    let written ← put done.output
    return if done.isBroken then 2 else if done.isFaulty then 1 else written

/-! ### Directories -/

/-- A path without its `.` and `..` pieces, from the root, above which there is nothing. -/
def canonical (path : String) : String :=
  let pieces := (path.splitOn "/").foldl (fun (found : List String) piece =>
    if piece = "" || piece = "." then found
    else if piece = ".." then found.dropLast
    else found ++ [piece]) []
  "/" ++ "/".intercalate pieces

/-- Gives a variable a value that programs get too. -/
def assignExported (name value : String) : Run Unit := do
  assign name value
  modifyShell fun s =>
    let v := (s.vars.get? name).getD {}
    { s with vars := s.vars.insert name { v with isExported := true } }

/-- Changes the directory. -/
def cd (args : List String) : Run Nat := do
  let (flags, args) ← takeFlags ['L', 'P'] [] args
  let s ← shell
  let dest := match args with
    | [] => (s.value? "HOME").getD ""
    | "-" :: _ => (s.value? "OLDPWD").getD s.place
    | dest :: _ => dest
  let shows := args.head? == some "-"
  let dest := if dest = "" then "." else dest
  let isPhysical := flags.getLast? == some 'P'
  let t ← tree
  let goes (shows : Bool) (dest : String) : Run Bool := do
    let path := if dest.startsWith "/" then dest else s.place ++ "/" ++ dest
    let path := if isPhysical then path else canonical path
    match t.locate ⟨toBytes path⟩ with
    | .error _ => return false
    | .ok here =>
      if !t.isDirectoryAt here then return false
      let place := if isPhysical then ofBytes (Path.ofPieces true here).bytes else path
      assignExported "OLDPWD" s.place
      assignExported "PWD" place
      modifyShell fun s => { s with directory := here, place }
      if shows then say (place ++ "\n")
      return true
  let roots := if dest.startsWith "/" || dest.startsWith "." then []
    else (((s.value? "CDPATH").getD "").splitOn ":").filter (· ≠ "")
  for root in roots do
    if ← goes true (root ++ "/" ++ dest) then return 0
  if ← goes shows dest then return 0
  refuse ("can't cd to " ++ dest)

/-- Writes the directory. -/
def pwd (args : List String) : Run Nat := do
  let (flags, _) ← takeFlags ['L', 'P'] [] args
  let s ← shell
  put ((if flags.getLast? == some 'P' then ofBytes (Path.ofPieces true s.directory).bytes
    else s.place) ++ "\n")

/-! ### Reading -/

/-- How the reading of a line ends. -/
inductive LineEnd where
  | finished
  /-- The line goes on in the next one. -/
  | joined
  | outOfInput

/-- The characters of a line before those found, the last one first. Backslashes quote the characters
after them. -/
def scanLine (raw : Bool) : List Char → List Marked → List Marked × LineEnd
  | [], found => (found, .outOfInput)
  | '\n' :: _, found => (found, .finished)
  | '\x00' :: cs, found => scanLine raw cs found
  | '\\' :: cs, found =>
    if raw then scanLine raw cs (('\\', true) :: found)
    else
      match cs with
      | [] => (found, .outOfInput)
      | '\n' :: _ => (found, .joined)
      | c :: cs => scanLine raw cs ((c, true) :: found)
  | c :: cs, found => scanLine raw cs ((c, false) :: found)

/-- The characters of a line, and whether a line break ended it. A backslash at its end joins it with the
next one. -/
def lineChars (raw : Bool) : Nat → List Marked → Run (List Marked × Bool)
  | 0, found => return (found.reverse, false)
  | fuel + 1, found => do
    let line ← readLineOf 0
    match scanLine raw line.toList found with
    | (found, .finished) => return (found.reverse, true)
    | (found, .joined) => lineChars raw fuel found
    | (found, .outOfInput) => return (found.reverse, false)

/-- Whether a character is a separator that also counts as blank. -/
def isBlankIn (seps : List Char) (m : Marked) : Bool :=
  !m.2 && seps.contains m.1 && (m.1 == ' ' || m.1 == '\t' || m.1 == '\n')

/-- Whether a character is a separator. -/
def isSeparatorIn (seps : List Char) (m : Marked) : Bool :=
  !m.2 && seps.contains m.1

/-- A field and the characters after the separator that ends it. -/
def cutField (seps : List Char) (s : List Marked) : List Marked × List Marked :=
  let field := s.takeWhile fun m => !isSeparatorIn seps m
  let rest := (s.drop field.length).dropWhile (isBlankIn seps)
  let rest := match rest with
    | m :: more => if isSeparatorIn seps m && (s.drop field.length).length > 0 then
        (if isBlankIn seps m then rest else more.dropWhile (isBlankIn seps)) else rest
    | [] => []
  (field, rest)

/-- The fields for so many variables: the last one takes all that is left, without blanks at its end,
and without its separator if it is but one field. -/
def fieldsFor (seps : List Char) : Nat → List Marked → List (List Marked)
  | 0, _ => []
  | 1, s =>
    let (field, rest) := cutField seps s
    if rest.isEmpty then [field]
    else [(s.reverse.dropWhile (isBlankIn seps)).reverse]
  | n + 1, s =>
    let (field, rest) := cutField seps s
    field :: fieldsFor seps n rest

/-- Reads a line into variables. -/
def read (args : List String) : Run Nat := do
  let raw := args.any (· == "-r")
  let (names, _) ← flags args false
  if names.isEmpty then refuse "arg count"
  for name in names do
    if !isName name.toList then refuse (name ++ ": bad variable name")
  let (cs, ended) ← lineChars raw 1000000 []
  let seps := (← shell).separators
  let fields := fieldsFor seps names.length (cs.dropWhile (isBlankIn seps))
  for (name, field) in names.zip fields do
    assign name (String.ofList (field.map Prod.fst))
  return if ended then 0 else 1
where
  /-- The names after the flags; a prompt is not shown. -/
  flags : List String → Bool → Run (List String × Bool)
    | "-p" :: _ :: args, b => flags args b
    | "--" :: args, b => return (args, b)
    | arg :: args, b => do
      match arg.toList with
      | '-' :: c :: _ =>
        if c == 'r' then flags args true
        else refuse ("Illegal option -" ++ String.singleton c)
      | _ => return (arg :: args, b)
    | [], b => return ([], b)

/-! ### Variables -/

/-- The name and the value of an argument that assigns. -/
def splitAssignment (s : String) : String × Option String :=
  let name := s.toList.takeWhile (· != '=')
  match s.toList.drop name.length with
  | _ :: value => (String.ofList name, some (String.ofList value))
  | [] => (s, none)

/-- Marks variables as exported, or as ones that must not change. -/
def mark (command : String) (args : List String) : Run Nat := do
  let (flags, args) ← takeFlags ['p'] [] args
  let readonly := command == "readonly"
  if flags ≠ [] || args.isEmpty then
    let shown := (← shell).vars.entries.filterMap fun (name, v) =>
      if (if readonly then v.isReadonly else v.isExported) then
        some (command ++ " " ++ name ++ (match v.value with
          | some value => "=" ++ quoteText value
          | none => ""))
      else none
    putLines (sortedLines shown)
  else
    for arg in args do
      let (name, value) := splitAssignment arg
      if !isName name.toList then refuse (name ++ ": bad variable name")
      match value with
      | some value => assign name value
      | none => pure ()
      modifyShell fun s =>
        let v := (s.vars.get? name).getD {}
        let marked : Variable :=
          if readonly then { v with isReadonly := true } else { v with isExported := true }
        { s with vars := s.vars.insert name marked }
    return 0

/-- Makes variables local to a function. -/
def makeLocal (args : List String) : Run Nat := do
  let s ← shell
  if s.calls = 0 then refuse "not in a function"
  for arg in args do
    let (name, value) := splitAssignment arg
    if arg ≠ "-" then
      if !isName name.toList then refuse (name ++ ": bad variable name")
      let s ← shell
      let old := s.vars.get? name
      let kept := match s.locals with
        | frame :: frames =>
          (if frame.any fun e => e.1 == name then frame else (name, old) :: frame) :: frames
        | [] => []
      modifyShell fun s => { s with locals := kept }
      match value with
      | some value => assign name value
      | none => pure ()
  return 0

/-- Takes variables or functions away. -/
def unset (args : List String) : Run Nat := do
  let (flags, args) ← takeFlags ['f', 'v'] [] args
  for name in args do
    if flags.getLast? == some 'f' then
      modifyShell fun s => { s with functions := s.functions.erase name }
    else
      if !isName name.toList then refuse (name ++ ": bad variable name")
      unassign name
  return 0

/-- The letters and the names of the options. -/
def optionNames : List (Char × String) :=
  [('e', "errexit"), ('f', "noglob"), ('I', "ignoreeof"), ('i', "interactive"), ('m', "monitor"),
    ('n', "noexec"), ('s', "stdin"), ('x', "xtrace"), ('v', "verbose"), ('V', "vi"), ('E', "emacs"),
    ('C', "noclobber"), ('a', "allexport"), ('b', "notify"), ('u', "nounset"), ('\x00', "nolog"),
    ('\x01', "debug")]

/-- Turns options on or off; they are kept in the order in which they are shown. -/
def setOption (on : Bool) (letter : Char) : Run Unit := modifyShell fun s =>
  let had := s.options.filter (· != letter)
  let has := if on then letter :: had else had
  { s with options := (optionNames.map Prod.fst).reverse.filter has.contains }

/-- The options at the start of some arguments; gives the operands, if there are any or a sign stands
for them. -/
def takeOptions : List String → Run (Option (List String))
  | [] => return none
  | arg :: args => do
    match arg.toList with
    | ['-'] =>
      setOption false 'x'
      setOption false 'v'
      return if args.isEmpty then none else some args
    | ['-', '-'] => return some args
    | ['-', 'o'] | ['+', 'o'] =>
      let on := arg == "-o"
      match args with
      | [] =>
        let s ← shell
        let isOn (e : Char × String) : Bool := s.options.contains e.1
        if on then
          say "Current option settings\n"
          for e in optionNames do
            say (e.2 ++ String.ofList (List.replicate (16 - e.2.length) ' ') ++
              (if isOn e then "on" else "off") ++ "\n")
        else
          for e in optionNames do
            say ("set " ++ (if isOn e then "-o " else "+o ") ++ e.2 ++ "\n")
        return none
      | name :: args =>
        match optionNames.find? fun e => e.2 == name with
        | some (letter, _) =>
          setOption on letter
          takeOptions args
        | none => refuse ("Illegal option -o " ++ name)
    | sign :: cs =>
      if (sign == '-' || sign == '+') && !cs.isEmpty then
        for c in cs do
          if !optionNames.any fun e => e.1 == c then
            refuse ("Illegal option -" ++ String.singleton c)
          setOption (sign == '-') c
        takeOptions args
      else return some (arg :: args)
    | [] => return some (arg :: args)

/-- Sets options and positional parameters, or shows all variables. -/
def set (args : List String) : Run Nat := do
  if args.isEmpty then
    putLines (sortedLines ((← shell).vars.entries.filterMap fun (name, v) =>
      v.value.map fun value => name ++ "=" ++ quoteText value))
  else
    match ← takeOptions args with
    | some operands => modifyShell fun s => { s with positional := operands, optionPlace := 0 }
    | none => pure ()
    return 0

/-- Drops positional parameters. -/
def shift (args : List String) : Run Nat := do
  let n ← match args with
    | [] => pure 1
    | arg :: _ => wholeNumber arg
  let s ← shell
  if s.positional.length < n then refuse "can't shift that many"
  modifyShell fun s => { s with positional := s.positional.drop n, optionPlace := 0 }
  return 0

/-- Sets a variable without a look at the place of `getopts`. -/
def assignQuietly (name value : String) : Run Unit := do
  let place := (← shell).optionPlace
  assign name value
  modifyShell fun s => { s with optionPlace := place }

/-- Takes the next option from arguments. -/
def getopts (args : List String) : Run Nat := do
  match args with
  | known :: name :: given =>
    let s ← shell
    let words := if given.isEmpty then s.positional else given
    let index := ((s.value? "OPTIND").bind plainNumber?).getD 1
    let index := if index = 0 ∨ index > words.length + 1 then 1 else index
    let current := (words[index - 2]?).getD ""
    let inside := if index ≤ 1 ∨ s.optionPlace = 0 then [] else current.toList.drop s.optionPlace
    let silent := known.startsWith ":"
    let finish (index place : Nat) (found : String) (status : Nat) : Run Nat := do
      assignQuietly "OPTIND" (toString index)
      assignQuietly name found
      modifyShell fun s => { s with optionPlace := place }
      return status
    let start : Option (List Char × Nat) :=
      if inside.isEmpty then
        match words[index - 1]?.map String.toList with
        | some ('-' :: c :: cs) => some (c :: cs, index + 1)
        | _ => none
      else some (inside, index)
    match start with
    | none => finish index 0 "?" 1
    | some (['-'], index) =>
      if inside.isEmpty then finish index 0 "?" 1 else finish index 0 "?" 0
    | some ([], _) => finish index 0 "?" 1
    | some (c :: rest, index) =>
      let place := if rest.isEmpty then 0 else ((words[index - 2]?).getD "").length - rest.length
      let after := (known.toList.dropWhile (· == ':')).dropWhile (· != c)
      match after with
      | [] =>
        if silent then assignQuietly "OPTARG" (String.singleton c)
        else
          tell ("Illegal option -" ++ String.singleton c ++ "\n")
          unassign "OPTARG"
        finish index place "?" 0
      | _ :: ':' :: _ =>
        if rest.isEmpty then
          match words[index - 1]? with
          | some value =>
            assignQuietly "OPTARG" value
            finish (index + 1) 0 (String.singleton c) 0
          | none =>
            if silent then
              assignQuietly "OPTARG" (String.singleton c)
              finish index 0 ":" 0
            else
              tell ("No arg for -" ++ String.singleton c ++ " option\n")
              unassign "OPTARG"
              finish index 0 "?" 0
        else
          assignQuietly "OPTARG" (String.ofList rest)
          finish index 0 (String.singleton c) 0
      | _ =>
        assignQuietly "OPTARG" ""
        finish index place (String.singleton c) 0
  | _ => refuse "Usage: getopts optstring var [arg...]"

/-! ### Signals -/

/-- How `kill` is used. -/
def killUsage : String :=
  "Usage: kill [-s sigspec | -signum | -sigspec] [pid | job]... or\nkill -l [exitstatus]"

/-- Shows the names of signals. -/
def listSignals : List String → Run Nat
  | [] => putLines ("0" :: shellSignals)
  | arg :: _ => do
    let n ← wholeNumber arg
    let n := if n > 128 then n - 128 else n
    if 0 < n && n ≤ 64 then putLines [signalName n]
    else refuse ("invalid signal number or exit status: " ++ arg)

/-- Sends a signal to processes. -/
def sendSignal (signal : Nat) : List String → Nat → Run Nat
  | [], status => return status
  | target :: targets, status => do
    let n ← wholeNumber (if target.startsWith "-" then (target.drop 1).toString else target)
    if ← signalTo n signal then sendSignal signal targets status
    else
      warn "No such process\n"
      sendSignal signal targets 1

/-- Sends signals, or shows their names. -/
def kill (args : List String) : Run Nat := do
  let send (signal : Nat) (targets : List String) : Run Nat :=
    if targets.isEmpty then refuse killUsage else sendSignal signal targets 0
  match args with
  | [] => refuse killUsage
  | arg :: rest =>
    match arg.toList with
    | '-' :: cs =>
      match signalOf? false (String.ofList cs) with
      | some signal => send signal rest
      | none =>
        match cs, rest with
        | 'l' :: _, rest => listSignals rest
        | ['s'], name :: targets =>
          match signalOf? false name with
          | some signal => send signal (if targets.head? == some "--" then targets.tail else targets)
          | none => refuse ("invalid signal number or name: " ++ name)
        | ['s'], [] => refuse "No arg for -s option"
        | 's' :: name, targets =>
          match signalOf? false (String.ofList name) with
          | some signal => send signal targets
          | none => refuse ("invalid signal number or name: " ++ String.ofList name)
        | ['-'], targets => send 15 targets
        | c :: _, _ => refuse ("Illegal option -" ++ String.singleton c)
        | [], _ => send 15 args
    | _ => send 15 args

/-- Sets what is done at signals, or shows it. -/
def trap (args : List String) : Run Nat := do
  let (_, args) ← takeFlags [] [] args
  let change (action : Option String) (signal : Nat) : Run Unit := do
    modifyShell fun s => { s with traps := match action with
      | some text => s.traps.insert signal text
      | none => s.traps.erase signal }
    guard
  let rec changeAll (action : Option String) : List String → Run Nat
    | [] => return 0
    | word :: words => do
      match signalOf? true word with
      | none =>
        tell ("trap: " ++ word ++ ": bad trap\n")
        return 1
      | some signal =>
        change action signal
        changeAll action words
  match args with
  | [] =>
    let traps := (← shell).traps
    let shown := (List.range 65).filterMap fun n =>
      (traps.get? n).map fun action => "trap -- " ++ quoteText action ++ " " ++ signalName n
    putLines shown
  | [word] => changeAll none [word]
  | action :: words =>
    if action = "-" then changeAll none words
    else if (plainNumber? action).isSome then changeAll none args
    else changeAll (some action) words

/-! ### The rest -/

/-- The permissions that some bits leave, by letters. -/
def permissions (bits : Nat) : String :=
  String.join ([(4, "r"), (2, "w"), (1, "x")].map fun (bit, name) =>
    if bits / bit % 2 = 0 then name else "")

/-- Shows or sets the bits that new files do not get; they make no difference to what is read. -/
def umask (args : List String) : Run Nat := do
  let (flags, args) ← takeFlags ['S'] [] args
  let mask := (← shell).mask
  match args with
  | [] =>
    if flags.contains 'S' then
      put ("u=" ++ permissions (mask / 64 % 8) ++ ",g=" ++ permissions (mask / 8 % 8) ++ ",o=" ++
        permissions (mask % 8) ++ "\n")
    else
      let ds := String.ofList (Nat.toDigits 8 mask)
      put (String.ofList (List.replicate (4 - ds.length) '0') ++ ds ++ "\n")
  | arg :: _ =>
    match arg.toList with
    | c :: _ =>
      if c.isDigit then
        if !arg.toList.all isOctal then refuse ("Illegal number: " ++ arg)
        modifyShell fun s => { s with mask := digitValue 8 arg.toList % 512 }
        return 0
      else
        match Permissions.change (511 - mask) arg with
        | some bits =>
          modifyShell fun s => { s with mask := 511 - bits }
          return 0
        | none => refuse ("Illegal mode: " ++ arg)
    | [] => return 0

/-- Shows that there are no limits. -/
def ulimit (args : List String) : Run Nat := do
  if args.any fun a => !a.startsWith "-" then return 0 else put "unlimited\n"

/-- Shows that no time was used. -/
def times (_ : List String) : Run Nat :=
  putLines ["0m0.000000s 0m0.000000s", "0m0.000000s 0m0.000000s"]

/-- Shows names that stand for texts, or keeps new ones. -/
def aliases (args : List String) : Run Nat := do
  let shown (e : String × String) : String := e.1 ++ "=" ++ quoteText e.2
  if args.isEmpty then
    let row := (← shell).aliases.mergeSort fun a b => namePlace a.1 ≤ namePlace b.1
    return ← putLines (row.map shown)
  let mut status := 0
  for arg in args do
    let name := (arg.takeWhile (· != '=')).toString
    let known := (← shell).aliases
    if name.isEmpty || !arg.toList.contains '=' then
      match known.find? fun e => e.1 == arg with
      | some e => let _ ← putLines [shown e]
      | none =>
        tell ("alias: " ++ arg ++ " not found\n")
        status := 1
    else
      let text := (arg.drop (name.length + 1)).toString
      let new := if (known.lookup name).isSome then known.map fun e => if e.1 == name then (name, text) else e
        else known ++ [(name, text)]
      modifyShell fun s => { s with aliases := new }
  return status

/-- Takes names away that stand for texts. -/
def unalias (args : List String) : Run Nat := do
  if args.head? == some "-a" then
    modifyShell fun s => { s with aliases := [] }
    return 0
  let mut status := 0
  for name in args do
    if ((← shell).aliases.lookup name).isSome then
      modifyShell fun s => { s with aliases := s.aliases.filter fun e => e.1 != name }
    else
      tell ("unalias: " ++ name ++ " not found\n")
      status := 1
  return status

/-- The commands that need only the state of the shell. -/
def plain? (name : String) : Option (List String → Run Nat) :=
  match name with
  | ":" | "true" => some fun _ => return 0
  | "false" => some fun _ => return 1
  | "echo" => some echo
  | "printf" => some printf
  | "test" | "[" => some (Condition.run name)
  | "cd" | "chdir" => some cd
  | "pwd" => some pwd
  | "read" => some read
  | "export" | "readonly" => some (mark name)
  | "local" => some makeLocal
  | "unset" => some unset
  | "set" => some set
  | "shift" => some shift
  | "getopts" => some getopts
  | "kill" => some kill
  | "trap" => some trap
  | "umask" => some umask
  | "ulimit" => some ulimit
  | "times" => some times
  | "alias" => some aliases
  | "unalias" => some unalias
  | "hash" | "jobs" => some fun _ => return 0
  | "bg" | "fg" => some fun _ => refuse "No current job"
  | _ => none

/-- The names of all builtin commands. -/
def names : List String :=
  specialBuiltins ++ ["[", "alias", "bg", "cd", "chdir", "command", "echo", "false", "fg", "getopts",
    "hash", "jobs", "kill", "local", "printf", "pwd", "read", "test", "true", "type", "ulimit",
    "umask", "unalias", "wait"]

/-- Whether the arguments of a builtin command are taken as assignments where they look like ones. -/
def assigns (name : String) : Bool :=
  ["export", "readonly", "local", "alias"].contains name

end Builtin

end ClassLens.Shell
