import ClassLens.Shell.Extended.Reading

/-! # Variables and options of the extended language

The commands that mark variables, take them away, and turn options on and off.

* `Marking.declare`, `Marking.exportOrKeep`: variables with their marks.
* `Marking.unset`: takes variables, elements and functions away.
* `Switches.set`, `Switches.shopt`: the options of the shell. -/

namespace ClassLens.Shell.Marking

open Writing (invalidOption putLines)

/-- What the flags of a command say. -/
structure Flags where
  on : List Char := []
  off : List Char := []

/-- The flags before the arguments; or the first one that is not known. -/
def takeFlags (known : List Char) : Flags → List Given → Except String (Flags × List Given)
  | f, .text word :: rest =>
    match word.toList with
    | ['-', '-'] => .ok (f, rest)
    | sign :: c :: cs =>
      if sign == '-' || (sign == '+' && known.contains '+') then
        match (c :: cs).find? fun c => !known.contains c with
        | some bad => .error (String.ofList [sign, bad])
        | none =>
          takeFlags known (if sign == '-' then { f with on := f.on ++ c :: cs }
            else { f with off := f.off ++ c :: cs }) rest
      else .ok (f, .text word :: rest)
    | _ => .ok (f, .text word :: rest)
  | f, rest => .ok (f, rest)

/-- A variable with marks set and others taken away. -/
def marked (f : Flags) (v : Variable) : Variable :=
  let on (c : Char) (before : Bool) : Bool := (before || f.on.contains c) && !f.off.contains c
  let items : Option Items :=
    match v.items with
    | some items => some items
    | none =>
      if f.on.contains 'A' then some (.keyed (v.value.elim .empty fun s => Table.empty.insert "0" s))
      else if f.on.contains 'a' then some (.numbered (v.value.elim .empty fun s => Table.empty.insert 0 s))
      else none
  { v with
    items
    value := if items.isSome then none else v.value
    isWhole := on 'i' v.isWhole
    refers := on 'n' v.refers
    isExported := on 'x' v.isExported
    letters := if f.on.contains 'u' then some true else if f.on.contains 'l' then some false
      else if f.off.contains 'u' || f.off.contains 'l' then none else v.letters }

/-- A variable that must not change. -/
def kept (f : Flags) (v : Variable) : Variable :=
  { v with isReadonly := v.isReadonly || f.on.contains 'r' }

/-- Changes a variable, which is made where there is none. -/
def modifyVariable (name : String) (f : Variable → Variable) : Run Unit := modifyShell fun s =>
  { s with vars := s.vars.insert name (f ((s.vars.get? name).getD {})) }

/-- Makes a variable one of the function that is being run. -/
def makeOwn (name : String) : Run Unit := modifyShell fun s =>
  match s.locals with
  | frame :: frames =>
    if frame.any fun e => e.1 == name then s
    else { s with
      locals := ((name, s.vars.get? name) :: frame) :: frames
      vars := s.vars.erase name }
  | [] => s

/-- The name that an argument is about, and whether that can be one. -/
def nameOf (g : Given) : String × Bool :=
  match g with
  | .text s =>
    let name := (splitSubscript s).1
    (name, isName name.toList)
  | .value name .. | .items name .. => (name, true)

/-- Tells that a text is not the name of a variable; the status. -/
def notName (s : String) : Run Nat := do
  warn ("\x60" ++ s ++ "': not a valid identifier")
  return 1

/-- Shows variables by commands that make them again; the status. -/
def showAll (select : Variable → Bool) : Run Nat := do
  let s ← shell
  let found := s.vars.entries.filter fun e => select e.2
  let found := found.mergeSort fun a b => a.1 ≤ b.1
  putLines (found.map fun (name, v) => declarationOf name v)

/-- Shows some variables; the status is that of a fault where one is missing. -/
def showNamed (names : List String) : Run Nat := do
  let mut status := 0
  for name in names do
    let s ← shell
    match if ((s.vars.get? name).map Variable.refers).getD false then s.vars.get? name
      else s.lookup? name with
    | some v => let _ ← putLines [declarationOf name v]
    | none =>
      warn (name ++ ": not found")
      status := 1
  return status

/-- How `declare` and its other names are used. -/
def declareUsage (self : String) : String :=
  if self = "local" then "local [option] name[=value] ..."
  else self ++ " [-aAfFgiIlnrtux] [name[=value] ...] or " ++ self ++ " -p [-aAfFilnrtux] [name ...]"

/-- Marks one variable and gives it a value; the status. -/
def declareOne (f : Flags) (isOwn : Bool) (g : Given) : Run Nat := do
  let (name, isGood) := nameOf g
  if !isGood then return ← notName g.toText
  let s ← shell
  let target := if f.on.contains 'n' || f.off.contains 'n' then name else s.resolve name
  let old := (s.vars.get? target).getD {}
  let mayOwn := isOwn && !((s.locals.headD []).any fun e => e.1 == target)
  let changes := mayOwn || (match g with
    | .text _ => false
    | _ => true)
  if old.isReadonly && (changes || f.off.contains 'r') then
    warn (target ++ ": readonly variable")
    return 1
  if mayOwn then makeOwn target
  modifyVariable target (marked f)
  let g := if f.on.contains 'A' || f.on.contains 'a' then asItems g else g
  match g with
  | .value _ sub appends value =>
    if f.on.contains 'n' then modifyVariable target fun v => { v with value := some value }
    else putValue target sub appends value
  | .items _ appends list => putItems target appends list
  | .text _ => pure ()
  modifyVariable target (kept f)
  return 0
where
  /-- An argument of one text in parentheses as one of many values. -/
  asItems (g : Given) : Given :=
    match g with
    | .value name none appends value =>
      match value.toList, value.toList.getLast? with
      | '(' :: inner, some ')' =>
        let words := ((String.ofList inner.dropLast).splitOn " ").filter (· ≠ "")
        .items name appends (words.map fun w => (none, false, [w]))
      | _, _ => g
    | g => g

/-- The function names in order. -/
def functionNames (s : Shell) : List String :=
  s.functions.keys.mergeSort fun a b => a ≤ b

/-- Marks variables, or shows them. -/
def declare (self : String) (args : List Given) : Run Nat := do
  let s ← shell
  if self = "local" && s.calls = 0 then
    warn "can only be used in a function"
    return 1
  match takeFlags "aAfFgiIlnrtuxp+".toList {} args with
  | .error option => invalidOption option (declareUsage self)
  | .ok (f, rest) =>
    if f.on.contains 'f' || f.on.contains 'F' then
      let names := rest.map Given.toText
      if names.isEmpty then putLines ((functionNames s).map ("declare -f " ++ ·))
      else
        let known := names.filter fun n => (s.functions.get? n).isSome
        if f.on.contains 'F' then let _ ← putLines known
        return if known.length = names.length then 0 else 1
    else if f.on.contains 'p' || rest.isEmpty then
      let shows (v : Variable) : Bool := f.on.all fun c => c == 'p' || v.flags.toList.contains c
      if !rest.isEmpty then showNamed (rest.map Given.toText)
      else if self = "local" then return 0
      else showAll shows
    else
      let mut status := 0
      for arg in rest do
        let g := match arg with
          | .text s => Given.ofText s
          | g => g
        let n ← declareOne f (s.calls > 0 && (self = "local" || !f.on.contains 'g')) g
        if n ≠ 0 then status := n
      return status

/-- Marks variables as exported, or as ones that must not change. -/
def exportOrKeep (self : String) (args : List Given) : Run Nat := do
  let isExport := self = "export"
  let usage := if isExport then "export [-fn] [name[=value] ...] or export -p"
    else "readonly [-aAf] [name[=value] ...] or readonly -p"
  match takeFlags (if isExport then "fnp" else "aAfp").toList {} args with
  | .error option => invalidOption option usage
  | .ok (f, rest) =>
    if f.on.contains 'f' then
      let s ← shell
      let mut status := 0
      for g in rest do
        if (s.functions.get? g.toText).isNone then
          warn (g.toText ++ ": not a function")
          status := 1
      return status
    if rest.isEmpty then return ← showAll fun v => if isExport then v.isExported else v.isReadonly
    let mut status := 0
    for arg in rest do
      let g := match arg with
        | .text s => Given.ofText s
        | g => g
      let (name, isGood) := nameOf g
      if !isGood then status ← notName g.toText
      else
        let target := (← shell).resolve name
        if f.on.contains 'a' || f.on.contains 'A' then modifyVariable target (marked { on := f.on.filter (· != 'p') })
        let r ← attempt g.put
        match r with
        | .ok _ =>
          modifyVariable target fun v =>
            if isExport then { v with isExported := !f.on.contains 'n' } else { v with isReadonly := true }
        | .error .fault => status := 1
        | .error e => throw e
    return status

/-- Takes variables, elements or functions away. -/
def unset (args : List String) : Run Nat := do
  match takeFlags "fvn".toList {} (args.map Given.text) with
  | .error option => invalidOption option "unset [-f] [-v] [-n] [name ...]"
  | .ok (f, rest) =>
    let mut status := 0
    for g in rest do
      let (name, sub) := splitSubscript g.toText
      let s ← shell
      let target := if f.on.contains 'n' then name else s.resolve name
      let v? := s.vars.get? target
      if f.on.contains 'f' then modifyShell fun s => { s with functions := s.functions.erase name }
      else if f.on.contains 'v' && !isName name.toList then status ← notName g.toText
      else if (v?.map Variable.isReadonly).getD false then
        warn (target ++ ": cannot unset: readonly variable")
        status := 1
      else
        match sub with
        | some t =>
          if t = "@" ∨ t = "*" then modifyShell fun s => { s with vars := s.vars.erase target }
          else
            match ← slotOf target t with
            | some slot => discard target slot
            | none =>
              warn ("[" ++ t ++ "]: bad array subscript")
              status := 1
        | none =>
          if v?.isSome || f.on.contains 'v' then
            modifyShell fun s => { s with vars := s.vars.erase target }
          else modifyShell fun s => { s with functions := s.functions.erase name }
    return status

end ClassLens.Shell.Marking

namespace ClassLens.Shell.Switches

open Writing (invalidOption putLines)

/-- The options that are on at the start. -/
def startOptions : List Char := ['h', 'B', '\x06']

/-- Turns an option on or off. -/
def setOption (on : Bool) (letter : Char) : Run Unit := modifyShell fun s =>
  let had := s.options.filter (· != letter)
  { s with options := if on then letter :: had else had }

/-- How `set` is used. -/
def setUsage : String := "set [-abefhkmnptuvxBCEHPT] [-o option-name] [--] [-] [arg ...]"

/-- A name filled up to a column. -/
def column (name : String) : String :=
  name ++ String.ofList (List.replicate (15 - name.length) ' ') ++ "\t"

/-- The options at the start of some arguments: a status that ends the command, or the operands, if there are
any or a sign stands for them. -/
def takeOptions : List String → Run (Except Nat (Option (List String)))
  | [] => return .ok none
  | arg :: args => do
    match arg.toList with
    | ['-'] =>
      setOption false 'x'
      setOption false 'v'
      return .ok (if args.isEmpty then none else some args)
    | ['-', '-'] => return .ok (some args)
    | ['-', 'o'] | ['+', 'o'] =>
      let on := arg == "-o"
      match args with
      | [] =>
        let s ← shell
        let isOn (e : Char × String) : Bool := s.options.contains e.1
        let _ ← putLines (wideOptionNames.map fun e =>
          if on then column e.2 ++ (if isOn e then "on" else "off")
          else "set " ++ (if isOn e then "-o " else "+o ") ++ e.2)
        return .ok none
      | name :: args =>
        match wideOptionNames.find? fun e => e.2 == name with
        | some (letter, _) =>
          setOption on letter
          takeOptions args
        | none =>
          warn (name ++ ": invalid option name")
          return .error 2
    | sign :: c :: cs =>
      if sign == '-' || sign == '+' then
        match (c :: cs).find? fun c => c.toNat < 32 || !((c == 'o') || wideOptionNames.any fun e => e.1 == c) with
        | some bad => return .error (← invalidOption (String.ofList [sign, bad]) setUsage)
        | none =>
          for c in (c :: cs).filter (· != 'o') do setOption (sign == '-') c
          if (c :: cs).contains 'o' then
            match args with
            | name :: args =>
              match wideOptionNames.find? fun e => e.2 == name with
              | some (letter, _) =>
                setOption (sign == '-') letter
                takeOptions args
              | none =>
                warn (name ++ ": invalid option name")
                return .error 2
            | [] => return .ok none
          else takeOptions args
      else return .ok (some (arg :: args))
    | _ => return .ok (some (arg :: args))

/-- Sets options and positional parameters, or shows all variables. -/
def set (args : List String) : Run Nat := do
  if args.isEmpty then
    let found := (← shell).vars.entries.mergeSort fun a b => a.1 ≤ b.1
    putLines (found.filterMap fun (name, v) =>
      match v.items with
      | some _ => some (((declarationOf name v).splitOn " ").drop 2 |> " ".intercalate)
      | none => v.value.map fun value => name ++ "=" ++ Reshaping.quotedIfNeeded value)
  else
    match ← takeOptions args with
    | .error status => return status
    | .ok (some operands) =>
      modifyShell fun s => { s with positional := operands, optionPlace := 0 }
      return 0
    | .ok none => return 0

/-- The options of the extended language, and whether they are on at the start. -/
def features : List (String × Bool) :=
  [("autocd", false), ("assoc_expand_once", false), ("cdable_vars", false), ("cdspell", false),
    ("checkhash", false), ("checkjobs", false), ("checkwinsize", true), ("cmdhist", true), ("compat31", false),
    ("compat32", false), ("compat40", false), ("compat41", false), ("compat42", false), ("compat43", false),
    ("compat44", false), ("complete_fullquote", true), ("direxpand", false), ("dirspell", false),
    ("dotglob", false), ("execfail", false), ("expand_aliases", false), ("extdebug", false), ("extglob", false),
    ("extquote", true), ("failglob", false), ("force_fignore", true), ("globasciiranges", true),
    ("globskipdots", true), ("globstar", false), ("gnu_errfmt", false), ("histappend", false),
    ("histreedit", false), ("histverify", false), ("hostcomplete", true), ("huponexit", false),
    ("inherit_errexit", false), ("interactive_comments", true), ("lastpipe", false), ("lithist", false),
    ("localvar_inherit", false), ("localvar_unset", false), ("login_shell", false), ("mailwarn", false),
    ("no_empty_cmd_completion", false), ("nocaseglob", false), ("nocasematch", false),
    ("noexpand_translation", false), ("nullglob", false), ("patsub_replacement", true), ("progcomp", true),
    ("progcomp_alias", false), ("promptvars", true), ("restricted_shell", false), ("shift_verbose", false),
    ("sourcepath", true), ("syslog_history", false), ("varredir_close", false), ("xpg_echo", false)]

/-- The options of the extended language that are on at the start. -/
def startFeatures : List String := (features.filter Prod.snd).map Prod.fst

/-- Turns options of the extended language on and off, or shows them. -/
def shopt (args : List String) : Run Nat := do
  match Marking.takeFlags "supqo".toList {} (args.map Given.text) with
  | .error option => invalidOption option "shopt [-pqsu] [-o] [optname ...]"
  | .ok (f, rest) =>
    let names := rest.map Given.toText
    let isOld := f.on.contains 'o'
    let known := if isOld then wideOptionNames.map Prod.snd else features.map Prod.fst
    let letterOf (name : String) : Char := ((wideOptionNames.find? fun e => e.2 == name).map Prod.fst).getD ' '
    let isOn (name : String) : Run Bool := do
      let s ← shell
      return if isOld then s.options.contains (letterOf name) else s.features.contains name
    let sets := f.on.contains 's'
    let mut status := 0
    if (sets || f.on.contains 'u') && !names.isEmpty then
      for name in names do
        if !known.contains name then
          warn (name ++ ": invalid shell option name")
          status := 1
        else if isOld then setOption sets (letterOf name)
        else modifyShell fun s =>
          { s with features := s.features.filter (· != name) ++ (if sets then [name] else []) }
      return status
    for name in if names.isEmpty then known else names do
      if !known.contains name then
        warn (name ++ ": invalid shell option name")
        status := 1
      else
        let on ← isOn name
        if !on && !names.isEmpty then status := 1
        let shows : Bool := !names.isEmpty || (!(f.on.contains 's' && !on) && !(f.on.contains 'u' && on))
        if !f.on.contains 'q' && shows then
          let _ ← putLines [if f.on.contains 'p' then
              (if isOld then "set " ++ (if on then "-o " else "+o ") else "shopt " ++ (if on then "-s " else "-u "))
                ++ name
            else column name ++ (if on then "on" else "off")]
    return status

end ClassLens.Shell.Switches
