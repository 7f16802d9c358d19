import ClassLens.Tool.Scripting.Functions

/-! # Callers and open files

What scripts learn of the calls around them, and what they do with files that they open, by the values
that say so.

* `callerOf`: what a function learns of how it was called.
* `shortTrace`, `longTrace`: where a fault stands as its callers see it.
* `openAs`: opens a file, a command or a text under a name.
* `handleCall`, `readPart`: functions on open files.
* `folderAt?`, `folderCall`: directories that are gone through.
* `runWords`: commands. -/

namespace ClassLens.Tool.Scripting

/-! ### Callers -/

/-- Whether a class is another one or builds on it. -/
def isKindOf (other : String) : Nat → String → Exec Bool
  | 0, _ => return false
  | fuel + 1, space => do
    if space = other then return true
    let cells ← listCells (← globalPlace .many (space ++ "::ISA"))
    let found ← cells.toList.mapM fun cell => do isKindOf other fuel (← cellValue cell).toText
    return found.any id

/-- The space of names that a name belongs to. -/
def spaceOfName (name : String) : String :=
  match (name.splitOn "::").dropLast with
  | [] => "main"
  | parts => "::".intercalate parts

/-- The whole name of a function. -/
def Machine.codeName (m : Machine) (n : Nat) : String :=
  match m.routines.entries.find? fun e => e.2 == n with
  | some (name, _) => if name.toList.contains ':' then name else "main::" ++ name
  | none => "main::__ANON__"

/-- The space of names of the code that is run within some frames. -/
def Machine.spaceIn (m : Machine) (frames : List Frame) : String :=
  match frames.findSome? Frame.code with
  | some n => spaceOfName (m.codeName n)
  | none => "main"

/-- What is known of the call that is so many calls away. -/
def callerOf (depth : Option Nat) : Exec (List Value) := do
  let m ← get
  match m.frames.drop (depth.getD 0) with
  | [] => return []
  | frame :: rest =>
    let place := [.text (m.spaceIn rest), .text m.source, .ofNat frame.line]
    if depth.isNone then return place
    else
      let wants : Value := match frame.wants with
        | some true => .ofInt 1
        | some false => .text ""
        | none => .undefined
      match frame.code with
      | some n => return place ++ [.text (m.codeName n), .ofInt 1, wants]
      | none => return place ++ [.text "(eval)", .ofInt 0, wants]

/-- An argument as a trace shows it. -/
def shownInTrace (v : Value) : String :=
  match v with
  | .undefined => "undef"
  | v =>
    let s := v.toText
    if v.kind ≠ "" then s
    else if !s.isEmpty && (s.toList.drop (if s.startsWith "-" then 1 else 0)).all (fun c => c.isDigit || c == '.') &&
        s ≠ "-" then s
    else
      let escaped := String.join (s.toList.map fun c =>
        if c == '"' || c == '\\' || c == '$' || c == '@' then "\\" ++ String.singleton c
        else if c.toNat < 32 || c.toNat > 126 then "\\x\x7b" ++ String.ofList (Nat.toDigits 16 c.toNat) ++ "\x7d"
        else String.singleton c)
      if s.length > 64 then "\"" ++ (escaped.take 64).toString ++ "\"..." else "\"" ++ escaped ++ "\""

/-- A fault with all calls that led to it. -/
def longTrace (message : String) : Exec String := do
  let m ← get
  let lines ← m.frames.mapM fun f => do
    let shown ← match f.code with
      | none => pure "eval \x7b...\x7d"
      | some n => do
        let vs ← f.arguments.mapM cellValue
        let words := vs.map shownInTrace
        let words := if words.length > 8 then words.take 8 ++ ["..."] else words
        pure (m.codeName n ++ "(" ++ ", ".intercalate words ++ ")")
    return "\t" ++ shown ++ " called at " ++ m.source ++ " line " ++ toString f.line ++ "\n"
  return message ++ (← whereabouts) ++ String.join lines

/-- A fault where it stands for those that call from another space of names. -/
def shortTrace (message : String) : Exec String := do
  let m ← get
  let rec outside : List Frame → Exec (Option Nat)
    | [] => return none
    | f :: rest => do
      if f.code.isNone then outside rest
      else
        let called := m.spaceIn (f :: rest)
        let caller := m.spaceIn rest
        let isKin ← (do
          if ← isKindOf called 20 caller then return true
          isKindOf caller 20 called)
        if isKin then outside rest else return some f.line
  match ← outside m.frames with
  | some line =>
    modify fun m => { m with line }
    let text := message ++ (← whereabouts)
    modify fun x => { x with line := m.line }
    return text
  | none => longTrace message

/-- The function that a method is, in the classes that a class builds on. -/
def inheritedMethod? (find : String → Exec (Option Nat)) (space : String) : Exec (Option Nat) := do
  let cells ← listCells (← globalPlace .many (space ++ "::ISA"))
  let rec among : List Nat → Exec (Option Nat)
    | [] => return none
    | cell :: rest => do
      match ← find (← cellValue cell).toText with
      | some n => return some n
      | none => among rest
  among cells.toList

/-! ### Open files -/

/-- The name of a file that a value stands for. -/
def handleName : Value → String
  | .handle name => name
  | v =>
    let s := v.toText
    if s.startsWith "main::" then (s.drop 6).toString else if s.startsWith "*main::" then (s.drop 7).toString else s

/-- How a file is opened by the words for it. -/
inductive Way where
  | file (how : Shell.Opening) (path : String)
  | command (reads : Bool) (words : List String)
  | unknown

/-- How a file is opened by one text that says all. -/
def wayOf (s : String) : Way :=
  let cs := (s.toList.dropWhile Records.isSpace).reverse.dropWhile Records.isSpace |>.reverse
  let path (cs : List Char) : String := String.ofList (cs.dropWhile Records.isSpace)
  match cs with
  | '>' :: '>' :: rest => .file .append (path rest)
  | '+' :: '<' :: rest => .file .both (path rest)
  | '>' :: rest => .file (.output true) (path rest)
  | '<' :: rest => .file .input (path rest)
  | '|' :: rest => .command false [path rest]
  | cs => if cs.getLast? == some '|' then .command true [String.ofList cs.dropLast] else .file .input (String.ofList cs)

/-- How a file is opened by a sign and what follows it. -/
def wayBy (sign : String) (vs : List Value) : Way :=
  let bare := String.ofList (sign.toList.filter (!Records.isSpace ·) |>.takeWhile (· != ':'))
  let path := (vs.headD .undefined).toText
  match bare with
  | "<" => .file .input path
  | ">" => .file (.output true) path
  | ">>" => .file .append path
  | "+<" | "+>" => .file .both path
  | "-|" => .command true (vs.map Value.toText)
  | "|-" => .command false (vs.map Value.toText)
  | ">&" | ">&=" | ">>&" | ">>&=" => .file (.output true) ("&" ++ handleName (vs.headD .undefined))
  | "<&" | "<&=" => .file .input ("&" ++ handleName (vs.headD .undefined))
  | _ => .unknown

/-- Opens a text or what a cell gets, under a name. -/
def openCell (key : String) (sign : String) (n : Nat) : Exec Unit := do
  let content := (← cellValue n).toText
  let channel ← Shell.makeChannel (.ofText content)
  let isOutput := sign.startsWith ">"
  if isOutput && !sign.startsWith ">>" then putCell n (.text "")
  let h : Handle := if isOutput then { channel, isOutput, cell := some n } else { channel, memory := some content }
  modify fun m => { m with handles := m.handles.insert key h }

/-- Opens under a name what is open already; whether that is possible. -/
def openSame (key target : String) (isOutput : Bool) : Exec Bool := do
  flush "STDOUT"
  flush target
  let channel ← match (← get).handles.get? target with
    | some h => if target = "STDOUT" then Shell.channelOf 1 else pure (some h.channel)
    | none =>
      Shell.channelOf (match target with
        | "STDOUT" | "1" => 1
        | "STDIN" | "0" => 0
        | _ => 2)
  match channel with
  | none =>
    setFault 9
    return false
  | some channel =>
    match key with
    | "STDERR" => Shell.setDescriptor 2 channel
    | "STDOUT" => Shell.setDescriptor 1 channel
    | key => modify fun m => { m with handles := m.handles.insert key { channel, isOutput } }
    return true

/-- Opens what values say under a name. -/
def openAs (key : String) (vs : List Value) : Exec Value := do
  setLayer key (vs.headD .undefined).toText
  let whether (done : Bool) : Value := if done then .ofInt 1 else .undefined
  match vs with
  | [v, .cell n] =>
    openCell key v.toText n
    return .ofInt 1
  | vs =>
    let way := match vs with
      | [v] => wayOf v.toText
      | v :: words => wayBy v.toText words
      | [] => .unknown
    match way with
    | .file how path =>
      let isOutput : Bool := how != .input
      if path.startsWith "&" then
        let target := (path.drop 1).toString
        return whether (← openSame key (if target.startsWith "=" then (target.drop 1).toString else target) isOutput)
      else if path = "-" && vs.length = 1 then
        return whether (← openSame key (if isOutput then "STDOUT" else "STDIN") isOutput)
      else if key = "STDOUT" || key = "STDERR" then
        flush "STDOUT"
        match ← Shell.openPath how path with
        | .ok channel =>
          Shell.setDescriptor (if key = "STDOUT" then 1 else 2) channel
          return .ofInt 1
        | .error e =>
          setFault (faultOf e)
          return .text ""
      else return whether (← openFile key how path)
    | .command reads words => return whether (← openCommand key reads words)
    | .unknown => fail ("Unknown open() mode '" ++ (vs.headD .undefined).toText ++ "'")

/-- Some characters of a file, put behind the start of a text; and how many there are. -/
def readPart (key before : String) (size offset : Nat) : Exec (String × Nat) := do
  if key = "STDIN" then openStandard
  fillAhead key size 100000
  let ahead := (((← get).handles.get? key).map Handle.ahead).getD []
  changeHandle key fun h => { h with ahead := h.ahead.drop size }
  let start := before.toList.take offset
  let gap := List.replicate (offset - start.length) '\x00'
  return (String.ofList (start ++ gap ++ ahead.take size), min size ahead.length)

/-- What a function gives for an open file and further values. -/
def handleCall (name : String) (key : Option String) (vs : List Value) : Exec Value := do
  match name with
  | "binmode" =>
    setLayer (key.getD "") (vs.headD .undefined).toText
    return .ofInt 1
  | "close" =>
    let key := key.getD (← get).selected
    modify fun m => { m with known := if m.known.contains key then m.known else key :: m.known }
    return .ofBool (← closeHandle key)
  | "eof" =>
    let last := (← get).lastHandle
    return .ofBool (← isAtEnd (key.getD (last.getD "ARGV")))
  | "tell" =>
    let last := (← get).lastHandle
    return .ofInt (← tellPlace (key.getD (last.getD "")))
  | "getc" =>
    let (text, count) ← readPart (key.getD "STDIN") "" 1 0
    return if count = 0 then .undefined else .text text
  | _ => return .ofBool (← seekTo (key.getD "") (vs.headD .undefined).toInt (vs.getD 1 .undefined).toInt.toNat)

/-! ### Directories -/

/-- The names in a directory, with those of itself and of the one above it. -/
def folderAt? (path : String) : Exec (Option (List String)) := do
  let t ← Tool.files
  match t.locate (Tool.pathOf path) with
  | .error fault =>
    setFault (faultOf fault)
    return none
  | .ok here =>
    if t.isDirectoryAt here then return some ("." :: ".." :: Tool.entriesIn t here)
    else
      setFault 20
      return none

/-- Keeps the names of a directory that is gone through, with how many of them were. -/
def keepFolder (key : String) (entry : Option (List String × Nat)) : Exec Unit := modify fun m =>
  let others := m.folders.filter fun f => f.1 != key
  { m with folders := (entry.toList.map fun f => (key, f.1, f.2)) ++ others }

/-- What a function gives for a directory that is gone through. -/
def folderCall (wantsMany : Bool) (name key : String) : Exec (List Value) := do
  match (← get).folders.lookup key with
  | none =>
    setFault 9
    return if wantsMany && name = "readdir" then [] else [.undefined]
  | some (names, i) =>
    match name with
    | "closedir" =>
      keepFolder key none
      return [.ofInt 1]
    | "rewinddir" =>
      keepFolder key (some (names, 0))
      return [.ofInt 1]
    | _ =>
      if wantsMany then
        keepFolder key (some (names, names.length))
        return (names.drop i).map Value.text
      else
        keepFolder key (some (names, i + 1))
        return [(names[i]?.map Value.text).getD .undefined]

/-! ### Commands -/

/-- Runs a command, or puts it in the place of the script. -/
def runWords (name : String) (words : List String) : Exec Value := do
  if name = "system" then
    let status ← runCommand words none none
    let v := if status = 65535 then Value.ofInt (-1) else .ofNat status
    setGlobal "?" v
    return v
  else
    flushAll
    if ← hasProgram words then
      handOn
      let launch := (← get).launch
      let status ← become launch words
      throw (.exit (512 + status))
    else
      setFault 2
      return .text ""

end ClassLens.Tool.Scripting
