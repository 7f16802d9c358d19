import ClassLens.Tool.Scripting.Run

/-! # Scripts for texts

* `perl`: the program that runs a script, on each line of its input if it is asked to. -/

namespace ClassLens.Tool

open Shell

namespace Scripting

/-- What the arguments of the program say. -/
structure Request where
  /-- Texts of the script. -/
  texts : List String := []
  isGiven : Bool := false
  /-- Modules that are asked for, as the script would. -/
  modules : List String := []
  /-- Whether the script is run on each line, and whether the line is written then. -/
  loops : Bool := false
  prints : Bool := false
  /-- Whether lines lose their ends and get them back, and which end that is. -/
  lineEnd : Option (Option Char) := none
  /-- What ends a record: nothing, or a text. -/
  separator : Option (Option String) := none
  splits : Bool := false
  /-- What is UTF-8, by letters. -/
  encoded : List Char := []
  fields : Option String := none
  inPlace : Option String := none
  onlyChecks : Bool := false
  /-- Whether cautions are given where the script says nothing of them. -/
  isLoud : Bool := false
  showsVersion : Bool := false
  operands : List String := []

/-- What ends a record, by the digits after the option for it, and what follows them. -/
def recordEnd (s : List Char) : Option String × List Char :=
  match s with
  | 'x' :: rest | 'X' :: rest =>
    let ds := rest.takeWhile isHex
    (some (String.singleton (Char.ofNat (digitValue 16 ds))), rest.drop ds.length)
  | s =>
    let ds := s.takeWhile isOctal
    let n := digitValue 8 ds
    let rest := s.drop ds.length
    if ds.isEmpty then (some "\x00", rest)
    else if n = 0 then (some "", rest)
    else if n ≥ 256 then (none, rest)
    else (some (String.singleton (Char.ofNat n)), rest)

/-- What is added to a script for a module. -/
def moduleText (plain : Bool) (s : String) : String :=
  let (word, s) := if s.startsWith "-" then ("no ", (s.drop 1).toString) else ("use ", s)
  let name := (s.takeWhile (· != '=')).toString
  let names := (s.drop (name.length + 1)).toString
  if plain && name = s then word ++ name ++ " (); "
  else if name = s then word ++ name ++ "; "
  else word ++ name ++ " split(/,/,q\x00" ++ names ++ "\x00); "

/-- The letters for what is UTF-8, which may be given as a number. -/
def layerLetters (s : List Char) : List Char :=
  if s.head?.any Char.isDigit then
    let n := digitValue 10 (s.takeWhile Char.isDigit)
    ("IOEioA".toList.zipIdx.filter fun (_, i) => n.testBit i).map Prod.fst
  else s.flatMap fun c => if c == 'S' then "IOE".toList else if c == 'D' then "io".toList else [c]

/-- The files that letters say are UTF-8. -/
def encodedFiles (letters : List Char) : List String :=
  letters.filterMap fun c =>
    match c with
    | 'I' => some "STDIN"
    | 'O' => some "STDOUT"
    | 'E' => some "STDERR"
    | 'i' | 'o' => some ""
    | _ => none

/-- The letters of an option, one after the other; the words that are left. -/
def readSwitches : Nat → List Char → List String → Request → Except String (Request × List String)
  | 0, _, words, r => .ok (r, words)
  | _ + 1, [], words, r => .ok (r, words)
  | fuel + 1, c :: cs, words, r =>
    match c with
    | 'e' | 'E' =>
      if !cs.isEmpty then .ok ({ r with texts := r.texts ++ [String.ofList cs], isGiven := true }, words)
      else
        match words with
        | w :: words => .ok ({ r with texts := r.texts ++ [w], isGiven := true }, words)
        | [] => .error ("No code specified for -" ++ String.singleton c ++ ".\n")
    | 'n' => readSwitches fuel cs words { r with loops := true }
    | 'p' => readSwitches fuel cs words { r with loops := true, prints := true }
    | 'a' => readSwitches fuel cs words { r with splits := true, loops := true }
    | 'F' => .ok ({ r with splits := true, loops := true, fields := some (String.ofList cs) }, words)
    | 'l' =>
      let ds := (cs.take 3).takeWhile isOctal
      let stop : Option Char := if ds.isEmpty then none else some (Char.ofNat (digitValue 8 ds))
      readSwitches fuel (cs.drop ds.length) words { r with lineEnd := some stop }
    | '0' =>
      let (separator, rest) := recordEnd cs
      readSwitches fuel rest words { r with separator := some separator }
    | 'i' => .ok ({ r with inPlace := some (String.ofList cs) }, words)
    | 'c' => readSwitches fuel cs words { r with onlyChecks := true }
    | 'v' => readSwitches fuel cs words { r with showsVersion := true }
    | 'M' | 'm' =>
      if cs.isEmpty then .error ("Missing argument to -" ++ String.singleton c ++ "\n")
      else .ok ({ r with modules := r.modules ++ [moduleText (c == 'm') (String.ofList cs)] }, words)
    | 'I' => .ok (r, if cs.isEmpty then words.tail else words)
    | 'C' => .ok ({ r with encoded := layerLetters cs }, words)
    | 'x' | 'd' | 'D' => .ok (r, words)
    | 'w' | 'W' => readSwitches fuel cs words { r with isLoud := true }
    | 's' | 'X' | 't' | 'T' | 'u' | 'U' | 'S' | 'f' | '-' => readSwitches fuel cs words r
    | c =>
      .error ("Unrecognized switch: -" ++ String.ofList (c :: cs) ++ "  (-h will show valid options).\n")

/-- The options before the operands, or what is wrong with them. -/
def readRequest : Nat → Request → List String → Except String Request
  | 0, r, _ => .ok r
  | _ + 1, r, [] => .ok r
  | fuel + 1, r, word :: words =>
    match word.toList with
    | ['-', '-'] => .ok { r with operands := words }
    | '-' :: c :: cs =>
      match readSwitches (cs.length + 2) (c :: cs) words r with
      | .ok (r, words) => readRequest fuel r words
      | .error e => .error e
    | _ => .ok { r with operands := word :: words }

/-- The act of cutting the record into fields. -/
def fieldAct (fields : Option String) : Act :=
  let pattern := match fields.map String.toList with
    | none => Expr.constant (.text " ")
    | some cs =>
      let inner := match cs with
        | q :: rest => if (q == '/' || q == '"' || q == '\'') && rest.getLast? == some q then rest.dropLast else cs
        | [] => cs
      .hits false none (.constant (.text (String.ofList inner))) ""
  .compute 0 (.assign (.variable .many "F") (.call "split" [pattern, record]))

/-- The acts of a script that is run on each line. -/
def overLines (r : Request) (acts : List Act) : List Act :=
  let line := Expr.readLine (.constant (.text "ARGV"))
  let isDefinition (a : Act) : Bool := a matches .define _ _
  let start := (if r.lineEnd.isSome then [Act.compute 0 (.call "chomp" [record])] else []) ++
    (if r.splits then [fieldAct r.fields] else [])
  let finish := if r.prints then [Act.compute 0 (.write "print" none [])] else []
  acts.filter isDefinition ++
    [.loop 0 "LINE" (some (looped line)) finish false (start ++ acts.filter fun a => !isDefinition a)]

/-- The state in which a script starts. -/
def machineFor (source : String) (launch : Launch) (isStrict : Bool) (r : Request) : Machine :=
  { source, launch
    lists := #[#[]]
    isStrict
    isLoud := r.isLoud
    encoded := encodedFiles r.encoded
    inPlace := r.inPlace }

/-- Puts the variables into place that a script finds. -/
def prepare (r : Request) (arguments : List String) (data : Option (List Char)) : Exec Unit := do
  setGlobal "0" (.text (← get).source)
  setGlobal "\"" (.text " ")
  setGlobal ";" (.text "\x1c")
  setGlobal "@" (.text "")
  setGlobal "?" (.ofInt 0)
  setGlobal "/" (match r.separator with
    | some none => .undefined
    | some (some s) => .text s
    | none => .text "\n")
  match r.lineEnd with
  | some (some c) => setGlobal "\\" (.text (String.singleton c))
  | some none =>
    setGlobal "\\" (match r.separator with
      | some (some s) => .text (if s = "" then "\n\n" else s)
      | some none => .undefined
      | none => .text "\n")
  | none => pure ()
  putList (← globalPlace .many "ARGV") (← cellsFor (arguments.map fun s => .text (if r.encoded.contains 'A' then decodedText s else s)))
  putList (← globalPlace .many "INC") (← cellsFor (searched.map Value.text))
  let exported := (← Shell.shell).exported
  fillTable (← globalPlace .keyed "ENV") (exported.flatMap fun (name, value) => [.text name, .text value])
  match ← Shell.channelOf 1 with
  | some channel =>
    modify fun m => { m with handles := m.handles.insert "STDOUT" { channel, isOutput := true } }
  | none => pure ()
  match data with
  | some text =>
    let channel ← Shell.makeChannel (.ofText (String.ofList text))
    modify fun m => { m with handles := m.handles.insert "DATA" { channel } }
  | none => pure ()

/-- What the program says of itself. -/
def versionText : String :=
  "\nThis is perl 5, version 36, subversion 0 (v5.36.0) built for x86_64-linux-gnu-thread-multi\n"

/-- Where a script comes from: its name, its text, and the arguments that are left; or the status of a fault. -/
def sourceOf (r : Request) : Run (Except Nat (String × String × List String)) := do
  if r.isGiven then return .ok ("-e", "\n".intercalate r.texts ++ "\n", r.operands)
  let path := r.operands.headD "-"
  match ← readInput path with
  | .ok content => return .ok (path, content, r.operands.tail)
  | .error e =>
    tell ("Can't open perl script \"" ++ path ++ "\": " ++ e.wording ++ "\n")
    return .error (e.number?.getD 2)

end Scripting

open Scripting in
/-- Runs a script. -/
def perl (launch : Launch) : Tool := fun _ args => do
  match readRequest (args.length + 1) {} args with
  | .error message =>
    tell message
    return 29
  | .ok r =>
    if r.showsVersion then
      say versionText
      return 0
    match ← sourceOf r with
    | .error status => return status
    | .ok (source, text, arguments) =>
      match readScript source (String.join r.modules ++ text).toList fun c => { c with isLoud := r.isLoud } with
      | .error e =>
        tell e.message
        return e.status
      | .ok (acts, c) =>
        tell (String.join c.allNotices)
        if r.onlyChecks then
          tell (source ++ " syntax OK\n")
          return 0
        let acts := if r.loops then overLines r acts else acts
        let whole : Exec Nat := do
          prepare r arguments c.data
          runScript acts
        let (result, _) ← whole.run (machineFor source launch c.isStrict r)
        match result with
        | .ok status => return status
        | .error _ => return 255

end ClassLens.Tool
