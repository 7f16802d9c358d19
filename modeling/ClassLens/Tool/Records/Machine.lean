import ClassLens.Shell.Redirection
import ClassLens.Tool.Launching
import ClassLens.Tool.Records.Reader

/-! # The state of a run over records

What a program on records works on: its variables and groups, the record at hand with its fields, and the
files and commands that it reads and writes.

* `Machine`: the state.
* `Exec`: a part of a run; a `Stop` ends it early.
* `record`, `splitRecord`, `setField`: the record, whose fields are found when they are asked for and which
  is put together again after one of them was changed.
* `takeRecord`: the next record of an input.
* `outlet`, `put`: what is written, and where. -/

namespace ClassLens.Tool.Records

open Shell (Run Opening openPath makeChannel setDescriptor writeChannel takeFrom inChild tell)

/-- What separates fields. -/
inductive Separator where
  | blanks
  /-- Each character stands alone. -/
  | none
  | exactly (c : Char)
  | pattern (r : Regex)

/-- What separates records. -/
inductive Divider where
  | after (c : Char)
  /-- Records are separated by empty lines. -/
  | emptyLines
  | pattern (r : Regex)

/-- A file or what a command writes, read record by record. -/
structure Inlet where
  name : String
  isCommand : Bool := false
  channel : Nat
  /-- What has been read and not been used. -/
  buffer : List Char := []
  hasEnded : Bool := false
  /-- How the command has ended. -/
  status : Int := 0

/-- A file or a command that is written to. -/
structure Outlet where
  name : String
  isCommand : Bool := false
  channel : Nat
  /-- What waits to be written. -/
  buffer : String := ""

/-- What a name within a function stands for. -/
inductive Slot where
  | value (v : Value)
  | group (number : Nat)

/-- Why a run goes on elsewhere. -/
inductive Stop where
  | next
  | nextFile
  | exit
  | return (v : Value)
  | break
  | continue
  /-- A fault that was told ends the run. -/
  | failed

/-- The state of a run. -/
structure Machine where
  self : String
  program : Program
  launch : Launch
  globals : Table String Value := .empty
  groupNames : Table String Nat := .empty
  groups : Array Group := #[]
  locals : List (String × Slot) := []
  record : Value := .unset
  /-- The fields of the record if they have been looked for. -/
  fields : Option (Array Value) := some #[]
  /-- Whether a field was changed since the record was put together. -/
  isStale : Bool := false
  separator : Separator := .blanks
  divider : Divider := .after '\n'
  /-- What the program writes that waits to be written. -/
  output : String := ""
  outlets : List Outlet := []
  inlets : List Inlet := []
  main : Option Inlet := .none
  /-- Whether all records of the main input have been read. -/
  isFinished : Bool := false
  /-- The argument that is looked at next for a file, and whether there was a file. -/
  argument : Nat := 1
  hasFile : Bool := false
  /-- The ranges that have started and not ended. -/
  ranges : List Nat := []
  status : Nat := 0
  seed : Value := .number 0
  random : Nat := 0
  /-- Patterns that were read before. -/
  patterns : List (String × Regex) := []

/-- A part of a run. -/
abbrev Exec := ExceptT Stop (StateT Machine Run)

/-- Goes on where something was ended early. -/
def tryTo {α : Type} (body : Exec α) : Exec (Except Stop α) := fun m => do
  let (r, m) ← body.run m
  return (.ok r, m)

/-- Tells of a fault that ends the run. -/
def fail {α : Type} (message : String) : Exec α := do
  tell ((← get).self ++ ": " ++ message ++ "\n")
  throw .failed

/-- The value of a global variable. -/
def global (name : String) : Exec Value := return ((← get).globals.get? name).getD .unset

/-- Sets a global variable without regard to what it means. -/
def setGlobal (name : String) (v : Value) : Exec Unit :=
  modify fun m => { m with globals := m.globals.insert name v }

/-- The format in which numbers become texts. -/
def convertFormat : Exec String := return (← global "CONVFMT").textIn "%.6g"

/-- The text of a value. -/
def textOf (v : Value) : Exec String := do
  match v with
  | .text s | .input s => return s
  | .unset => return ""
  | .number n => return numberText (← convertFormat) n

/-- Tells of a fault in the middle of a run, which it ends. -/
def failRunning {α : Type} (message : String) : Exec α := do
  let name ← textOf (← global "FILENAME")
  let count (which : String) : Exec String := return numberText "%.6g" (← global which).toNumber
  fail ("run time error: " ++ message ++ "\n\tFILENAME=\"" ++ name ++ "\" FNR=" ++ (← count "FNR") ++ " NR=" ++
    (← count "NR"))

/-- The pattern of a text. -/
def patternOf (s : String) : Exec Regex := do
  match (← get).patterns.lookup s with
  | some r => return r
  | none =>
    match readPattern s with
    | .ok r =>
      modify fun m => { m with patterns := ((s, r) :: m.patterns).take 32 }
      return r
    | .error e => failRunning ("regular expression compile failed (" ++ e ++ ")\n" ++ s)

/-! ### Pieces of texts -/

/-- What a text separates fields by. -/
def separatorOf (s : String) : Exec Separator := do
  match s.toList with
  | [] => return .none
  | [' '] => return .blanks
  | [c] => return .exactly c
  | _ => return .pattern (← patternOf s)

/-- What a text separates records by. -/
def dividerOf (s : String) : Exec Divider := do
  match s.toList with
  | [] => return .emptyLines
  | [c] => return .after c
  | _ => return .pattern (← patternOf s)

/-- The first match from a place on that holds a character at least. -/
def findFull (r : Regex) (text : List Char) : Nat → Nat → Option Regex.Hit
  | 0, _ => none
  | fuel + 1, offset =>
    match r.find false text offset with
    | none => none
    | some hit =>
      if hit.start < hit.stop then some hit
      else if hit.start ≥ text.length then none
      else findFull r text fuel (hit.start + 1)

/-- The pieces of a text between the matches of an expression. -/
def piecesAt (r : Regex) (text : List Char) : Nat → Nat → List String
  | 0, _ => []
  | fuel + 1, start =>
    match findFull r text (text.length + 1) start with
    | some hit => String.ofList ((text.drop start).take (hit.start - start)) :: piecesAt r text fuel hit.stop
    | none => [String.ofList (text.drop start)]

/-- The words of a text. -/
def wordsOf : Nat → List Char → List String
  | 0, _ => []
  | fuel + 1, s =>
    let s := s.dropWhile isSpace
    if s.isEmpty then []
    else
      let word := s.takeWhile fun c => !isSpace c
      String.ofList word :: wordsOf fuel (s.drop word.length)

/-- The fields of a text. -/
def Separator.split (x : Separator) (s : String) : List String :=
  if s.isEmpty then []
  else
    match x with
    | .blanks => wordsOf (s.length + 1) s.toList
    | .none => s.toList.map String.singleton
    | .exactly c => s.splitOn (String.singleton c)
    | .pattern r => piecesAt r s.toList (s.length + 1) 0

/-- The fields of a record that may have many lines, each of which ends a field too. -/
def Separator.splitLines (x : Separator) (s : String) : List String :=
  match x with
  | .exactly c => (s.splitOn (String.singleton c)).flatMap (·.splitOn "\n")
  | .pattern r =>
    Separator.split (.pattern (.either r (.one (.one '\n')))) s
  | x => x.split s

/-! ### The record -/

/-- Makes a text the record. -/
def setRecord (s : String) : Exec Unit :=
  modify fun m => { m with record := .input s, fields := none, isStale := false }

/-- The fields of the record. -/
def fieldsOf : Exec (Array Value) := do
  let m ← get
  match m.fields with
  | some fields => return fields
  | none =>
    let s ← textOf m.record
    let parts := if m.divider matches .emptyLines then (if s.isEmpty then [] else m.separator.splitLines s)
      else m.separator.split s
    let fields := (parts.map Value.input).toArray
    modify fun m => { m with fields := some fields }
    return fields

/-- The record, put together again if one of its fields was changed. -/
def recordValue : Exec Value := do
  let m ← get
  if m.isStale then
    let fields := (m.fields.getD #[]).toList
    let v ← match fields with
      | [v] => pure v
      | fields =>
        let parts ← fields.mapM textOf
        let between ← textOf (← global "OFS")
        pure (.text (between.intercalate parts))
    modify fun m => { m with record := v, isStale := false }
    return v
  else return m.record

/-- The value of a field. -/
def field (n : Nat) : Exec Value := do
  if n = 0 then recordValue
  else return ((← fieldsOf)[n - 1]?).getD (.input "")

/-- How many fields a record may have. -/
def mostFields : Nat := 1000000

/-- Gives the record so many fields. -/
def setFieldCount (n : Nat) : Exec Unit := do
  let fields ← fieldsOf
  let fields := if n ≤ fields.size then fields.shrink n
    else fields ++ Array.replicate (n - fields.size) (Value.input "")
  modify fun m => { m with fields := some fields, isStale := true }

/-- Sets a field. -/
def setField (n : Nat) (v : Value) : Exec Unit := do
  if n = 0 then
    setRecord (← textOf v)
  else if n ≤ mostFields then
    let fields ← fieldsOf
    if fields.size < n then setFieldCount n
    modify fun m => { m with
      fields := m.fields.map fun fields => fields.set! (n - 1) v
      isStale := true }

/-! ### Variables -/

/-- The value of a variable. -/
def variableOf (name : String) : Exec Value := do
  match (← get).locals.lookup name with
  | some (.value v) => return v
  | some (.group _) => return .unset
  | none =>
    if name = "NF" then return .number (Float.ofNat (← fieldsOf).size)
    else global name

/-- Sets a variable, with what that changes for records and fields. -/
def setVariable (name : String) (v : Value) : Exec Unit := do
  let m ← get
  if (m.locals.lookup name).isSome then
    set { m with locals := m.locals.map fun (e : String × Slot) => if e.1 == name then (name, .value v) else e }
  else
    match name with
    | "NF" =>
      let n := wholePart v.toNumber
      if n < 0 then failRunning "negative value assigned to NF"
      setFieldCount (min n.toNat mostFields)
    | "FS" =>
      let _ ← fieldsOf
      setGlobal name v
      let separator ← separatorOf (← textOf v)
      modify fun m => { m with separator }
    | "RS" =>
      setGlobal name v
      let divider ← dividerOf (← textOf v)
      modify fun m => { m with divider }
    | name => setGlobal name v

/-- Counts one record more. -/
def count (name : String) : Exec Unit := do
  setGlobal name (.number ((← global name).toNumber + 1))

/-! ### Groups -/

/-- The number of a group by its name. -/
def groupOf (name : String) : Exec Nat := do
  let m ← get
  match m.locals.lookup name with
  | some (.group n) => return n
  | _ =>
    match m.groupNames.get? name with
    | some n => return n
    | none =>
      set { m with
        groups := m.groups.push {}
        groupNames := m.groupNames.insert name m.groups.size }
      return m.groups.size

/-- A group by its number. -/
def group (n : Nat) : Exec Group := return ((← get).groups[n]?).getD {}

/-- Changes a group. -/
def changeGroup (n : Nat) (f : Group → Group) : Exec Unit :=
  modify fun m => { m with groups := m.groups.modify n f }

/-- Whether a name stands for a group. -/
def isGroup (name : String) : Exec Bool := do
  let m ← get
  match m.locals.lookup name with
  | some (.group _) => return true
  | some _ => return false
  | none => return m.groupNames.contains name

/-! ### Outputs -/

/-- How much is kept back before it is written. -/
def bufferSize : Nat := 4096

/-- What is written of a text at once, and what is kept back. -/
def flow (s : String) : String × String :=
  if s.length ≤ bufferSize then ("", s)
  else
    let n := s.length / bufferSize * bufferSize
    ((s.take n).toString, (s.drop n).toString)

/-- Writes what the program has kept back. -/
def flushOutput : Exec Unit := do
  let m ← get
  if m.output ≠ "" then
    let _ ← Shell.writeTo 1 m.output
    set { m with output := "" }

/-- Writes all that was kept back. -/
def flushAll : Exec Unit := do
  flushOutput
  for o in (← get).outlets do
    if o.buffer ≠ "" then writeChannel o.channel o.buffer
  modify fun m => { m with outlets := m.outlets.map fun o => { o with buffer := "" } }

/-- Runs a command, with channels in the place of its input and its output; how it ended. -/
def runShell (text : String) (input output : Option Nat) : Exec Int := do
  let m ← get
  let ending ← inChild do
    match input with
    | some n => setDescriptor 0 n
    | none => pure ()
    match output with
    | some n => setDescriptor 1 n
    | none => pure ()
    m.launch ["/bin/sh", "-c", text]
  match ending with
  | .exited n => return n
  | .killed n => return 256 + n

/-- The output of a name, opened if it is not open. -/
def outlet (isCommand appends : Bool) (name : String) : Exec Nat := do
  match (← get).outlets.find? fun o => o.isCommand == isCommand && o.name == name with
  | some o => return o.channel
  | none =>
    let channel ←
      if isCommand then
        flushAll
        makeChannel (.ofText "")
      else
        let opened : Except ReadFault Nat ← openPath (if appends then Opening.append else .output true) name
        match opened with
        | .ok channel => pure channel
        | .error e => fail ("cannot open \"" ++ name ++ "\" for output (" ++ e.wording ++ ")")
    modify fun m => { m with outlets := { name, isCommand, channel } :: m.outlets }
    return channel

/-- Writes to the output. -/
def put (s : String) : Exec Unit := do
  let m ← get
  let (now, rest) := flow (m.output ++ s)
  if now ≠ "" then
    let _ ← Shell.writeTo 1 now
  set { m with output := rest }

/-- Writes to a file or to a command. -/
def putTo (isCommand appends : Bool) (name s : String) : Exec Unit := do
  if !isCommand && (name = "/dev/stdout" || name = "-") then put s
  else if !isCommand && name = "/dev/stderr" then tell s
  else
    let channel ← outlet isCommand appends name
    for o in (← get).outlets do
      if o.channel == channel then
        let (now, rest) := flow (o.buffer ++ s)
        if now ≠ "" then writeChannel channel now
        modify fun m => { m with outlets := m.outlets.map fun o =>
          if o.channel == channel then { o with buffer := rest } else o }

/-- Closes an output; a command gets what was written to it, and how it ended is told. -/
def closeOutlet (o : Outlet) : Exec Int := do
  let o := ((← get).outlets.find? fun p => p.channel == o.channel).getD o
  if o.buffer ≠ "" then writeChannel o.channel o.buffer
  modify fun m => { m with outlets := m.outlets.filter fun p => p.channel != o.channel }
  if o.isCommand then runShell o.name (some o.channel) none else return 0

/-- Closes what has a name. -/
def close (name : String) : Exec Int := do
  let m ← get
  let mut result : Int := -1
  for o in m.outlets do
    if o.name == name then result ← closeOutlet o
  for i in m.inlets do
    if i.name == name then result := i.status
  modify fun m => { m with inlets := m.inlets.filter fun i => i.name != name }
  return result

/-- Closes everything: the commands first. -/
def closeAll : Exec Unit := do
  for o in (← get).outlets do
    if o.isCommand then
      let _ ← closeOutlet o
  flushAll

/-! ### Inputs -/

/-- The first record among characters, and what follows it, if its end is known. -/
def Divider.cut (d : Divider) (hasEnded : Bool) (s : List Char) : Option (List Char × List Char) :=
  match d with
  | .after c =>
    let record := s.takeWhile (· != c)
    match s.drop record.length with
    | _ :: rest => some (record, rest)
    | [] => if hasEnded && !s.isEmpty then some (record, []) else none
  | .emptyLines =>
    let s := s.dropWhile (· == '\n')
    let rec go : Nat → List Char → List Char → Option (List Char × List Char)
      | 0, _, _ => none
      | fuel + 1, found, s =>
        match s with
        | '\n' :: '\n' :: rest =>
          let rest := rest.dropWhile (· == '\n')
          if rest.isEmpty && !hasEnded then none else some (found.reverse, rest)
        | c :: rest => go fuel (c :: found) rest
        | [] => none
    match go (s.length + 1) [] s with
    | some r => some r
    | none =>
      if !hasEnded || s.isEmpty then none
      else some (if s.getLast? == some '\n' then s.dropLast else s, [])
  | .pattern r =>
    match findFull r s (s.length + 1) 0 with
    | some hit => if hit.stop < s.length || hasEnded then some (s.take hit.start, s.drop hit.stop) else none
    | none => if hasEnded && !s.isEmpty then some (s, []) else none

/-- The next record of an input, and the input after it. -/
def takeRecord : Nat → Inlet → Exec (Option String × Inlet)
  | 0, i => return (none, i)
  | fuel + 1, i => do
    match (← get).divider.cut i.hasEnded i.buffer with
    | some (record, buffer) => return (some (String.ofList record), { i with buffer })
    | none =>
      if i.hasEnded then return (none, { i with buffer := [] })
      else
        let more ← takeFrom i.channel bufferSize
        if more = "" then takeRecord fuel { i with hasEnded := true }
        else takeRecord fuel { i with buffer := i.buffer ++ more.toList }

/-- How often an input may be read for one record. -/
def inputFuel : Nat := 1000000

/-- Opens a file to read it. -/
def openInlet (name : String) : Exec (Except ReadFault Inlet) := do
  let standard := name = "-" || name = "/dev/stdin"
  let opened : Except ReadFault Nat ←
    if standard then
      match ← Shell.channelOf 0 with
      | some n => pure (.ok n)
      | none => pure (.error .badDescriptor)
    else openPath .input name
  match opened with
  | .error e => return .error e
  | .ok channel =>
    let isDirectory := !standard && ((← Tool.files).nodeOf? ⟨Shell.toBytes name⟩) matches some .directory
    if isDirectory then fail ("read error (" ++ ReadFault.isDirectory.wording ++ ")")
    return .ok { name, channel }

/-- What an argument sets, if it sets a variable. -/
def setting? (s : String) : Option (String × String) :=
  let name := String.ofList (s.toList.takeWhile isNameChar)
  let rest := s.toList.drop name.length
  match name.toList, rest with
  | c :: _, '=' :: value => if c.isDigit then none else some (name, String.ofList value)
  | _, _ => none

/-- Opens the next file of the main input; whether there is one. -/
def openMain : Nat → Exec Bool
  | 0 => return false
  | fuel + 1 => do
    let m ← get
    let last := wholePart (← global "ARGC").toNumber
    let enter (name : String) : Exec Bool := do
      match ← openInlet name with
      | .ok i =>
        setGlobal "FILENAME" (.text name)
        setGlobal "FNR" (.number 0)
        modify fun m => { m with main := some i, hasFile := true }
        return true
      | .error e => fail ("cannot open \"" ++ name ++ "\" (" ++ e.wording ++ ")")
    if (m.argument : Int) ≥ last then
      if m.hasFile then return false else enter "-"
    else
      modify fun m => { m with argument := m.argument + 1 }
      let arguments ← group (← groupOf "ARGV")
      let word ← textOf (arguments.get (toString m.argument))
      if word = "" then openMain fuel
      else
        match setting? word with
        | some (name, value) =>
          setVariable name (.input (unescape value))
          openMain fuel
        | none => enter word

/-- The next record of the main input. -/
def takeMain : Nat → Exec (Option String)
  | 0 => return none
  | fuel + 1 => do
    let m ← get
    if m.isFinished then return none
    match m.main with
    | some i =>
      let (record, i) ← takeRecord inputFuel i
      match record with
      | some s =>
        modify fun m => { m with main := some i }
        return some s
      | none =>
        modify fun m => { m with main := none }
        takeMain fuel
    | none =>
      if ← openMain (m.argument + (wholePart (← global "ARGC").toNumber).toNat + 2) then takeMain fuel
      else
        modify fun m => { m with isFinished := true }
        return none

/-- The next record of the main input, counted. -/
def nextMain : Exec (Option String) := do
  let record ← takeMain 1000000
  if record.isSome then
    count "NR"
    count "FNR"
  return record

/-- The next record of a file or of what a command writes; whether it can be read at all. -/
def nextOf (isCommand : Bool) (name : String) : Exec (Except Unit (Option String)) := do
  let found := (← get).inlets.find? fun i => i.isCommand == isCommand && i.name == name
  let inlet : Option Inlet ← match found with
    | some i => pure (some i)
    | none =>
      if isCommand then
        let channel ← makeChannel (.ofText "")
        flushAll
        let status ← runShell name none (some channel)
        pure (some { name, isCommand, channel, status })
      else
        match ← openInlet name with
        | .ok i => pure (some i)
        | .error _ => pure none
  match inlet with
  | none => return .error ()
  | some i =>
    let (record, i) ← takeRecord inputFuel i
    modify fun m => { m with
      inlets := i :: m.inlets.filter fun j => !(j.isCommand == isCommand && j.name == name) }
    return .ok record

end ClassLens.Tool.Records
