import ClassLens.Shell.Redirection
import ClassLens.Tool.Files
import ClassLens.Tool.Launching
import ClassLens.Tool.Scripting.Matching
import ClassLens.Tool.Scripting.Reader
import ClassLens.Tool.Scripting.Value

/-! # The state of a script

What a script works on: a memory of cells, lists, tables and functions, the names for them, the files that it
reads and writes, and the last match.

* `Machine`: the state.
* `Exec`: a part of a run; a `Stop` ends it early.
* `placeOf`: what a variable stands for. Names of a block hide names of the blocks around it, and all of them
  hide the names that are known everywhere.
* `takeRecord`, `putTo`: what is read, and what is written.

Nothing in the memory is ever taken away; references stay good. -/

namespace ClassLens.Tool.Scripting

open Shell (Run Opening openPath makeChannel setDescriptor writeChannel takeFrom inChild tell)

/-- A function with the names that are known where it stands. -/
structure Code where
  body : List Act
  scope : List (String × Nat) := []
  /-- Whether it has a name, and knows the names of the whole script. -/
  isNamed : Bool := false

/-- A file, or what a command reads or writes. -/
structure Handle where
  channel : Nat
  isOutput : Bool := false
  /-- What has been read and not been used. -/
  ahead : List Char := []
  /-- What waits to be written. -/
  pending : String := ""
  hasEnded : Bool := false
  /-- How many records have been read. -/
  count : Nat := 0
  /-- Whether one has been read since the file was opened. -/
  hasRead : Bool := false
  /-- The command that gets what is written, or how the command has ended that was read from. -/
  command : Option String := none
  status : Option Nat := none
  /-- The text that is read instead of a file, or the cell that gets what is written. -/
  memory : Option String := none
  cell : Option Nat := none

/-- What comes back at the end of a block. -/
inductive Kept where
  | cell (n : Nat) (v : Value)
  | list (n : Nat) (cells : Array Nat)
  | table (n : Nat) (t : Table String Nat)

/-- Why a run goes on elsewhere. -/
inductive Stop where
  /-- A fault, which the script may catch. -/
  | die (v : Value)
  | exit (status : Nat)
  | return (items : List Value)
  /-- A loop of a label is left, goes on, or starts its turn anew. -/
  | last (label : String)
  | next (label : String)
  | redo (label : String)
  /-- The script has run too long. -/
  | exhausted

/-- Something that has been called and goes on. -/
structure Frame where
  /-- The function; nothing for what a fault may end. -/
  code : Option Nat
  /-- The line of the call. -/
  line : Nat
  wants : Option Bool
  /-- The cells of its arguments. -/
  arguments : List Nat := []

/-- The state of a script. -/
structure Machine where
  /-- What faults call the script. -/
  source : String
  launch : Launch
  cells : Array Value := #[]
  lists : Array (Array Nat) := #[]
  tables : Array (Table String Nat) := #[]
  codes : Array Code := #[]
  /-- Names that are known everywhere, each with the sign of its variable. -/
  globals : Table String Nat := .empty
  scope : List (String × Nat) := []
  /-- The names that the whole script knows. -/
  outer : List (String × Nat) := []
  /-- How many blocks are being run. -/
  depth : Nat := 0
  routines : Table String Nat := .empty
  /-- What references belong to, by the address of what they point to. -/
  classes : List (Nat × String) := []
  /-- The arguments of the function that is being run, and whether many values are wanted of it. -/
  arguments : Nat := 0
  wants : Option Bool := none
  hit : Option Hit := none
  /-- Where the next match in a cell's text is looked for, and whether it may be empty there. -/
  positions : List (Nat × Nat × Bool) := []
  kept : List Kept := []
  handles : Table String Handle := .empty
  /-- The file that was read last, and the one that is written to. -/
  lastHandle : Option String := none
  selected : String := "STDOUT"
  /-- How many files were opened that have no name. -/
  opened : Nat := 0
  line : Nat := 1
  /-- The number of the last fault of the system. -/
  fault : Nat := 0
  /-- Expressions that were read before. -/
  matchers : List ((String × String) × Matcher) := []
  /-- The tests that have started and not ended, with how often they have held. -/
  ranges : List (Nat × Nat) := []
  /-- Where the keys of tables are gone through. -/
  cursors : List (Nat × Nat) := []
  /-- Variables that keep their values between the turns of their block. -/
  lasting : Table String Nat := .empty
  /-- The functions that are run before the script and after it. -/
  beginnings : List Nat := []
  endings : List Nat := []
  /-- Whether arguments are read as files, and the suffix for what they were before they are changed. -/
  readsArguments : Bool := false
  inPlace : Option String := none
  random : Nat := 0
  /-- Whether names must not stand for what they name. -/
  isStrict : Bool := false
  /-- The cautions that are given, whether they are given where nothing is said of them, and those that wait for
  the script's own function for them. -/
  cautions : Option Cautions := none
  isLoud : Bool := false
  queued : List String := []
  /-- The cells whose text has been found to be no number, and those that only fill a list up. -/
  judged : List Nat := []
  gaps : List Nat := []
  /-- The files whose text is UTF-8; the empty name stands for all that are not standard ones. -/
  encoded : List String := []
  /-- Names of files that were opened once. -/
  known : List String := []
  /-- How deep functions call one another, and which ones. -/
  calls : Nat := 0
  frames : List Frame := []
  /-- The place that was asked about last, and the names of directories that are gone through, with how many of
  them were. -/
  asked : Option Location := none
  folders : List (String × List String × Nat) := []

/-- A part of a run. -/
abbrev Exec := ExceptT Stop (StateT Machine Run)

/-- Goes on where something was ended early. -/
def tryTo {α : Type} (body : Exec α) : Exec (Except Stop α) := fun m => do
  let (r, m) ← body.run m
  return (.ok r, m)

/-! ### The memory -/

/-- Something with a value: a cell, or a value that is in no cell. -/
inductive Item where
  | cell (n : Nat)
  | value (v : Value)
  deriving Inhabited

/-- A new cell. -/
def newCell (v : Value) : Exec Nat := do
  let n := (← get).cells.size
  modify fun m => { m with cells := m.cells.push v }
  return n

/-- The value of a cell. -/
def cellValue (n : Nat) : Exec Value := return ((← get).cells[n]?).getD .undefined

/-- Puts a value into a cell; the next match in it is looked for from the start. -/
def putCell (n : Nat) (v : Value) : Exec Unit := modify fun m =>
  let m := { m with cells := m.cells.set! n v }
  let m := if m.judged.isEmpty then m else { m with judged := m.judged.filter (· != n) }
  let m := if m.gaps.isEmpty then m else { m with gaps := m.gaps.filter (· != n) }
  if m.positions.isEmpty then m else { m with positions := m.positions.filter fun p => p.1 != n }

/-- The value of an item. -/
def Item.read : Item → Exec Value
  | cell n => cellValue n
  | value v => return v

/-- A cell with the value of an item: its own one if it has one. -/
def Item.toCell : Item → Exec Nat
  | cell n => return n
  | value v => newCell v

/-- The values of items. -/
def readAll (items : List Item) : Exec (List Value) := items.mapM Item.read

/-- A new list. -/
def newList (cells : Array Nat) : Exec Nat := do
  let n := (← get).lists.size
  modify fun m => { m with lists := m.lists.push cells }
  return n

/-- The cells of a list. -/
def listCells (n : Nat) : Exec (Array Nat) := return ((← get).lists[n]?).getD #[]

/-- Puts cells into a list. -/
def putList (n : Nat) (cells : Array Nat) : Exec Unit := modify fun m =>
  { m with lists := m.lists.set! n cells }

/-- A new table. -/
def newTable : Exec Nat := do
  let n := (← get).tables.size
  modify fun m => { m with tables := m.tables.push .empty }
  return n

/-- The entries of a table. -/
def tableOf (n : Nat) : Exec (Table String Nat) := return ((← get).tables[n]?).getD .empty

/-- Puts entries into a table. -/
def putTable (n : Nat) (t : Table String Nat) : Exec Unit := modify fun m =>
  { m with tables := m.tables.set! n t }

/-- Puts values into new cells. -/
def cellsFor (vs : List Value) : Exec (Array Nat) := do
  let m ← get
  let first := m.cells.size
  set { m with cells := vs.foldl Array.push m.cells }
  return (Array.range vs.length).map (· + first)

/-- Fills a table with keys and values that stand one after the other. -/
def fillTable (n : Nat) : List Value → Exec Unit
  | [] => return ()
  | [key] => fillEntry key .undefined
  | key :: value :: rest => do
    fillEntry key value
    fillTable n rest
where
  /-- Puts one value there. -/
  fillEntry (key value : Value) : Exec Unit := do
    let cell ← newCell value
    putTable n ((← tableOf n).insert key.toText cell)

/-- New memory for a variable. -/
def newPlace : Shape → Exec Nat
  | .one => newCell .undefined
  | .many => newList #[]
  | .keyed => newTable

/-- A variable that is known everywhere, made where it is not there. -/
def globalPlace (shape : Shape) (name : String) : Exec Nat := do
  let key := shape.sign ++ (if name.startsWith "::" then (name.drop 2).toString else name)
  match (← get).globals.get? key with
  | some n => return n
  | none =>
    let n ← newPlace shape
    modify fun m => { m with globals := m.globals.insert key n }
    return n

/-- What a variable stands for. -/
def placeOf (shape : Shape) (name : String) : Exec Nat := do
  let m ← get
  if shape = .many ∧ name = "_" then return m.arguments
  match m.scope.lookup (shape.sign ++ name) with
  | some n => return n
  | none => globalPlace shape name

/-- Makes a new variable of a block known. -/
def bind (shape : Shape) (name : String) (place : Nat) : Exec Unit := modify fun m =>
  let scope := (shape.sign ++ name, place) :: m.scope
  { m with
    scope
    outer := if m.depth = 0 then scope else m.outer }

/-- The value of a variable that is known everywhere. -/
def global (name : String) : Exec Value := do cellValue (← globalPlace .one name)

/-- Gives a variable that is known everywhere a value. -/
def setGlobal (name : String) (v : Value) : Exec Unit := do putCell (← globalPlace .one name) v

/-! ### Faults -/

/-- What the words say of where a fault stands. No line of the script holds what comes from the options. -/
def whereabouts : Exec String := do
  let m ← get
  let separator ← global "/"
  let reading := match m.lastHandle with
    | some name =>
      match m.handles.get? name with
      | some h =>
        if h.count = 0 then ""
        else
          let unit := if separator.toText = "\n" then "line" else "chunk"
          let shown := if name = "ARGV" then "<>" else "<" ++ name ++ ">"
          ", " ++ shown ++ " " ++ unit ++ " " ++ toString h.count
      | none => ""
    | none => ""
  let here := if m.line = 0 then "" else " at " ++ m.source ++ " line " ++ toString m.line
  return here ++ reading ++ ".\n"

/-- Whether cautions of a kind are given. -/
def Machine.heeds (m : Machine) (kind : String) : Bool :=
  match m.cautions with
  | some w => w.covers kind
  | none => m.isLoud

/-- The function that the script has for cautions, unless it is being run. -/
def cautionHandler? : Exec (Option Nat) := do
  let handlers ← tableOf (← globalPlace .keyed "SIG")
  match handlers.get? "__WARN__" with
  | some n =>
    match ← cellValue n with
    | .code n => return if (← get).frames.any (fun f => f.code == some n) then none else some n
    | _ => return none
  | none => return none

/-- Gives a caution, at once or to the function that the script has for them. -/
def giveCaution (text : String) : Exec Unit := do
  if (← cautionHandler?).isSome then modify fun m => { m with queued := m.queued ++ [text] }
  else tell text

/-- Gives a caution of a kind. One that is `severe` is given unless the script says otherwise. -/
def caution (kind message : String) (severe : Bool) : Exec Unit := do
  let m ← get
  if m.heeds kind || (severe && m.cautions.isNone) then
    let text := message ++ (← whereabouts)
    if m.cautions.any (·.isFatal kind) then throw (.die (.text text))
    giveCaution text

/-- Ends with a fault that says where it stands. -/
def fail {α : Type} (message : String) : Exec α := do
  throw (.die (.text (message ++ (← whereabouts))))

/-- What the text of a name stands for, where that is allowed. -/
def named (shape : Shape) (what : String) (v : Value) : Exec Nat := do
  if v.kind ≠ "" then fail ("Not " ++ what ++ " reference")
  else if (← get).isStrict then
    fail ("Can't use string (\"" ++ (v.toText.take 32).toString ++ "\"" ++ (if v.toText.length > 32 then "..." else "") ++
      ") as " ++ what ++ " ref while \"strict refs\" in use")
  else globalPlace shape v.toText

/-- Takes note of a fault of the system. -/
def setFault (n : Nat) : Exec Unit := modify fun m => { m with fault := n }

/-- The expression of a text with flags. -/
def matcherOf (flags source : String) : Exec Matcher := do
  let flags := String.ofList (flags.toList.filter "imsxn".toList.contains)
  match (← get).matchers.find? fun e => e.1.1 == flags && e.1.2 == source with
  | some e => return e.2
  | none =>
    match Matcher.parse flags source with
    | .ok r =>
      modify fun m => { m with matchers := (((flags, source), r) :: m.matchers).take 40 }
      return r
    | .error e =>
      let (words, place) : String × Nat :=
        if e = "missing closing parenthesis" then
          ("Unmatched (", ((source.toList.takeWhile (· != '(')).length + 1))
        else if e = "unmatched closing parenthesis" then
          ("Unmatched )", ((source.toList.takeWhile (· != ')')).length + 1))
        else if e = "quantifier does not follow a repeatable item" then ("Quantifier follows nothing", 1)
        else if e.startsWith "missing terminating ]" then
          ("Unmatched [", ((source.toList.takeWhile (· != '[')).length + 1))
        else (e, source.length)
      fail (words ++ " in regex; marked by <-- HERE in m/" ++ (source.take place).toString ++ " <-- HERE " ++
        (source.drop place).toString ++ "/")

/-! ### Files -/

/-- A text as bytes: characters that have no byte make all of it UTF-8. -/
def toOutput (s : String) : String :=
  if s.toList.all fun c => c.toNat < 256 then s else Shell.ofText s

/-- How much is read at a time, and kept back before it is written. -/
def blockSize : Nat := 8192

/-- Changes a file. -/
def changeHandle (name : String) (f : Handle → Handle) : Exec Unit := modify fun m =>
  match m.handles.get? name with
  | some h => { m with handles := m.handles.insert name (f h) }
  | none => m

/-- Writes what waits for a file. -/
def flush (name : String) : Exec Unit := do
  match (← get).handles.get? name with
  | some h =>
    if h.pending ≠ "" then
      changeHandle name fun h => { h with pending := "" }
      if name = "STDOUT" then let _ ← Shell.writeTo 1 h.pending
      else writeChannel h.channel h.pending
  | none => pure ()

/-- Writes what waits for any file. -/
def flushAll : Exec Unit := do
  for name in (← get).handles.keys do flush name

/-- The text that UTF-8 bytes stand for, each of them given as a character; other ones stay as they are. -/
def decodedText (s : String) : String := (String.fromUTF8? ⟨(Shell.toBytes s).toArray⟩).getD s

/-- Whether the text of a file is UTF-8. -/
def Machine.encodes (m : Machine) (name : String) : Bool :=
  m.encoded.contains name || (m.encoded.contains "" && !(["STDIN", "STDOUT", "STDERR"].contains name))

/-- Says by a word for it what the text of a file is. -/
def setLayer (name layer : String) : Exec Unit := modify fun m =>
  let others := m.encoded.filter (· != name)
  let isText := (layer.toLower.replace "-" "").splitOn "utf8" |>.length
  { m with encoded := if isText > 1 then name :: others else others }

/-- Writes texts to a file, one after the other; whether it is open. Cautions call the operation by a word. -/
def putTo (word name : String) (texts : List String) : Exec Bool := do
  let isEncoded := (← get).encodes name
  if !isEncoded then
    for s in texts do
      if s.toList.any fun c => c.toNat ≥ 256 then caution "utf8" ("Wide character in " ++ word) true
  let s := if isEncoded then Shell.ofText (String.join texts) else String.join (texts.map toOutput)
  if name = "STDERR" then
    tell s
    return true
  match (← get).handles.get? name with
  | some h =>
    if !h.isOutput then return false
    if let some n := h.cell then
      putCell n (.text ((← cellValue n).toText ++ s))
      return true
    let pending := h.pending ++ s
    let isEager := name == (← get).selected && (← global "|").holds
    if isEager || pending.length > blockSize then
      changeHandle name fun h => { h with pending }
      flush name
    else changeHandle name fun h => { h with pending }
    return true
  | none => return false

/-- The variables that the script hands on to programs. -/
def handOn : Exec Unit := do
  let t ← tableOf (← globalPlace .keyed "ENV")
  let cells := (← get).cells
  let values := t.entries.map fun (name, n) => (name, ((cells[n]?).getD .undefined).toText)
  Shell.modifyShell fun s =>
    let kept := s.vars.entries.filter fun e => !e.2.isExported
    let table := kept.foldl (fun (t : Table String Shell.Variable) e => t.insert e.1 e.2) .empty
    { s with vars := values.foldl (fun t (name, value) =>
        t.insert name { value := some value, isExported := true }) table }

/-- What ends a run, as a program sees it: the status, or the signal. -/
def statusOf : Ending → Nat
  | .exited n => n % 256 * 256
  | .killed n => n

/-- Signs for which a command is given to a shell. -/
def shellSigns : List Char := "$&*()\x7b\x7d[]'\";\\|?<>~\x60\n".toList

/-- Puts a command in the place of the process: some words, or a text that a shell runs. -/
def become (launch : Launch) (words : List String) : Run Nat := do
  match words with
  | [text] =>
    if text.toList.any shellSigns.contains then launch ["/bin/sh", "-c", text]
    else launch (wordsIn text.toList)
  | words => launch words

/-- Whether there is a program for some words. -/
def hasProgram (words : List String) : Exec Bool := do
  let words := match words with
    | [text] => if text.toList.any shellSigns.contains then ["/bin/sh"] else wordsIn text.toList
    | words => words
  let name := words.headD ""
  let t ← Tool.files
  let s ← Shell.shell
  let dirs := ((s.value? "PATH").getD "/usr/local/bin:/usr/bin:/bin").splitOn ":"
  let paths := if name.toList.contains '/' then [name] else dirs.map fun dir => dir ++ "/" ++ name
  return paths.any fun p => t.nodeOf? ⟨Shell.toBytes p⟩ matches some (.file _ true)

/-- Runs a command, with channels in the place of its input and its output; how it ended. -/
def runCommand (words : List String) (input output : Option Nat) : Exec Nat := do
  flushAll
  if !(← hasProgram words) then
    setFault 2
    return 65535
  handOn
  let m ← get
  let ending ← inChild do
    match input with
    | some n => setDescriptor 0 n
    | none => pure ()
    match output with
    | some n => setDescriptor 1 n
    | none => pure ()
    become m.launch words
  return statusOf ending

/-- Opens the standard input where it has not been read. -/
def openStandard : Exec Unit := do
  if !(← get).handles.contains "STDIN" then
    match ← Shell.channelOf 0 with
    | some channel => modify fun m => { m with handles := m.handles.insert "STDIN" { channel } }
    | none => pure ()

/-- Reads a block more of a file; whether there was one. -/
def readBlockOf (name : String) : Exec Bool := do
  match (← get).handles.get? name with
  | some h =>
    if h.hasEnded then return false
    flush name
    let more ← takeFrom h.channel blockSize
    if more = "" then
      changeHandle name fun h => { h with hasEnded := true }
      return false
    else
      changeHandle name fun h => { h with ahead := h.ahead ++ more.toList }
      return true
  | none => return false

/-- Reads blocks of a file until so many characters have been read and not been used. -/
def fillAhead (name : String) (size : Nat) : Nat → Exec Unit
  | 0 => return ()
  | fuel + 1 => do
    match (← get).handles.get? name with
    | some h =>
      if h.ahead.length < size && !h.hasEnded then
        let _ ← readBlockOf name
        fillAhead name size fuel
    | none => return ()

/-- The first record of some characters and what follows it, where its end is known. -/
def cutRecord (separator : Option (List Char)) (hasEnded : Bool) (s : List Char) :
    Option (List Char × List Char) :=
  let whole : Option (List Char × List Char) := if hasEnded && !s.isEmpty then some (s, []) else none
  match separator with
  | none => whole
  | some [] =>
    -- records end at empty lines
    let s := s.dropWhile (· == '\n')
    let rec go : List Char → List Char → Option (List Char × List Char)
      | found, '\n' :: '\n' :: rest =>
        let rest := rest.dropWhile (· == '\n')
        if rest.isEmpty && !hasEnded then none else some (('\n' :: '\n' :: found).reverse, rest)
      | found, c :: rest => go (c :: found) rest
      | _, [] => if hasEnded && !s.isEmpty then some (s, []) else none
    go [] s
  | some [c] =>
    let record := s.takeWhile (· != c)
    match s.drop record.length with
    | d :: rest => some (record ++ [d], rest)
    | [] => whole
  | some stop =>
    let rec find : List Char → List Char → Option (List Char × List Char)
      | found, c :: rest =>
        if stop.isPrefixOf (c :: rest) then some (found.reverse ++ stop, (c :: rest).drop stop.length)
        else find (c :: found) rest
      | _, [] => whole
    find [] s

/-- Reads blocks up to the end of the file's next record. Where one record is wanted and records are whole files,
an empty file has an empty one. -/
def takeBlocks (name : String) (separator : Option (List Char)) (alone : Bool) : Nat → Exec (Option String)
  | 0 => return none
  | fuel + 1 => do
    match (← get).handles.get? name with
    | none => return none
    | some h =>
      match cutRecord separator h.hasEnded h.ahead with
      | some (record, ahead) =>
        changeHandle name fun h => { h with ahead, count := h.count + 1, hasRead := true }
        modify fun m => { m with lastHandle := some name }
        return some (String.ofList record)
      | none =>
        if h.hasEnded then
          modify fun m => { m with
            lastHandle := some name
            fault := 0 }
          if alone && separator.isNone && !h.hasRead then
            changeHandle name fun h => { h with count := h.count + 1, hasRead := true }
            return some ""
          else return none
        else
          let _ ← readBlockOf name
          takeBlocks name separator alone fuel

/-- The next record of a file. -/
def takeRecord (name : String) (alone : Bool) : Exec (Option String) := do
  if name = "STDIN" then openStandard
  let separator : Option (List Char) := match ← global "/" with
    | .undefined => none
    | v => some v.toText.toList
  match ← global "/" with
  | .cell n =>
    -- records of one length
    let size := (← cellValue n).toInt.toNat
    fillAhead name size 1000000
    match (← get).handles.get? name with
    | some h =>
      if h.ahead.isEmpty then return none
      else
        changeHandle name fun h => { h with ahead := h.ahead.drop size, count := h.count + 1 }
        return some (String.ofList (h.ahead.take size))
    | none => return none
  | _ =>
    let r ← takeBlocks name separator alone 1000000
    return if (← get).encodes name then r.map decodedText else r

/-- Whether a file has nothing more to read. -/
def isAtEnd (name : String) : Exec Bool := do
  if name = "STDIN" then openStandard
  match (← get).handles.get? name with
  | some h =>
    if !h.ahead.isEmpty then return false else return !(← readBlockOf name)
  | none => return true

/-- Closes a file; whether it was open and all went well. -/
def closeHandle (name : String) : Exec Bool := do
  flush name
  if name = "STDOUT" then
    Shell.closeDescriptor 1
    return true
  match (← get).handles.get? name with
  | none => return false
  | some h =>
    modify fun m => { m with handles := m.handles.erase name }
    match h.command, h.status with
    | some text, _ =>
      let status ← runCommand [text] (some h.channel) none
      setGlobal "?" (.ofNat status)
      return status = 0
    | none, some status =>
      setGlobal "?" (.ofNat status)
      return status = 0
    | none, none => return true

/-- Opens a path under a name; whether that is possible. -/
def openFile (name : String) (how : Opening) (path : String) : Exec Bool := do
  let _ ← closeHandle name
  let opened : Except ReadFault Nat ← openPath how path
  match opened with
  | .ok channel =>
    let isOutput : Bool := how != .input
    setFault 25
    modify fun m => { m with handles := m.handles.insert name { channel, isOutput } }
    return true
  | .error e =>
    setFault (e.number?.getD 5)
    return false

/-- Opens a command under a name, to read what it writes or to write what it reads. -/
def openCommand (name : String) (reads : Bool) (words : List String) : Exec Bool := do
  let _ ← closeHandle name
  let channel ← makeChannel (.ofText "")
  if reads then
    let status ← runCommand words none (some channel)
    if status = 65535 then return false
    modify fun m => { m with handles := m.handles.insert name { channel, status := some status } }
    setFault 29
  else
    let h : Handle := { channel, isOutput := true, command := some (" ".intercalate words) }
    modify fun m => { m with handles := m.handles.insert name h }
    setFault 29
  return true

/-- The end of the file that is read of those that the arguments name. -/
def endArgument : Exec Unit := do
  modify fun m => { m with handles := match m.handles.get? "ARGV" with
    | some h => m.handles.insert "ARGV" { h with hasEnded := true, ahead := [] }
    | none => m.handles }
  if (← get).selected = "ARGVOUT" then
    let _ ← closeHandle "ARGVOUT"
    modify fun m => { m with selected := "STDOUT" }

/-- Opens the next file that the arguments name; whether there is one. -/
def nextArgument : Nat → Exec Bool
  | 0 => return false
  | fuel + 1 => do
    let place ← globalPlace .many "ARGV"
    let words ← listCells place
    let m ← get
    let count := ((m.handles.get? "ARGV").map Handle.count).getD 0
    let enter (path : String) (channel : Nat) : Exec Unit := do
      setGlobal "ARGV" (.text path)
      modify fun m => { m with
        readsArguments := true
        handles := m.handles.insert "ARGV" { channel, count } }
    match words[0]? with
    | none =>
      if m.readsArguments then return false
      else
        match ← Shell.channelOf 0 with
        | some channel =>
          enter "-" channel
          return true
        | none => return false
    | some cell =>
      let path := (← cellValue cell).toText
      putList place (words.extract 1 words.size)
      modify fun m => { m with readsArguments := true }
      if path = "-" then
        match ← Shell.channelOf 0 with
        | some channel =>
          enter path channel
          return true
        | none => nextArgument fuel
      else
        match ← openPath .input path with
        | .error e =>
          setFault (e.number?.getD 5)
          modify fun m => { m with lastHandle := some "ARGV" }
          caution "inplace" ("Can't open " ++ path ++ ": " ++ e.wording) true
          nextArgument fuel
        | .ok channel =>
          setFault 25
          match m.inPlace with
          | none =>
            enter path channel
            return true
          | some suffix =>
            let isRegular : Bool := (← Tool.files).nodeOf? (pathOf path) matches some (.file ..)
            if !isRegular then
              modify fun m => { m with lastHandle := some "ARGV" }
              caution "inplace" ("Can't do inplace edit: " ++ path ++ " is not a regular file") true
              return ← nextArgument fuel
            let content ← Shell.drain channel
            enter path (← makeChannel (.ofText content))
            if suffix ≠ "" then
              let _ ← openFile "ARGVOUT" (.output true) (if suffix.toList.contains '*'
                then suffix.replace "*" path else path ++ suffix)
              let _ ← putTo "print" "ARGVOUT" [content]
              let _ ← closeHandle "ARGVOUT"
            let _ ← openFile "ARGVOUT" (.output true) path
            modify fun m => { m with selected := "ARGVOUT" }
            return true

/-- The next record of the files that the arguments name. -/
def takeArgument (alone : Bool) : Nat → Exec (Option String)
  | 0 => return none
  | fuel + 1 => do
    let isOpen := ((← get).handles.get? "ARGV").any fun h => !h.hasEnded || !h.ahead.isEmpty
    if isOpen then
      match ← takeRecord "ARGV" alone with
      | some s => return some s
      | none =>
        endArgument
        takeArgument alone fuel
    else
      endArgument
      let words ← listCells (← globalPlace .many "ARGV")
      if ← nextArgument (words.size + 2) then takeArgument alone fuel
      else
        modify fun m => { m with readsArguments := false }
        return none

/-- Closes everything: what waits is written, and commands get what was written for them. -/
def closeAll : Exec Unit := do
  flush "STDOUT"
  for name in (← get).handles.keys do
    if name ≠ "STDOUT" then
      let _ ← closeHandle name

end ClassLens.Tool.Scripting
