import ClassLens.Extraction.Outcome
import ClassLens.Shell.Floating
import ClassLens.Shell.Pattern

/-! # The state of a shell

A shell and the programs that it runs share a file tree and channels: what one writes into a channel
another one reads from it. Everything runs one after the other: a program of a pipe starts when the one
before it has ended, and a command beside the script when the script waits or ends.

* `World`: what all processes share.
* `Shell`: what one shell has for itself; a subshell works on a copy.
* `Run`: something that runs, and that an `Escape` may end early.
* `writeTo`, `readAll`, `readSome`: channels by their descriptors. -/

namespace ClassLens.Shell

/-- The values of a variable that has many, under numbers or under texts. -/
inductive Items where
  | numbered (t : Table Nat String)
  | keyed (t : Table String String)

/-- A variable. One that was only exported has no value yet. -/
structure Variable where
  value : Option String := none
  isExported : Bool := false
  isReadonly : Bool := false
  items : Option Items := none
  /-- Whether its values are numbers, those of the expressions that are assigned. -/
  isWhole : Bool := false
  /-- Whether the letters of its values become great ones or small ones. -/
  letters : Option Bool := none
  /-- Whether it stands for the variable that its value names. -/
  refers : Bool := false

/-- The value of a variable, which is the first one of many. -/
def Variable.text? (v : Variable) : Option String :=
  match v.items with
  | none => v.value
  | some (.numbered t) => t.get? 0
  | some (.keyed t) => t.get? "0"

/-- What a descriptor leads to. -/
inductive Channel where
  /-- A row of bytes that are written at its end and read from its start, in two parts. -/
  | queue (front : List Char) (back : String)
  /-- A file at a place in it. -/
  | file (at_ : Location) (offset : Nat) (appends : Bool)
  /-- The device that holds nothing. -/
  | nothing
  /-- The device that holds zeros without end. -/
  | zeros

/-- A channel that holds a text. -/
def Channel.ofText (s : String) : Channel := .queue [] s

/-- The bytes that wait in a channel. -/
def Channel.waiting : Channel → String
  | .queue front back => String.ofList front ++ back
  | _ => ""

/-- The number under which it is kept what is done after a command has failed. -/
def errorTrap : Nat := 65

/-- What one shell has for itself. -/
structure Shell where
  dialect : Dialect := .plain
  /-- What the shell is called, which `$0` gives. -/
  name : String := "sh"
  positional : List String := []
  vars : Table String Variable := .empty
  functions : Table String (Nat × Command) := .empty
  /-- How the last command ended. -/
  status : Nat := 0
  /-- The number that `$$` gives. -/
  number : Nat := 0
  /-- The number of the process, and of the one that started it. -/
  process : Nat := 0
  parent : Nat := 1
  /-- The channel that each descriptor leads to. -/
  descriptors : Table Nat Nat := .empty
  /-- The options that are on, by their letters. -/
  options : List Char := []
  /-- What is done at a signal, or at the end for number zero; nothing is done for an empty text. -/
  traps : Table Nat String := .empty
  /-- The directory that relative paths start from, and the path by which the shell knows it. -/
  directory : Location := []
  place : String := "/"
  /-- The permissions that new files do not get. -/
  mask : Nat := 18
  /-- How far the process stands back behind others. -/
  niceness : Int := 0
  line : Nat := 1
  /-- The builtin command that is at work, as faults name it. -/
  builtin : Option String := none
  /-- How many loops are being run. -/
  loops : Nat := 0
  /-- How many functions are being run. -/
  calls : Nat := 0
  /-- How many texts are being run that commands ran. -/
  depth : Nat := 0
  /-- The variables to be restored when a function ends, for each that is being run. -/
  locals : List (List (String × Option Variable)) := []
  /-- The last command that was started beside the script. -/
  lastJob : Option Nat := none
  /-- The commands that were started beside the script, by the numbers under which they are known. -/
  children : List (Nat × Nat) := []
  /-- Where `getopts` stands in a word. -/
  optionPlace : Nat := 0
  /-- How the last substitution in a command's words ended. -/
  substituted : Option Nat := none
  /-- How the last command before a trap ended, while the trap is being run. -/
  beforeTrap : Option Nat := none
  /-- How the commands of the last pipe ended. -/
  pipeEnds : List Nat := []
  /-- The options of the extended language that are on, by their names. -/
  features : List String := []
  /-- The functions that are being run, the last one first, each with the line of its call. -/
  callers : List (String × Nat) := []
  /-- Whether all of the script is an argument. -/
  isArgument : Bool := false
  /-- The file that what is being run was read from, where faults name it and not the shell. -/
  source : Option String := none
  /-- What faults in the text of a script say of where it comes from. -/
  label : String := ""
  /-- The directories to return to, and the names that stand for commands. -/
  places : List String := []
  aliases : List (String × String) := []

/-- A command beside the script that has not run yet. -/
structure Job where
  number : Nat
  /-- The process that started it. -/
  parent : Nat
  command : Command
  shell : Shell
  /-- When it was started. -/
  start : Nat := 0

/-- A time at which processes get a signal: those whose numbers are not less than the first one. -/
structure Alarm where
  time : Nat
  first : Nat
  signal : Nat
  /-- Whether the signal is for the first one; the others end with it. -/
  isPersonal : Bool := false
  /-- After how long another signal follows that ends them all. -/
  kills : Option Nat := none

/-- What all processes share. -/
structure World where
  files : FileTree
  channels : Array Channel := #[]
  nextProcess : Nat := 100
  jobs : List Job := []
  /-- The number from which on jobs are looked at: those of the job that is being run. -/
  firstJob : Nat := 0
  /-- How the jobs that have run ended. -/
  ended : Table Nat Ending := .empty
  /-- The processes that are being run, with the signals that do not end them and whether they are
  noticed. -/
  guards : Table Nat (List (Nat × Bool)) := .empty
  /-- The signals that a process has yet to notice. -/
  pending : List (Nat × Nat) := []
  /-- The here-documents of all scripts, by their numbers, and the next number. -/
  documents : Table Nat Word := .empty
  nextDocument : Nat := 0
  /-- The processes that others have ended by a signal. -/
  doomed : Table Nat Nat := .empty
  /-- The time since the start, in billionths of a second; only waiting takes time. -/
  clock : Nat := 0
  alarms : List Alarm := []
  /-- The first processes of the alarms that have come. -/
  rung : List Nat := []
  /-- The last number that was drawn by lot. -/
  drawn : Nat := 0

/-- What runs and what it runs in. -/
structure State where
  world : World
  shell : Shell

/-- What ends a run early. -/
inductive Escape where
  | exit (status : Nat)
  /-- So many loops are left. -/
  | leave (loops : Nat)
  /-- So many loops are left but one, which goes on. -/
  | again (loops : Nat)
  /-- A function is left. -/
  | back (status : Nat)
  /-- A fault that a shell does not go on after. -/
  | fault
  /-- A signal ends the process. -/
  | killed (signal : Nat)

/-- Something that runs. -/
abbrev Run := ExceptT Escape (StateM State)

/-- The shell that runs. -/
def shell : Run Shell := return (← get).shell

/-- What all processes share. -/
def world : Run World := return (← get).world

/-- Changes the shell. -/
def modifyShell (f : Shell → Shell) : Run Unit := modify fun s => { s with shell := f s.shell }

/-- Changes what all processes share. -/
def modifyWorld (f : World → World) : Run Unit := modify fun s => { s with world := f s.world }

/-- Goes on where something was ended early. -/
def attempt {α : Type} (body : Run α) : Run (Except Escape α) := fun s =>
  let (r, s) := body.run s
  (.ok r, s)

/-- How deep texts that commands run may stand in one another before there is no room left. -/
def deepest : Nat := 3000

/-- Runs a text within another one. Without room for it the process is killed. -/
def nested (body : Run Nat) : Run Nat := do
  let before := (← shell).depth
  if before ≥ deepest then throw (.killed 11)
  modifyShell fun s => { s with depth := before + 1 }
  let r ← attempt body
  modifyShell fun s => { s with depth := before }
  match r with
  | .ok n => return n
  | .error e => throw e

/-! ### Time -/

/-- When everything starts, in billionths of a second since the start of 1970. -/
def startOfRun : Nat := 1780272000000000000

/-- When a place was last changed, in billionths of a second since the start of 1970. -/
def timeOf (t : FileTree) (here : Location) : Int :=
  startOfRun + (t.times.get? here).getD (-8640000000000000)

/-- Whether a signal ends a program that does not expect it: none does nothing, and neither do those
that tell of children, of continuing, of urgent data and of window sizes. -/
def endsProgram (signal : Nat) : Bool :=
  signal ∉ [0, 17, 18, 23, 28]

/-- Ends the process if another one has ended it by a signal. -/
def reap : Run Unit := do
  match (← world).doomed.get? (← shell).process with
  | some signal => throw (.killed signal)
  | none => pure ()

/-- Lets an alarm come: what does not expect its signal ends. -/
def ring (a : Alarm) : Run Unit := modifyWorld fun w =>
  let running := w.guards.entries.filter fun e => a.first ≤ e.1
  let known (e : Nat × List (Nat × Bool)) : Option Bool :=
    if a.signal = 9 then none else (e.2.find? fun g => g.1 == a.signal).map Prod.snd
  let ends := (running.filter fun e => (known e).isNone && endsProgram a.signal).map Prod.fst
  let notice := (running.filter fun e => known e == some true).map Prod.fst
  let isMet := a.isPersonal && ((w.guards.get? a.first).any fun g => (known (a.first, g)).isSome)
  let ends := if isMet then [] else ends
  let notice := if a.isPersonal then notice.filter (· = a.first) else notice
  let jobs := if a.isPersonal then [] else (w.jobs.filter fun j => a.first ≤ j.number).map Job.number
  let more : List Alarm := match a.kills with
    | some after => [{ time := a.time + after, first := a.first, signal := 9 }]
    | none => []
  { w with
    clock := max w.clock a.time
    alarms := (w.alarms.filter fun b => b.time != a.time || b.first != a.first) ++ more
    rung := a.first :: w.rung
    doomed := ends.foldl (fun t n => t.insert n a.signal) w.doomed
    pending := w.pending ++ notice.map fun n => (n, a.signal)
    jobs := w.jobs.filter fun j => !jobs.contains j.number
    ended := jobs.foldl (fun t n => t.insert n (Ending.killed a.signal)) w.ended }

/-- Lets time pass, or all time for none: the alarms come that are set for it, and may end the process. -/
def pass (time : Option Nat) : Nat → Run Unit
  | 0 => pure ()
  | n + 1 => do
    let w ← world
    let next := w.alarms.foldl (fun (best : Option Alarm) a =>
      match best with
      | some b => if a.time < b.time then some a else some b
      | none => some a) none
    let until_ := time.map (w.clock + ·)
    match next with
    | some a =>
      if until_.all (a.time ≤ ·) then
        let passed := a.time - w.clock
        ring a
        reap
        pass (time.map (· - passed)) n
      else modifyWorld fun w => { w with clock := until_.getD w.clock }
    | none => modifyWorld fun w => { w with clock := until_.getD w.clock }

/-- The present, in billionths of a second since the start of 1970. -/
def present : Run Nat := return startOfRun + (← world).clock

/-! ### Channels -/

/-- Makes a channel; gives its number. -/
def makeChannel (c : Channel) : Run Nat := do
  let n := (← world).channels.size
  modifyWorld fun w => { w with channels := w.channels.push c }
  return n

/-- The channel of a descriptor. -/
def channelOf (fd : Nat) : Run (Option Nat) := return (← shell).descriptors.get? fd

/-- The content of a file by its place. -/
def contentAt (t : FileTree) (here : Location) : String :=
  match t.node? here with
  | some (.file content _) => ofBytes content
  | _ => ""

/-- The content with some text put at an offset. -/
def overwrite (content : String) (offset : Nat) (text : String) : String :=
  let cs := content.toList
  let head := cs.take offset
  let gap := List.replicate (offset - head.length) '\x00'
  String.ofList (head ++ gap ++ text.toList ++ cs.drop (offset + text.length))

/-- The files after a content was put at a place: a new file gets the permissions that a mask leaves. -/
def putContent (w : World) (mask : Nat) (here : Location) (content : List UInt8) : FileTree :=
  let t :=
    match w.files.node? here with
    | some (.file _ runs) => w.files.putAt here (.file content runs)
    | _ => (w.files.putAt here (.file content false)).setMode here (0o666 &&& (0o777 - mask % 512))
  t.setTime here w.clock

/-- Puts a content at a place. -/
def keepContent (here : Location) (content : List UInt8) : Run Unit := do
  let mask := (← shell).mask
  modifyWorld fun w => { w with files := putContent w mask here content }

/-- Makes a directory, which gets the permissions that the mask leaves. -/
def keepDirectory (here : Location) : Run Unit := do
  let mask := (← shell).mask
  modifyWorld fun w =>
    { w with files := ((w.files.putAt here .directory).setMode here (0o777 - mask % 512)).setTime here w.clock }

/-- Writes to a channel. -/
def writeChannel (n : Nat) (text : String) : Run Unit := modifyWorld fun w =>
  match w.channels[n]? with
  | some (.queue front back) =>
    let w := { w with channels := w.channels.set! n .nothing }
    { w with channels := w.channels.set! n (.queue front (back ++ text)) }
  | some (.file here offset appends) =>
    let content := contentAt w.files here
    let offset := if appends then content.length else offset
    { w with
      files := putContent w 0 here (toBytes (overwrite content offset text))
      channels := w.channels.set! n (.file here (offset + text.length) appends) }
  | _ => w

/-- Writes to a descriptor; whether it is open. -/
def writeTo (fd : Nat) (text : String) : Run Bool := do
  match ← channelOf fd with
  | some n =>
    writeChannel n text
    return true
  | none => return false

/-- Writes to the output. -/
def say (text : String) : Run Unit := do let _ ← writeTo 1 text

/-- Writes to the error output. -/
def tell (text : String) : Run Unit := do let _ ← writeTo 2 text

/-- Takes the bytes from a channel that `cut` chooses of those that are left. -/
def takeBy (n : Nat) (cut : List Char → List Char × List Char) : Run String := do
  let w ← world
  match w.channels[n]? with
  | some (.queue front back) =>
    let (text, rest) := cut front
    let (text, rest, back) := if rest.isEmpty && back ≠ "" then
        let (text, rest) := cut (front ++ back.toList)
        (text, rest, "")
      else (text, rest, back)
    modifyWorld fun w => { w with channels := w.channels.set! n (.queue rest back) }
    return String.ofList text
  | some (.file here offset appends) =>
    let text := String.ofList (cut ((contentAt w.files here).toList.drop offset)).1
    modifyWorld fun w =>
      { w with channels := w.channels.set! n (.file here (offset + text.length) appends) }
    return text
  | _ => return ""

/-- Takes at most so many bytes from a channel. -/
def takeFrom (n count : Nat) : Run String := do
  if (← world).channels[n]? matches some .zeros then return String.ofList (List.replicate count '\x00')
  takeBy n fun cs => (cs.take count, cs.drop count)

/-- A list up to its first line break, and what follows it. -/
def cutLine : List Char → List Char × List Char
  | [] => ([], [])
  | '\n' :: cs => (['\n'], cs)
  | c :: cs =>
    let (line, rest) := cutLine cs
    (c :: line, rest)

/-- All that is left in a channel; of endless zeros only some. -/
def drain (n : Nat) : Run String := do
  let w ← world
  match w.channels[n]? with
  | some (.queue front back) =>
    modifyWorld fun w => { w with channels := w.channels.set! n (.queue [] "") }
    return String.ofList front ++ back
  | some .zeros =>
    pass none 16
    takeFrom n 65536
  | some (.file here offset appends) =>
    let text := String.ofList ((contentAt w.files here).toList.drop offset)
    modifyWorld fun w =>
      { w with channels := w.channels.set! n (.file here (offset + text.length) appends) }
    return text
  | _ => return ""

/-- All that is left to read from a descriptor; nothing from one that is not open. -/
def readAll (fd : Nat) : Run String := do
  match ← channelOf fd with
  | some n => drain n
  | none => return ""

/-- At most so many bytes from a descriptor. -/
def readSome (fd count : Nat) : Run String := do
  match ← channelOf fd with
  | some n => takeFrom n count
  | none => return ""

/-- The next line of a descriptor with its break. -/
def readLineOf (fd : Nat) : Run String := do
  match ← channelOf fd with
  | some n => takeBy n cutLine
  | none => return ""

/-- How many bytes a program reads at a time. -/
def blockSize : Nat := 4096

/-- Puts bytes back in front of a channel, as a program does that has read more of a file than it
wants. -/
def giveBack (fd count : Nat) : Run Unit := do
  match ← channelOf fd with
  | some n => modifyWorld fun w =>
    match w.channels[n]? with
    | some (.file here offset appends) =>
      { w with channels := w.channels.set! n (.file here (offset - count) appends) }
    | _ => w
  | none => pure ()

/-- Makes a descriptor lead to a channel. -/
def setDescriptor (fd channel : Nat) : Run Unit :=
  modifyShell fun s => { s with descriptors := s.descriptors.insert fd channel }

/-- Closes a descriptor. -/
def closeDescriptor (fd : Nat) : Run Unit :=
  modifyShell fun s => { s with descriptors := s.descriptors.erase fd }

/-- Runs something with other descriptors, which are put back at its end however it ends. -/
def keepingDescriptors {α : Type} (body : Run α) : Run α := do
  let before := (← shell).descriptors
  let r ← attempt body
  modifyShell fun s => { s with descriptors := before }
  match r with
  | .ok a => return a
  | .error e => throw e

/-! ### Variables -/

/-- The value of a variable. -/
def Shell.value? (s : Shell) (name : String) : Option String :=
  (s.vars.get? name).bind Variable.text?

/-- Whether a shell speaks the extended language. -/
def Shell.isExtended (s : Shell) : Bool := s.dialect = .extended

/-- The line of a fault, with the name of the shell and of the builtin command that met it. -/
def Shell.faultText (s : Shell) (message : String) : String :=
  let named := match s.builtin with
    | some b => b ++ ": "
    | none => ""
  let plain := toString s.line ++ ": " ++ named ++ message ++ "\n"
  if s.isExtended then s.source.getD s.name ++ ": line " ++ plain else s.name ++ ": " ++ plain

/-- Tells of a fault and goes on. -/
def warn (message : String) : Run Unit := do
  tell ((← shell).faultText message)

/-- Tells of a fault that the shell does not go on after. -/
def refuse {α : Type} (message : String) : Run α := do
  warn message
  throw .fault

/-- Ends a shell of the extended language after a fault: an argument that is run ends with a status of its
own. -/
def lose {α : Type} : Run α := do
  let s ← shell
  throw (.exit (if s.isArgument && s.process == s.number then 127 else 1))

/-- Ends a shell at a variable that has no value. -/
def unbound {α : Type} (name : String) : Run α := do
  warn (name ++ ": unbound variable")
  lose

/-- Refuses to change a variable that must not change. -/
def refuseReadonly {α : Type} (name : String) : Run α := do
  let s ← shell
  if s.isExtended then
    if !(["declare", "local", "typeset"].contains (s.builtin.getD "")) then
      modifyShell fun s => { s with builtin := none }
    refuse (name ++ ": readonly variable")
  else refuse (name ++ ": is read only")

/-- The variable that a name stands for, which may be the value of another variable. -/
def Shell.resolve (s : Shell) (name : String) : String :=
  let rec go : Nat → String → String
    | 0, name => name
    | n + 1, name =>
      match s.vars.get? name with
      | some v => if v.refers then (match v.value with
          | some target => if target = "" then name else go n target
          | none => name) else name
      | none => name
  go 8 name

/-- The process that is known as a job. -/
def Shell.jobOf? (s : Shell) (spec : String) : Option Nat :=
  match (spec.drop 1).toString with
  | "" | "%" | "+" => s.lastJob
  | "-" => (s.children.dropLast.getLast?).map Prod.snd
  | digits => (plainNumber? digits).bind fun n => (s.children.reverse.find? fun e => e.1 == n).map Prod.snd

/-- The descriptor that a path in the directory of devices stands for. -/
def descriptorOf? (path : String) : Option Nat :=
  match path with
  | "/dev/stdin" => some 0
  | "/dev/stdout" => some 1
  | "/dev/stderr" => some 2
  | _ =>
    match path.splitOn "/" with
    | ["", "dev", "fd", n] | ["", "proc", "self", "fd", n] => plainNumber? n
    | _ => none

/-- A value in the letters that a variable keeps. -/
def Variable.spelt (v : Variable) (value : String) : String :=
  match v.letters with
  | some true => value.map Char.toUpper
  | some false => value.map Char.toLower
  | none => value

/-- A variable with a value, which is the first one of many. -/
def Variable.withText (v : Variable) (value : String) : Variable :=
  let value := v.spelt value
  match v.items with
  | none => { v with value := some value }
  | some (.numbered t) => { v with items := some (.numbered (t.insert 0 value)) }
  | some (.keyed t) => { v with items := some (.keyed (t.insert "0" value)) }

/-- Gives a variable a value. -/
def assign (name value : String) : Run Unit := do
  let s ← shell
  let name := s.resolve name
  let old := (s.vars.get? name).getD {}
  if old.isReadonly then refuseReadonly name
  let isExported := old.isExported || s.options.contains 'a'
  let s := if name = "OPTIND" then { s with optionPlace := 0 } else s
  modifyShell fun _ => { s with
    vars := s.vars.insert name { old.withText value with isExported } }

/-- Takes a variable away. -/
def unassign (name : String) : Run Unit := do
  let s ← shell
  if ((s.vars.get? name).getD {}).isReadonly then refuseReadonly name
  modifyShell fun s => { s with vars := s.vars.erase name }

/-- The place of a name in the rows in which a shell keeps names. -/
def namePlace (name : String) : Nat :=
  let codes := (toBytes name).map UInt8.toNat
  (codes.foldl (· + ·) (codes.headD 0 * 16)) % 39

/-- The variables that programs get, with their values. -/
def Shell.exported (s : Shell) : List (String × String) :=
  s.vars.entries.filterMap fun (name, v) =>
    if v.isExported then v.value.map (name, ·) else none

/-! ### Signals -/

/-- Makes known which signals do not end the shell. -/
def guard : Run Unit := do
  let s ← shell
  let known := s.traps.entries.filterMap fun (signal, action) =>
    if signal = 0 then none else some (signal, action ≠ "")
  modifyWorld fun w => { w with guards := w.guards.insert s.process known }

/-- Sends a signal to a process; whether there is one. The process that runs ends at once, another one
when it is to go on. -/
def signalTo (process signal : Nat) : Run Bool := do
  let w ← world
  match w.guards.get? process with
  | some known =>
    match if signal = 9 then none else known.find? fun e => e.1 == signal with
    | some (_, noticed) =>
      if noticed then
        modifyWorld fun w => { w with pending := w.pending ++ [(process, signal)] }
    | none =>
      if endsProgram signal then
        if process = (← shell).process then throw (.killed signal)
        modifyWorld fun w => { w with doomed := w.doomed.insert process signal }
    return true
  | none =>
    if w.jobs.any fun j => j.number == process then
      if signal ≠ 0 then
        modifyWorld fun w => { w with
          alarms := w.alarms ++ [{ time := w.clock, first := process, signal, isPersonal := true }] }
      return true
    else return false

/-- The status that a shell gives an ending. -/
def statusOf : Ending → Nat
  | .exited n => n
  | .killed signal => 128 + signal

/-- The status with which a run ended, which a process does not tell in full. -/
def lastStatus : Except Escape Nat → Nat
  | .ok n | .error (.exit n) | .error (.back n) => n
  | .error (.leave _) | .error (.again _) => 0
  | .error .fault => 2
  | .error (.killed signal) => 128 + signal

/-- The ending of a process by how its run ended. -/
def endingOf : Except Escape Nat → Ending
  | .error (.killed signal) => .killed signal
  | r => .exited (lastStatus r % 256)

/-- Runs something in a process of its own, of the given number, with a copy of the shell. -/
def inProcess (number : Nat) (body : Run Nat) : Run Ending := do
  let before ← shell
  modifyShell fun s => { s with process := number, parent := before.process }
  guard
  let r ← attempt body
  modifyShell fun _ => before
  let doom := (← world).doomed.get? number
  modifyWorld fun w => { w with guards := w.guards.erase number }
  match doom with
  | some signal => return .killed signal
  | none => return endingOf r

/-- A number for a new process. -/
def newProcess : Run Nat := do
  let n := (← world).nextProcess
  modifyWorld fun w => { w with nextProcess := n + 1 }
  return n

/-- Runs something in a new process with a copy of the shell. -/
def inChild (body : Run Nat) : Run Ending := do
  inProcess (← newProcess) body

end ClassLens.Shell
