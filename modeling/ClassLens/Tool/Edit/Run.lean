import ClassLens.Shell.Redirection
import ClassLens.Tool.Copying
import ClassLens.Tool.Edit.Script
import ClassLens.Tool.Launching

/-! # Running scripts that edit lines

The commands of a script are applied to each line of the input. They work on the line that is in work
(the pattern space) and on one that is kept beside it (the hold space).

* `Edit.Work`: what a script keeps from line to line.
* `Edit.runFrom`: what the commands do to one line.
* `Edit.runAll`: what they do to all lines. -/

namespace ClassLens.Tool.Edit

open Shell

/-- A file that is written or read line by line. -/
structure Stream where
  name : String
  channel : Nat
  /-- Whether the last line that was written lacks its break. -/
  lacksBreak : Bool := false

/-- Something that is written at the end of a pass. -/
inductive Later where
  | text (s : String)
  | file (path : String)

/-- How it stands with the range of a command. -/
inductive Range where
  /-- It goes on to a line, or until an address selects one. -/
  | upTo (stop : Nat)
  | untilSelected
  /-- It has ended, and no other one starts. -/
  | closed
  deriving DecidableEq

/-- What a script keeps from line to line. -/
structure Work where
  pattern : String := ""
  hold : String := ""
  /-- The lines of the file in work that are still to come, each with whether a break ends it. -/
  input : List (String × Bool) := []
  /-- The files that are still to come. -/
  files : List String := []
  /-- The file in work. -/
  file : String := "-"
  number : Nat := 0
  /-- Whether a break ends the line that is in work. -/
  hasBreak : Bool := true
  /-- Whether a break ends the line that is in the hold space. -/
  holdBreak : Bool := true
  /-- What goes to the file in work where that is edited. -/
  kept : Option String := none
  /-- Whether the last line that was written has no break. -/
  lacksBreak : Bool := false
  /-- What is written after the line that is in work. -/
  queue : List Later := []
  /-- How it stands with the ranges of commands. -/
  ranges : List (Nat × Range) := []
  lastRegex : Option (Regex × Bool) := none
  replaced : Bool := false
  streams : List Stream := []
  /-- What waits for the rest of a block of output. -/
  waiting : String := ""
  sources : List Stream := []
  status : Nat := 0

/-- How a script is run. -/
structure Setting where
  self : String
  quiet : Bool
  stop : Char := '\n'
  /-- Whether each file is a text of its own. -/
  separate : Bool := false
  /-- Whether files are edited in place. -/
  inPlace : Bool := false
  suffix : String := ""
  width : Nat := 70
  noRegex : String := ""
  /-- Whether output waits for nothing. -/
  isDirect : Bool := false
  launch : Launch

/-- Running a script. -/
abbrev Editing := StateT Work Run

/-- How a pass over the commands ends. -/
inductive Finish where
  | next
  /-- The next pass starts without writing the line. -/
  | dropped
  /-- The next pass starts without reading a line. -/
  | again
  /-- The input has ended. -/
  | finished
  | quit (prints : Bool)

/-! ### Writing -/

/-- How many bytes are written at once. -/
def blockSize : Nat := 4096

/-- Writes to the output, block by block. -/
def send (x : Setting) (text : String) : Editing Unit := do
  let w ← get
  let all := w.waiting ++ text
  if x.isDirect then say text
  else if all.utf8ByteSize ≤ blockSize then set { w with waiting := all }
  else
    let full := (all.length - 1) / blockSize * blockSize
    set { w with waiting := (all.drop full).toString }
    say (all.take full).toString

/-- Writes what waits for the rest of a block. -/
def sendRest : Editing Unit := do
  say (← get).waiting
  modify fun w => { w with waiting := "" }

/-- Ends because of a fault. -/
def abort {α : Type} (x : Setting) (message : String) : Editing α := do
  complain x.self message
  sendRest
  throw (.exit 1)

/-- Writes a text as it is. -/
def emit (x : Setting) (text : String) : Editing Unit := do
  let w ← get
  match w.kept with
  | some s => set { w with kept := some (s ++ text) }
  | none => send x text

/-- Writes the break that the line before lacks. -/
def closeLine (x : Setting) : Editing Unit := do
  if (← get).lacksBreak then
    emit x (String.singleton x.stop)
    modify fun w => { w with lacksBreak := false }

/-- Writes a text after the break that a line before it lacks. -/
def put (x : Setting) (text : String) : Editing Unit := do
  closeLine x
  emit x text

/-- Writes a line; its break is left out where the input lacks it. -/
def writeLine (x : Setting) (line : String) : Editing Unit := do
  let ends := (← get).hasBreak
  put x (line ++ (if ends then String.singleton x.stop else ""))
  modify fun w => { w with lacksBreak := !ends }

/-- Writes a line to one of the files that are written. -/
def writeTo (x : Setting) (path line : String) (ends : Bool) : Editing Unit := do
  match (← get).streams.find? fun s => s.name == path with
  | some s =>
    let text := (if s.lacksBreak then String.singleton x.stop else "") ++ line ++
      (if ends then String.singleton x.stop else "")
    if path = "/dev/stdout" then send x text else writeChannel s.channel text
    modify fun w => { w with streams := w.streams.map fun t =>
      if t.name == path then { t with lacksBreak := !ends } else t }
  | none => pure ()

/-- The lines of a text, each with whether a break ends it. -/
def splitLines (stop : Char) (content : String) : List (String × Bool) :=
  (linesFrom stop content.toList []).map fun line =>
    (bare stop line, line.toList.getLast? == some stop)

/-- The next line of a file with its break; nothing if there is none. -/
def lineOf (x : Setting) (path : String) : Editing String := do
  let w ← get
  let stream : Option Stream ←
    match w.sources.find? fun s => s.name == path with
    | some s => pure (some s)
    | none =>
      let channel : Except ReadFault Nat ← openPath .input path
      match channel with
      | .ok channel =>
        let s : Stream := ⟨path, channel, false⟩
        modify fun w => { w with sources := s :: w.sources }
        pure (some s)
      | .error _ => pure none
  match stream with
  | none => return ""
  | some s => takeBy s.channel (cutStop x.stop)
where
  /-- A list up to its first break, and what follows it. -/
  cutStop (stop : Char) : List Char → List Char × List Char
    | [] => ([], [])
    | c :: cs =>
      if c == stop then ([c], cs)
      else
        let (line, rest) := cutStop stop cs
        (c :: line, rest)

/-- Writes what waits for the end of a pass. -/
def flush (x : Setting) : Editing Unit := do
  let queue := (← get).queue
  modify fun w => { w with queue := [] }
  for item in queue do
    match item with
    | .text s => put x s
    | .file path =>
      closeLine x
      let content : Except ReadFault String ← readInput path
      match content with
      | .ok content => emit x content
      | .error _ => pure ()

/-! ### Reading -/

/-- Puts what was written in the place of the file in work. -/
def finishFile (x : Setting) : Editing Unit := do
  let w ← get
  match w.kept with
  | none => pure ()
  | some text =>
    if x.suffix ≠ "" then
      let old ← readInput w.file
      let backup := if x.suffix.toList.contains '*' then
          w.file.replace (baseName w.file) (x.suffix.replace "*" (baseName w.file))
        else w.file ++ x.suffix
      match old with
      | .ok old => let _ ← writeFile backup old false
      | .error _ => pure ()
    let _ ← writeFile w.file text false
    set { w with kept := none, lacksBreak := false }
where
  /-- The last piece of a path. -/
  baseName (path : String) : String := (path.splitOn "/").getLastD path

/-- Opens the next file that can be read; whether there is one. -/
def openNext (x : Setting) : Nat → Editing Bool
  | 0 => return false
  | n + 1 => do
    finishFile x
    let w ← get
    match w.files with
    | [] => return false
    | path :: files =>
      set { w with files }
      let isDirectory := ((← Tool.files).nodeOf? ⟨toBytes path⟩) matches some .directory
      if x.inPlace && path ≠ "-" && isDirectory then
        complain x.self ("couldn't edit " ++ path ++ ": not a regular file")
        modify fun w => { w with status := 4 }
        openNext x n
      else
        let content : Except ReadFault String ← readInput path
        match content with
        | .error e =>
          complain x.self ((if e = .isDirectory then "read error on " else "can't read ") ++ path ++ ": " ++
            e.wording)
          modify fun w => { w with status := 2 }
          openNext x n
        | .ok content =>
          let lines := splitLines x.stop content
          let edits := x.inPlace && path ≠ "-"
          modify fun w => { w with
            input := lines, file := path, kept := if edits then some "" else w.kept
            number := if x.separate then 0 else w.number
            hold := if x.separate then "" else w.hold
            sources := if x.separate then [] else w.sources
            holdBreak := x.separate || w.holdBreak
            ranges := if x.separate then [] else w.ranges }
          if lines.isEmpty then openNext x n else return true

/-- Whether the line in work is the last one, of its file if files are looked at apart. Otherwise the
next file is opened to see. -/
def isLast (x : Setting) : Editing Bool := do
  let w ← get
  if !w.input.isEmpty then return false
  if x.separate || w.files.isEmpty then return true
  return !(← openNext x (w.files.length + 1))

/-- Reads the next line; whether there is one. -/
def advance (x : Setting) : Editing Bool := do
  flush x
  let take : Editing Bool := do
    let w ← get
    match w.input with
    | (line, hasBreak) :: rest =>
      set { w with pattern := line, input := rest, number := w.number + 1, hasBreak, replaced := false }
      return true
    | [] => return false
  if ← take then return true
  if ← openNext x ((← get).files.length + 1) then take else return false

/-! ### Selecting -/

/-- Whether an address selects the line that is in work. -/
def selects (x : Setting) (a : Address) : Editing Bool := do
  let w ← get
  match a with
  | .line n => return w.number = n
  | .last => isLast x
  | .steps first step => return first ≤ w.number && (w.number - first) % step = 0
  | .matching r foldsCase =>
    let found := match r with
      | some r => some (r, foldsCase)
      | none => w.lastRegex
    match found with
    | some (r, f) =>
      set { w with lastRegex := some (r, f) }
      return (r.find f w.pattern.toList 0).isSome
    | none => abort x x.noRegex
  | .plus _ | .multiple _ => return false

/-- Sets the range of a command. -/
def setRange (index : Nat) (r : Option Range) : Editing Unit := modify fun w =>
  let others := w.ranges.filter fun e => e.1 != index
  { w with ranges := match r with
    | some r => (index, r) :: others
    | none => others }

/-- The line that ends a range which starts at a line, where that is known then. -/
def rangeEnd? (start : Nat) : Address → Option Nat
  | .plus n => some (start + n)
  | .multiple n => some (if n = 0 then start else (start / n + 1) * n)
  | .steps first step =>
    if start < first ∨ step = 0 then some first
    else some (start + (step - (start - first) % step) % step)
  | _ => none

/-- Whether a command works on the line that is in work where that starts a range. A range that starts
at the number of a line starts once. -/
def startRange (x : Setting) (index : Nat) (first second : Address) : Editing Bool := do
  let n := (← get).number
  let byNumber : Option Nat := match first with
    | .line k => some k
    | _ => none
  let starts ← match byNumber with
    | some k => pure (decide (k ≤ n))
    | none => selects x first
  if !starts then return false
  let finish : Editing Unit := setRange index (if byNumber.isSome then some .closed else none)
  match second, rangeEnd? n second with
  | .line stop, _ =>
    if stop ≤ n then
      finish
      return byNumber.isNone || n ≤ stop || byNumber == some n
    else
      setRange index (some (.upTo stop))
      return true
  | .last, _ =>
    if ← isLast x then finish else setRange index (some .untilSelected)
    return true
  | _, some stop =>
    if stop ≤ n then finish else setRange index (some (.upTo stop))
    return true
  | _, none =>
    setRange index (some .untilSelected)
    return true

/-- Whether a command works on the line that is in work. -/
def applies (x : Setting) (index : Nat) (c : Command) : Editing Bool := do
  let hit ← match c.first, c.second with
    | none, _ => pure true
    | some a, none => selects x a
    | some a, some b =>
      let n := (← get).number
      let close : Editing Unit := setRange index (match a with
        | .line _ => some .closed
        | _ => none)
      match ((← get).ranges.find? fun e => e.1 == index).map Prod.snd, a with
      | some (.upTo stop), _ =>
        if stop ≤ n then close
        pure (n ≤ stop || !(b matches .line _))
      | some .untilSelected, _ =>
        if ← selects x b then close
        pure true
      | some .closed, _ => pure false
      | none, .line 0 =>
        if ← selects x b then close else setRange index (some .untilSelected)
        pure true
      | none, a => startRange x index a b
  return hit != c.negated

/-! ### Replacing -/

/-- A text with the changes of case that are asked for: for what follows, and for one character. -/
def cased (mode one : Char) (s : List Char) : List Char :=
  let all := match mode with
    | 'U' => s.map Char.toUpper
    | 'L' => s.map Char.toLower
    | _ => s
  match one, all with
  | 'u', c :: cs => c.toUpper :: cs
  | 'l', c :: cs => c.toLower :: cs
  | _, all => all

/-- What replaces a match. -/
def replacement (ps : List Piece) (text : List Char) (hit : Regex.Hit) : List Char :=
  let part (a b : Nat) : List Char := (text.drop a).take (b - a)
  (ps.foldl (fun (out, mode, one) p =>
    let add (s : List Char) : List Char × Char × Char :=
      if s.isEmpty then (out, mode, one) else (out ++ cased mode one s, mode, ' ')
    match p with
    | .text s => add s
    | .group 0 => add (part hit.start hit.stop)
    | .group n =>
      match hit.groups.find? fun g => g.1 == n with
      | some g => add (part g.2.1 g.2.2)
      | none => (out, mode, one)
    | .case c => if c == 'u' || c == 'l' then (out, mode, c) else (out, c, one)) ([], 'E', ' ')).1

/-- A text with its matches replaced, from one match on, `count` matches having come before; and whether
any was replaced. An empty match right after another one (`isAfterHit`) does not count. -/
def replaceAll (r : Regex) (foldsCase : Bool) (ps : List Piece) (isGlobal : Bool) (number : Nat)
    (text : List Char) : Nat → Bool → Nat → Nat → Bool → List Char × Bool
  | 0, _, _, _, any => ([], any)
  | fuel + 1, isAfterHit, offset, count, any =>
    match if offset > text.length then none else r.find foldsCase text offset with
    | none => (text.drop offset, any)
    | some hit =>
      if isAfterHit && hit.start = offset && hit.stop = offset then
        match text.drop offset with
        | [] => ([], any)
        | c :: _ =>
          let (more, any) := replaceAll r foldsCase ps isGlobal number text fuel false (offset + 1) count any
          (c :: more, any)
      else
        let before := (text.drop offset).take (hit.start - offset)
        let k := count + 1
        let replaces := if number = 0 then isGlobal || k = 1 else k = number || (isGlobal && k > number)
        let shown := if replaces then replacement ps text hit
          else (text.drop hit.start).take (hit.stop - hit.start)
        let isOver := replaces && !isGlobal
        if isOver then (before ++ shown ++ text.drop hit.stop, true)
        else
          let isEmpty : Bool := hit.stop = hit.start
          let skipped := if isEmpty then (text.drop hit.stop).take 1 else []
          let (more, any) := replaceAll r foldsCase ps isGlobal number text fuel (!isEmpty)
            (if isEmpty then hit.stop + 1 else hit.stop) k (any || replaces)
          (before ++ shown ++ skipped ++ more, any)

/-! ### Commands that are run -/

/-- The output of a command line. -/
def outputOf (x : Setting) (text : String) : Run String := do
  let n ← makeChannel (.ofText "")
  let _ ← inChild do
    setDescriptor 1 n
    x.launch ["sh", "-c", text]
  drain n

/-- A text without a break at its end. -/
def withoutBreak (stop : Char) (s : String) : String :=
  if s.toList.getLast? == some stop then (s.dropEnd 1).toString else s

/-- Replaces what an expression matches in the line that is in work. -/
def substitute (x : Setting) (s : Substitution) : Editing Unit := do
  let w ← get
  let found := match s.regex with
    | some r => some (r, s.foldsCase)
    | none => w.lastRegex
  match found with
  | none => abort x x.noRegex
  | some (r, f) =>
    let text := w.pattern.toList
    let (new, any) := replaceAll r (f || s.foldsCase) s.pieces s.isGlobal s.number text
      (2 * text.length + 4) false 0 0 false
    set { w with lastRegex := some (r, f) }
    if any then
      modify fun w => { w with pattern := String.ofList new, replaced := true }
      if s.runs then
        if s.printsBefore then writeLine x (← get).pattern
        let out ← outputOf x (← get).pattern
        modify fun w => { w with pattern := withoutBreak x.stop out }
        if s.printsAfter then writeLine x (← get).pattern
      else if s.printsBefore then writeLine x (← get).pattern
      match s.file with
      | some path =>
        let w ← get
        writeTo x path w.pattern w.hasBreak
      | none => pure ()

/-! ### Showing lines -/

/-- A character as a form that shows everything. -/
def shownChar (c : Char) : List Char :=
  match c with
  | '\\' => ['\\', '\\']
  | '\n' => ['\\', 'n']
  | '\t' => ['\\', 't']
  | '\r' => ['\\', 'r']
  | '\x07' => ['\\', 'a']
  | '\x08' => ['\\', 'b']
  | '\x0c' => ['\\', 'f']
  | '\x0b' => ['\\', 'v']
  | c =>
    if 32 ≤ c.toNat && c.toNat < 127 then [c]
    else
      let ds := Nat.toDigits 8 c.toNat
      '\\' :: List.replicate (3 - ds.length) '0' ++ ds

/-- A line in a form that shows everything, in rows of some width; of no width in one row. -/
def shownLine (stop : Char) (width : Nat) (s : List Char) : List Char :=
  let (out, _) := s.foldl (fun (out, used) c =>
    let cs := shownChar c
    if width > 0 && used + cs.length > width - 1 then (out ++ '\\' :: stop :: cs, cs.length)
    else (out ++ cs, used + cs.length)) (([], 0) : List Char × Nat)
  out ++ ['$', stop]

/-- Writes a text that is inserted. -/
def putText (x : Setting) (text : String) : Editing Unit := do
  if text ≠ "" then put x (withoutBreak '\n' text ++ String.singleton x.stop)

/-! ### Passes -/

/-- The place of a label. -/
def placeOf (script : Array Command) (label : String) : Option Nat :=
  script.findIdx? fun c => match c.action with
    | .label name => name == label
    | _ => false

/-- What a command of one letter does; none where the pass goes on. -/
def runPlain (x : Setting) (letter : Char) : Editing (Option Finish) := do
  let w ← get
  match letter with
  | 'd' => return some .dropped
  | 'D' =>
    if w.pattern.toList.contains x.stop then
      set { w with pattern := String.ofList (w.pattern.toList.dropWhile (· != x.stop)).tail }
      return some .again
    else return some .dropped
  | 'p' =>
    writeLine x w.pattern
    return none
  | 'P' =>
    let first := String.ofList (w.pattern.toList.takeWhile (· != x.stop))
    if first.length < w.pattern.length then put x (first ++ String.singleton x.stop) else writeLine x first
    return none
  | 'n' =>
    if ← isLast x then return some .finished
    if !x.quiet then writeLine x w.pattern
    if ← advance x then return none else return some (.quit false)
  | 'N' =>
    if ← isLast x then return some .finished
    flush x
    if ← advance x then
      modify fun v => { v with pattern := w.pattern ++ String.singleton x.stop ++ v.pattern }
      return none
    else return some (.quit false)
  | 'g' =>
    set { w with pattern := w.hold, hasBreak := w.holdBreak }
    return none
  | 'G' =>
    set { w with
      pattern := w.pattern ++ String.singleton x.stop ++ w.hold, hasBreak := w.holdBreak }
    return none
  | 'h' =>
    set { w with hold := w.pattern, holdBreak := w.hasBreak }
    return none
  | 'H' =>
    set { w with
      hold := w.hold ++ String.singleton x.stop ++ w.pattern, holdBreak := w.hasBreak }
    return none
  | 'x' =>
    set { w with
      pattern := w.hold, hold := w.pattern, hasBreak := w.holdBreak, holdBreak := w.hasBreak }
    return none
  | 'z' =>
    set { w with pattern := "" }
    return none
  | 'F' =>
    put x (w.file ++ String.singleton x.stop)
    return none
  | _ =>
    put x (toString w.number ++ String.singleton x.stop)
    return none

/-- Runs the commands from one on. -/
def runFrom (x : Setting) (script : Array Command) : Nat → Nat → Editing Finish
  | 0, _ => return .quit true
  | fuel + 1, index => do
    match script[index]? with
    | none => return .next
    | some c =>
      let hit ← applies x index c
      let go : Editing Finish := runFrom x script fuel (index + 1)
      match hit, c.action with
      | false, .block n => runFrom x script fuel (index + n + 1)
      | false, _ => go
      | true, .block _ | true, .close | true, .label _ => go
      | true, .substitute s =>
        substitute x s
        go
      | true, .translate old new =>
        modify fun w => { w with pattern := w.pattern.map fun c =>
          ((old.zip new).find? fun p => p.1 == c).elim c Prod.snd }
        go
      | true, .append text =>
        modify fun w => { w with queue := w.queue ++ [.text text] }
        go
      | true, .insert text =>
        putText x text
        go
      | true, .change text =>
        let isOpen := (← get).ranges.any fun e => e.1 == index && e.2 != .closed
        if c.second.isNone || !isOpen then putText x text
        return .dropped
      | true, .quit prints status =>
        modify fun w => { w with status }
        return .quit prints
      | true, .readFile path =>
        modify fun w => { w with queue := w.queue ++ [.file path] }
        go
      | true, .readLine path =>
        let line ← lineOf x path
        if line ≠ "" then modify fun w => { w with queue := w.queue ++ [.text line] }
        go
      | true, .writeFile path =>
        let w ← get
        writeTo x path w.pattern w.hasBreak
        go
      | true, .writeFirst path =>
        let w ← get
        let first := String.ofList (w.pattern.toList.takeWhile (· != x.stop))
        writeTo x path first (first.length < w.pattern.length || w.hasBreak)
        go
      | true, .branch mode label =>
        let w ← get
        let jumps := mode == 'b' || (mode == 't') == w.replaced
        if mode != 'b' then set { w with replaced := false }
        if !jumps then go
        else if label = "" then return .next
        else
          match placeOf script label with
          | some i => runFrom x script fuel i
          | none => return .next
      | true, .list width =>
        put x (String.ofList (shownLine x.stop (width.getD x.width) (← get).pattern.toList))
        go
      | true, .execute (some text) =>
        closeLine x
        let out ← outputOf x (withoutBreak '\n' text)
        emit x out
        go
      | true, .execute none =>
        let out ← outputOf x (← get).pattern
        modify fun w => { w with pattern := withoutBreak x.stop out }
        go
      | true, .plain letter =>
        match ← runPlain x letter with
        | some finish => return finish
        | none => go

/-- Writes the files that come before the first line. -/
def runBefore (x : Setting) (script : Array Command) : Editing Unit := do
  for c in script do
    match c.first, c.second, c.action with
    | some (.line 0), none, .readFile path =>
      modify fun w => { w with queue := w.queue ++ [.file path] }
    | _, _, _ => pure ()
  flush x

/-- Runs the commands on all lines. -/
def runAll (x : Setting) (script : Array Command) : Nat → Bool → Editing Unit
  | 0, _ => pure ()
  | fuel + 1, keeps => do
    let goes ← if keeps then pure true else advance x
    if goes then
      let finish ← runFrom x script 1000000 0
      match finish with
      | .next =>
        if !x.quiet then writeLine x (← get).pattern
        runAll x script fuel false
      | .dropped => runAll x script fuel false
      | .finished =>
        if !x.quiet then writeLine x (← get).pattern
        runAll x script fuel false
      | .again =>
        flush x
        runAll x script fuel true
      | .quit prints =>
        if prints && !x.quiet then writeLine x (← get).pattern
        if prints then
          closeLine x
          flush x
        let w ← get
        if w.kept.isSome then
          for (line, hasBreak) in w.input do
            put x (line ++ (if hasBreak then String.singleton x.stop else ""))
        finishFile x
    else finishFile x

end ClassLens.Tool.Edit
