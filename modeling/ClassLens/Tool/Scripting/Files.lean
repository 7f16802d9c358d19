import ClassLens.Tool.Scripting.Machine
import ClassLens.Tool.Status

/-! # What scripts do with files

* `fileResult`: the functions that make, change and take away files and directories, and tell of them.
* `askFile`: what is asked of a file by a letter.
* `seekTo`, `tellPlace`: the place in a file that is open. -/

namespace ClassLens.Tool.Scripting

/-- Changes the files where a path can be used, and takes note of the fault where it cannot. -/
def onPath (path : String) (body : FileTree → Except Nat (FileTree → FileTree)) : Exec Bool := do
  match body (← Tool.files) with
  | .ok f =>
    Tool.setFiles f
    return true
  | .error n =>
    let _ := path
    setFault n
    return false

/-- The number of a fault of a path. -/
def faultOf (e : ReadFault) : Nat := e.number?.getD 5

/-- Takes a file away. -/
def removeFile (path : String) : Exec Bool :=
  onPath path fun t =>
    match Tool.placeOf t path with
    | .error e => .error (faultOf e)
    | .ok here =>
      if t.isDirectoryAt here && !t.isLink (Tool.pathOf path) then .error 21
      else .ok fun t => t.eraseTree here

/-- Takes an empty directory away. -/
def removeDirectory (path : String) : Exec Bool :=
  onPath path fun t =>
    match t.locate (Tool.pathOf path) with
    | .error e => .error (faultOf e)
    | .ok here =>
      if !t.isDirectoryAt here then .error 20
      else if !(Tool.entriesIn t here).isEmpty then .error 39
      else .ok fun t => t.eraseTree here

/-- Makes a directory. -/
def makeDirectory (path : String) (mode : Nat) : Exec Bool := do
  let mask := (← Shell.shell).mask
  onPath path fun t =>
    match t.locate (Tool.pathOf path) with
    | .ok _ => .error 17
    | .error _ =>
      match t.locateNew (Tool.pathOf path) with
      | .ok here => .ok fun t => (t.putAt here .directory).setMode here (mode % 4096 &&& (0o7777 - mask % 512))
      | .error e => .error (faultOf e)

/-- Gives a file another name. -/
def rename (source target : String) : Exec Bool :=
  onPath source fun t =>
    match Tool.placeOf t source, t.locateNew (Tool.pathOf target) with
    | .ok here, .ok there =>
      if here = there then .ok id else .ok fun t => t.moveTree here there
    | .error e, _ | _, .error e => .error (faultOf e)

/-- Gives a file one more name. -/
def linkFile (source target : String) : Exec Bool :=
  onPath source fun t =>
    match Tool.placeOf t source, Tool.placeOf t target, t.locateNew (Tool.pathOf target) with
    | .error e, _, _ => .error (faultOf e)
    | .ok _, .ok _, _ => .error 17
    | .ok here, .error _, .ok there => if t.isDirectoryAt here then .error 1 else .ok fun t => t.share here there
    | .ok _, .error _, .error e => .error (faultOf e)

/-- Makes a link to what a path names. -/
def makeLink (target name : String) : Exec Bool :=
  onPath name fun t =>
    match Tool.placeOf t name, t.locateNew (Tool.pathOf name) with
    | .ok _, _ => .error 17
    | .error _, .ok there => .ok fun t => t.putAt there (.link (Tool.pathOf target))
    | .error _, .error e => .error (faultOf e)

/-- Changes something of the place that a path names. -/
def changePlace (path : String) (change : FileTree → Location → FileTree) : Exec Bool :=
  onPath path fun t =>
    match t.locate (Tool.pathOf path) with
    | .ok here => .ok fun t => change t here
    | .error e => .error (faultOf e)

/-- Goes to a directory. -/
def changeDirectory (path : String) : Exec Bool := do
  let t ← Tool.files
  match t.locate (Tool.pathOf path) with
  | .error e =>
    setFault (faultOf e)
    return false
  | .ok here =>
    if t.isDirectoryAt here then
      Shell.modifyShell fun s => { s with directory := here, place := Shell.ofBytes (Path.ofPieces true here).bytes }
      return true
    else
      setFault 20
      return false

/-! ### Places in open files -/

/-- The file that an open one is, and the place in it that is read or written next. -/
def openPlace? (name : String) : Exec (Option (Nat × Location × Nat × Bool)) := do
  let channel ← match (← get).handles.get? name with
    | some h => pure (some h.channel)
    | none => if name = "STDIN" then Shell.channelOf 0 else if name = "STDERR" then Shell.channelOf 2 else pure none
  match channel with
  | none => return none
  | some n =>
    match (← Shell.world).channels[n]? with
    | some (.file here offset appends) => return some (n, here, offset, appends)
    | _ => return none

/-- Where an open file is read or written next. -/
def tellPlace (name : String) : Exec Int := do
  flush name
  match (← get).handles.get? name, ← openPlace? name with
  | some h, some (_, _, offset, _) => return (offset : Int) - h.ahead.length
  | some h, none =>
    match h.memory, (← Shell.world).channels[h.channel]? with
    | some text, some (.queue front back) => return (text.length : Int) - front.length - back.length - h.ahead.length
    | _, _ => return -1
  | none, _ => return -1

/-- Goes to a place in an open file, seen from its start, from the place at hand or from its end. -/
def seekTo (name : String) (offset : Int) (whence : Nat) : Exec Bool := do
  let here ← tellPlace name
  let goTo (size : Nat) (put : Nat → Shell.World → Shell.World) : Exec Bool := do
    let target := offset + (if whence = 0 then 0 else if whence = 1 then here else (size : Int))
    if target < 0 then
      setFault 22
      return false
    else
      Shell.modifyWorld (put target.toNat)
      changeHandle name fun h => { h with ahead := [], hasEnded := false }
      return true
  match ← openPlace? name, (← get).handles.get? name with
  | some (n, file, _, appends), _ =>
    let size := Tool.sizeAt (← Tool.files) file
    goTo size fun i w => { w with channels := w.channels.set! n (.file file i appends) }
  | none, some h =>
    match h.memory with
    | some text =>
      goTo text.length fun i w => { w with channels := w.channels.set! h.channel (.queue (text.toList.drop i) "") }
    | none => return false
  | none, none => return false

/-! ### What is known of files -/

/-- The place that a value names: an open file, the one that was asked about last, or what a path leads to. -/
def placeNamed (follows : Bool) (v : Value) : Exec (Except ReadFault Location) := do
  let t ← Tool.files
  let byPath (path : String) : Except ReadFault Location :=
    if follows then t.locate (Tool.pathOf path) else Tool.placeOf t path
  match v with
  | .handle name =>
    match ← openPlace? name with
    | some (_, here, _, _) => return .ok here
    | none => return .error .notFound
  | v =>
    let s := v.toText
    if s = "_" then
      match (← get).asked with
      | some here => return .ok here
      | none => return .error .notFound
    else if ["STDIN", "STDOUT", "STDERR"].contains s && (byPath s).toOption.isNone then
      match ← openPlace? s with
      | some (_, here, _, _) => return .ok here
      | none => return .error .notFound
    else return byPath s

/-- What is known of a place, in the order in which scripts get it. -/
def factsAt (t : FileTree) (here : Location) : List Value :=
  let node := (t.node? here).getD .sink
  let (seconds, _) := Tool.secondsAt t here
  let device : Nat := match node with
    | .sink => 259
    | .zeros => 261
    | _ => 0
  [.ofNat 50, .ofNat (Tool.inodeAt t here), .ofNat (Tool.Status.kindBits node + t.modeAt here), .ofNat (Tool.linksAt t here),
    .ofNat 0, .ofNat 0, .ofNat device, .ofNat (Tool.sizeAt t here), .ofInt seconds, .ofInt seconds, .ofInt seconds,
    .ofNat 4096, .ofNat (Tool.blocksAt t here)]

/-- What is known of what a value names; nothing if it is not there. -/
def factsOf (follows : Bool) (v : Value) : Exec (List Value) := do
  match ← placeNamed follows v with
  | .ok here =>
    modify fun m => { m with asked := some here }
    return factsAt (← Tool.files) here
  | .error e =>
    setFault (faultOf e)
    return []

/-- What is asked of a file by a letter. -/
def askFile (letter : Char) (v : Value) : Exec Value := do
  match ← placeNamed (letter != 'l') v with
  | .error e =>
    setFault (faultOf e)
    return if letter == 't' then .text "" else .undefined
  | .ok here =>
    modify fun m => { m with asked := some here }
    let t ← Tool.files
    let size := Tool.sizeAt t here
    let node := (t.node? here).getD .directory
    let mode := t.modeAt here
    let isFile : Bool := node matches .file ..
    let isDirectory := t.isDirectoryAt here
    let has (bits : Nat) : Value := .ofBool (mode &&& bits != 0)
    let age : Exec Value := do
      let (seconds, fraction) := Tool.secondsAt t here
      let past := (Shell.startOfRun : Int) - (seconds * 1000000000 + fraction)
      return .number (.real (Float.ofInt past / 86400000000000.0))
    match letter with
    | 'd' => return .ofBool isDirectory
    | 'f' => return .ofBool isFile
    | 'l' => return .ofBool (node matches .link _)
    | 'x' | 'X' => return if isDirectory then .ofInt 1 else has 0o111
    | 'z' => return .ofBool (size = 0)
    | 's' => return if size = 0 then .text "" else .ofNat size
    | 'e' | 'r' | 'w' | 'o' | 'R' | 'W' | 'O' => return .ofInt 1
    | 'c' => return .ofBool (node matches .sink | .zeros)
    | 'u' => return has 0o4000
    | 'g' => return has 0o2000
    | 'k' => return has 0o1000
    | 'M' | 'A' | 'C' => age
    | 'T' | 'B' =>
      let content : List UInt8 := match node with
        | .file content _ => content.take 512
        | _ => []
      let isOdd (b : UInt8) : Bool := b > 127 || (b < 32 && !(8 ≤ b && b ≤ 13) && b != 27)
      let isWhole := (String.fromUTF8? ⟨content.toArray⟩).isSome
      let odd := if isWhole then 0 else (content.filter isOdd).length
      let isText := isFile && !content.contains 0 && odd * 3 ≤ content.length
      return .ofBool (if content.isEmpty then isFile else isText == (letter == 'T'))
    | _ => return .text ""

/-- What a function on files gives for the values of its arguments; nothing if there is no such function. -/
def fileResult (name : String) (vs : List Value) : Exec (Option (List Value)) := do
  let first := (vs.headD .undefined).toText
  let second := (vs.getD 1 .undefined).toText
  let one (v : Value) : Exec (Option (List Value)) := return some [v]
  let whether (done : Exec Bool) : Exec (Option (List Value)) := do one (if ← done then .ofInt 1 else .ofInt 0)
  let count (vs : List Value) (body : String → Exec Bool) : Exec (Option (List Value)) := do
    let done ← vs.mapM fun v => body v.toText
    one (.ofNat (done.filter id).length)
  match name with
  | "unlink" => count vs removeFile
  | "mkdir" => whether (makeDirectory first (if vs.length > 1 then (vs.getD 1 .undefined).toInt.toNat else 0o777))
  | "rmdir" => whether (removeDirectory first)
  | "rename" => whether (rename first second)
  | "link" => whether (linkFile first second)
  | "symlink" => whether (makeLink first second)
  | "readlink" =>
    match (← Tool.files).nodeOf? (Tool.pathOf first), (Tool.placeOf (← Tool.files) first) with
    | _, .ok here =>
      match (← Tool.files).node? here with
      | some (.link target) => one (.text (Shell.ofBytes target.bytes))
      | _ =>
        setFault 22
        one .undefined
    | _, .error e =>
      setFault (faultOf e)
      one .undefined
  | "chmod" =>
    let mode := (vs.headD .undefined).toInt.toNat % 4096
    count vs.tail fun path => changePlace path fun t here => t.setMode here mode
  | "chown" => count (vs.drop 2) fun path => changePlace path fun t _ => t
  | "utime" =>
    let time ← match vs.getD 1 .undefined with
      | .undefined => do pure ((← Shell.present : Nat) : Int)
      | v => pure (v.toInt * 1000000000)
    count (vs.drop 2) fun path => changePlace path fun t here => t.setTime here (time - Shell.startOfRun)
  | "truncate" =>
    let size := (vs.getD 1 .undefined).toInt.toNat
    match vs.headD .undefined with
    | .handle h =>
      flush h
      match ← openPlace? h with
      | some (_, here, _, _) =>
        let content := (Shell.contentAt (← Tool.files) here)
        Shell.keepContent here (Tool.resized (Shell.toBytes content) size)
        one (.ofInt 1)
      | none => one .undefined
    | v => whether (changePlace v.toText fun t here =>
        match t.node? here with
        | some (.file content runs) => t.putAt here (.file (Tool.resized content size) runs)
        | _ => t)
  | "chdir" =>
    let home := ((← Shell.shell).value? "HOME").getD ""
    whether (changeDirectory (if vs.isEmpty then home else first))
  | "stat" => return some (← factsOf true (vs.headD .undefined))
  | "lstat" => return some (← factsOf false (vs.headD .undefined))
  | "umask" =>
    let old := (← Shell.shell).mask
    match vs with
    | v :: _ => Shell.modifyShell fun s => { s with mask := v.toInt.toNat % 512 }
    | [] => pure ()
    one (.ofNat old)
  | _ => return none

end ClassLens.Tool.Scripting
