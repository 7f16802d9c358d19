import ClassLens.Path
import ClassLens.Table

/-! # File trees

The files and directories that are read from: a value, not the disk. A place in the tree is given
by the names on the way to it from the root.

* `FileTree.locate t p`: the place that a path names, walking it component by component, or why
  there is none.
* `FileTree.readBytes t p`, `FileTree.read t p`: the content of a file, as bytes and as a text.
* `FileTree.isFile t p`: whether a path names a file.
* `FileTree.write`, `FileTree.remove`: changes; writing makes the directories above a file.
* `FileTree.modeAt`, `FileTree.setMode`: the permissions of a place. -/

namespace ClassLens

/-- Names from the root on. -/
abbrev Location := List Name

/-- The place of a text with slashes between the names. -/
def Location.ofString (s : String) : Location :=
  (Path.ofString s).normalNames

/-- What stands at a place. -/
inductive Node where
  | directory
  /-- A file, which may be one that the system runs. -/
  | file (content : List UInt8) (runs : Bool)
  /-- A device that has nothing to read and keeps nothing that is written to it. -/
  | sink
  /-- A device that has zeros to read without end. -/
  | zeros
  /-- Another name for what a path leads to, read from the directory that holds it. -/
  | link (target : Path)
  deriving DecidableEq, Repr

/-- What stands at each place, the root apart, which is a directory. -/
structure FileTree where
  nodes : Table Location Node := .empty
  /-- The permissions of the places that have other ones than usual. -/
  modes : Table Location Nat := .empty
  /-- When places were changed, for those that were changed since the start. -/
  times : Table Location Int := .empty
  /-- The places at which one file stands with other ones; its places have the same number. -/
  shared : Table Location Nat := .empty
  /-- The directory that relative paths start from. -/
  start : Location := []

/-- Why a file cannot be read. -/
inductive ReadFault where
  | notFound
  | isDirectory
  | notDirectory
  /-- The path or a name in it is longer than the system allows. -/
  | nameTooLong
  | tooManyLinks
  /-- The path holds a NUL character. -/
  | nulInName
  /-- What is read from is closed. -/
  | badDescriptor
  /-- The content is not UTF-8. -/
  | notText
  deriving DecidableEq, Repr

/-- What the system calls a fault. -/
def ReadFault.wording : ReadFault → String
  | .notFound => "No such file or directory"
  | .isDirectory => "Is a directory"
  | .notDirectory => "Not a directory"
  | .nameTooLong => "File name too long"
  | .tooManyLinks => "Too many levels of symbolic links"
  | .nulInName => "file name contained an unexpected NUL byte"
  | .badDescriptor => "Bad file descriptor"
  | .notText => "stream did not contain valid UTF-8"

/-- The number that the system gives a fault, if it is one of its own. -/
def ReadFault.number? : ReadFault → Option Nat
  | .notFound => some 2
  | .isDirectory => some 21
  | .notDirectory => some 20
  | .nameTooLong => some 36
  | .tooManyLinks => some 40
  | .badDescriptor => some 9
  | .nulInName | .notText => none

/-- What is said of a fault. -/
def ReadFault.message (e : ReadFault) : String :=
  match e.number? with
  | some n => e.wording ++ " (os error " ++ toString n ++ ")"
  | none => e.wording

namespace FileTree

/-- The most bytes that a name has. -/
def nameLimit : Nat := 255

/-- The most bytes that a path has. -/
def pathLimit : Nat := 4095

/-- The most links that one path leads over. -/
def linkLimit : Nat := 40

/-- What stands at a place. -/
def node? (t : FileTree) (here : Location) : Option Node :=
  if here = [] then some .directory else t.nodes.get? here

/-- Whether a place is a directory. -/
def isDirectoryAt (t : FileTree) (here : Location) : Bool :=
  t.node? here = some .directory

/-- The components after a place, one step after the other. The place may be a directory that was taken away
while something works in it: then nothing is found there. -/
def walk (t : FileTree) (links : Nat) (here : Location) : List Component → Except ReadFault Location
  | [] => .ok here
  | .root :: cs => t.walk links [] cs
  | c :: cs =>
    if !t.isDirectoryAt here then
      if (t.node? here).isSome then .error .notDirectory
      else
        match c with
        | .current => t.walk links here cs
        | _ => .error .notFound
    else
      match c with
      | .root => t.walk links [] cs
      | .current => t.walk links here cs
      | .parent => t.walk links here.dropLast cs
      | .name s =>
        if nameLimit < s.length then .error .nameTooLong
        else
          match t.node? (here ++ [s]) with
          | none => .error .notFound
          | some (.link target) =>
            match _h : links with
            | 0 => .error .tooManyLinks
            | fewer + 1 => t.walk fewer here (target.components ++ cs)
          | some _ => t.walk links (here ++ [s]) cs
termination_by cs => (links, cs.length)

/-- Whether a path says itself that it names a directory: by a slash or a `.` at its end. -/
def namesDirectory (p : Path) : Bool :=
  match p.pieces.getLast? with
  | some piece => piece == [] || piece == Path.here
  | none => false

/-- The place that a path names. -/
def locate (t : FileTree) (p : Path) : Except ReadFault Location :=
  if p.bytes.contains 0 then .error .nulInName
  else if p.bytes = [] then .error .notFound
  else if pathLimit < p.bytes.length then .error .nameTooLong
  else
    match t.walk linkLimit t.start p.components with
    | .ok here =>
      if namesDirectory p && (t.node? here).isSome && !t.isDirectoryAt here then .error .notDirectory else .ok here
    | .error fault => .error fault

/-- A path in two: the way to the last piece, and that piece. -/
def splitLast (p : Path) : Path × Name :=
  let kept := (p.bytes.reverse.dropWhile (· == Path.slash)).reverse
  let name := (kept.reverse.takeWhile (· != Path.slash)).reverse
  let dir := kept.take (kept.length - name.length)
  (⟨if dir = [] then Path.here else dir⟩, name)

/-- The place that a path names, or would name if its last piece were there. -/
def locateNew (t : FileTree) (p : Path) : Except ReadFault Location :=
  match t.locate p with
  | .error .notFound =>
    if p.bytes = [] then .error .notFound
    else
      let (dir, name) := splitLast p
      match t.locate dir with
      | .ok here =>
        if (t.node? here).isNone then .error .notFound
        else if !t.isDirectoryAt here then .error .notDirectory
        else if (t.node? (here ++ [name])).isSome then .error .notFound
        else .ok (here ++ [name])
      | .error fault => .error fault
  | found => found

/-- The content of a file, as bytes. -/
def readBytes (t : FileTree) (p : Path) : Except ReadFault (List UInt8) :=
  match t.locate p with
  | .ok here =>
    match t.node? here with
    | some (.file content _) => .ok content
    | some .sink | some .zeros => .ok []
    | some .directory => .error .isDirectory
    | some (.link _) | none => .error .notFound
  | .error fault => .error fault

/-- The content of a file, as a text. -/
def read (t : FileTree) (p : Path) : Except ReadFault String :=
  match t.readBytes p with
  | .ok content =>
    match Text.decode content with
    | .ok text => .ok text
    | .error _ => .error .notText
  | .error fault => .error fault

/-- What a path leads to. -/
def nodeOf? (t : FileTree) (p : Path) : Option Node :=
  (t.locate p).toOption.bind t.node?

/-- Whether a path names a link itself. -/
def isLink (t : FileTree) (p : Path) : Bool :=
  let (dir, name) := splitLast p
  match t.locate dir with
  | .ok here => (t.node? (here ++ [name]) matches some (.link _))
  | .error _ => false

/-- Whether a path names a file. -/
def isFile (t : FileTree) (p : Path) : Bool :=
  match t.locate p with
  | .ok here =>
    match t.node? here with
    | some (.file ..) => true
    | _ => false
  | .error _ => false

/-- The places above a place, the root apart. -/
def above (here : Location) : List Location :=
  (List.range here.length).tail.map fun n => here.take n

/-- All places at which what stands at a place stands too. -/
def twins (t : FileTree) (here : Location) : List Location :=
  match t.shared.get? here with
  | some n => (t.shared.entries.filter fun e => e.2 = n).map Prod.fst
  | none => [here]

/-- Puts something at a place. What is known of a place at which nothing stood is forgotten. -/
def putAt (t : FileTree) (here : Location) (node : Node) : FileTree :=
  if (t.node? here).isSome then
    { t with nodes := (t.twins here).foldl (fun nodes place => nodes.insert place node) t.nodes }
  else
    { t with
      nodes := t.nodes.insert here node
      modes := t.modes.erase here
      times := t.times.erase here
      shared := t.shared.erase here }

/-- Takes what stands at a place away. -/
def eraseAt (t : FileTree) (here : Location) : FileTree :=
  { t with
    nodes := t.nodes.erase here
    modes := t.modes.erase here
    times := t.times.erase here
    shared := t.shared.erase here }

/-- The permissions that something usually has, as bits: three for the owner, the group and others each, and
those of a directory in which only owners take their files away. -/
def usualMode (node : Node) : Nat :=
  match node with
  | .directory | .file _ true => 0o755
  | .file _ false => 0o644
  | .sink | .zeros => 0o666
  | .link _ => 0o777

/-- The permissions of a place. -/
def modeAt (t : FileTree) (here : Location) : Nat :=
  (t.modes.get? here).getD (((t.node? here).map usualMode).getD 0)

/-- The tree with permissions of a place; a file that anybody may run is one that the system runs. -/
def setMode (t : FileTree) (here : Location) (mode : Nat) : FileTree :=
  (t.twins here).foldl (fun t here =>
    let t :=
      match t.node? here with
      | some (.file content _) => { t with nodes := t.nodes.insert here (.file content (mode &&& 0o111 ≠ 0)) }
      | _ => t
    if (t.node? here).map usualMode = some mode then { t with modes := t.modes.erase here }
    else { t with modes := t.modes.insert here mode }) t

/-- Whether a place was changed before another one. Places that were not changed since the start are older
than others and of one age. -/
def isOlder (t : FileTree) (here there : Location) : Bool :=
  match t.times.get? here, t.times.get? there with
  | some a, some b => a < b
  | none, some _ => true
  | _, none => false

/-- The tree with the time of a change of a place. -/
def setTime (t : FileTree) (here : Location) (time : Int) : FileTree :=
  { t with times := (t.twins here).foldl (fun times place => times.insert place time) t.times }

/-- Makes what stands at a place stand at another one too. -/
def share (t : FileTree) (here there : Location) : FileTree :=
  match t.node? here with
  | none => t
  | some node =>
    let number := (t.shared.get? here).getD ((t.shared.entries.map fun e => e.2 + 1).foldl max 0)
    let t := (t.eraseAt there).putAt there node
    { t with
      modes := (match t.modes.get? here with
        | some mode => t.modes.insert there mode
        | none => t.modes)
      times := (match t.times.get? here with
        | some time => t.times.insert there time
        | none => t.times)
      shared := (t.shared.insert here number).insert there number }

/-- Takes a place and all below it away. -/
def eraseTree (t : FileTree) (here : Location) : FileTree :=
  (t.nodes.keys.filter fun l => here.isPrefixOf l).foldl eraseAt t

/-- Moves a place and all below it, with what is known of them. -/
def moveTree (t : FileTree) (here there : Location) : FileTree :=
  let t := t.eraseTree there
  (t.nodes.entries.filter fun e => here.isPrefixOf e.1).foldl (fun t (place, node) =>
    let target := there ++ place.drop here.length
    let known := t
    let t := (t.eraseAt place).putAt target node
    { t with
      modes := (match known.modes.get? place with
        | some mode => t.modes.insert target mode
        | none => t.modes)
      times := (match known.times.get? place with
        | some time => t.times.insert target time
        | none => t.times)
      shared := (match known.shared.get? place with
        | some n => t.shared.insert target n
        | none => t.shared) }) t

/-- Makes a directory and those above it. -/
def makeDirectory (t : FileTree) (here : Location) : FileTree :=
  (above here ++ [here]).foldl (fun t d => if t.isDirectoryAt d then t else t.putAt d .directory) t

/-- Puts a file at a place. -/
def writeAt (t : FileTree) (here : Location) (content : List UInt8) : FileTree :=
  ((above here).foldl makeDirectory t).putAt here (.file content false)

/-- The place that a path names if no file stands on the way. -/
def locationOf (p : Path) : Location :=
  p.normalNames

/-- Puts a file where a path says. -/
def write (t : FileTree) (p : Path) (content : String) : FileTree :=
  t.writeAt (locationOf p) (bytesOf content)

/-- Takes a file away. -/
def remove (t : FileTree) (p : Path) : FileTree :=
  { t with nodes := t.nodes.erase (locationOf p) }

/-- In a tree without files nothing is read. -/
theorem read_empty_ne (path : Path) (text : String) :
    ({} : FileTree).read path ≠ .ok text := by
  have hbytes : ∀ content, ({} : FileTree).readBytes path ≠ .ok content := by
    intro content
    unfold readBytes
    cases ({} : FileTree).locate path with
    | error fault => simp
    | ok here => by_cases h : here = [] <;> simp [node?, h]
  unfold read
  cases h : ({} : FileTree).readBytes path with
  | error fault => simp
  | ok content => exact absurd h (hbytes content)

end FileTree

end ClassLens
