import ClassLens.Tool.Copying
import ClassLens.Tool.Dates
import ClassLens.Tool.Modes

/-! # Programs that change files

Programs that make, copy, move and remove files. They work on the shared file tree.

* `entriesIn`, `pathOf`, `placeOf`: the names in a directory, and the places of paths.
* `Keeper`: how something is done with a file that is already there. -/

namespace ClassLens.Tool

open Shell

/-- The names in a directory, in order. -/
def entriesIn (t : FileTree) (here : Location) : List String :=
  sortedNames (namesIn t here)
where
  /-- Names in the order of their bytes. -/
  sortedNames (names : List String) : List String := names.mergeSort fun a b => a ≤ b

/-- The path of a text. -/
def pathOf (s : String) : Path := ⟨toBytes s⟩

/-- The place that a path itself names, though a link may stand there. -/
def placeOf (t : FileTree) (s : String) : Except ReadFault Location :=
  if t.isLink (pathOf s) && !s.endsWith "/" then
    let (dir, name) := FileTree.splitLast (pathOf s)
    (t.locate dir).map (· ++ [name])
  else t.locate (pathOf s)

/-- Changes the files. -/
def setFiles (f : FileTree → FileTree) : Run Unit :=
  modifyWorld fun w => { w with files := f w.files }

/-- Does something with each operand; the status is one if it fails for one of them. -/
def each (operands : List String) (body : String → Run Bool) : Run Nat := do
  let done ← operands.mapM body
  return if done.all id then 0 else 1

/-- The last piece of a path. -/
def lastName (path : String) : String := ofBytes (FileTree.splitLast (pathOf path)).2

/-- A path in a directory. -/
def inDirectory (dir name : String) : String :=
  if dir.endsWith "/" then dir ++ name else dir ++ "/" ++ name

/-- Asks whether something is to be done, if one asks at all. -/
def confirms (asks : Bool) (question : String) : Run Bool := do
  if !asks then return true
  tell question
  let answer ← readLineOf 0
  return answer.startsWith "y" || answer.startsWith "Y"

/-- What kind of thing stands at a place. -/
def kindOf (t : FileTree) (here : Location) : String :=
  match t.node? here with
  | some .directory => "directory"
  | some (.file [] _) => "regular empty file"
  | some (.file ..) => "regular file"
  | some (.link _) => "symbolic link"
  | _ => "character special file"

/-! ### Removing -/

/-- Takes a file away, which those that have it open keep. -/
def takeAway (here : Location) : Run Unit := modifyWorld fun w =>
  let isOpen := w.channels.any fun c =>
    match c with
    | .file place .. => place == here
    | _ => false
  if isOpen && (w.files.shared.get? here).isNone then
    -- no path leads to a name with a slash
    let hidden : Location := [Path.slash :: toBytes (toString w.files.nodes.size)]
    { w with
      files := w.files.moveTree here hidden
      channels := w.channels.map fun c =>
        match c with
        | .file place offset appends => if place == here then .file hidden offset appends else c
        | c => c }
  else { w with files := w.files.eraseTree here }

/-- Removes what stands at a path, with all below it. -/
def removeAt (self : String) (force verbose asks : Bool) : Nat → String → Location → Run Bool
  | 0, _, _ => return false
  | fuel + 1, path, here => do
    let t ← files
    let isDir := t.isDirectoryAt here
    if isDir then
      let names := entriesIn t here
      if !(← confirms (asks && !names.isEmpty) (self ++ ": descend into directory " ++ quotedName path ++ "? ")) then
        return true
      let done ← names.mapM fun name =>
        removeAt self force verbose asks fuel (inDirectory path name) (here ++ [toBytes name])
      if !(← confirms asks (self ++ ": remove directory " ++ quotedName path ++ "? ")) then return true
      if (entriesIn (← files) here).isEmpty then
        setFiles fun t => t.eraseTree here
        if verbose then say ("removed directory " ++ quotedName path ++ "\n")
        return done.all id
      else
        if !asks then complain self ("cannot remove " ++ quotedName path ++ ": Directory not empty")
        return false
    else
      if !(← confirms asks (self ++ ": remove " ++ kindOf t here ++ " " ++ quotedName path ++ "? ")) then return true
      takeAway here
      if verbose then say ("removed " ++ quotedName path ++ "\n")
      return true

/-- Removes files, or whole directories. -/
def rm : Tool := fun self args =>
  let o : Options := {
    flags := "frRidvI".toList ++ ['\x01', '\x02', '\x03', '\x05']
    optional := ['\x04']
    names := [("force", 'f'), ("recursive", 'r'), ("dir", 'd'), ("verbose", 'v'), ("interactive", '\x04'),
      ("one-file-system", '\x01'), ("no-preserve-root", '\x02'), ("preserve-root", '\x03')] }
  o.read self args 1 fun g => do
    let last := (g.options.filter fun e => "fiI\x04".toList.contains e.1).getLast?
    let force := last.any fun e => e.1 == 'f'
    let asks := last.any fun e => e.1 == 'i' || (e.1 == '\x04' && (e.2 = "" || e.2 = "always" || e.2 = "yes"))
    let recursive := g.has 'r' || g.has 'R'
    if g.operands.isEmpty then
      if g.has 'f' then return ← (return 0) else return ← usage self "missing operand" 1
    let once := last.any fun e => e.1 == 'I' || (e.1 == '\x04' && e.2 = "once")
    if once && (recursive || g.operands.length > 3) then
      let count := g.operands.length
      let question := self ++ ": remove " ++ toString count ++ (if count = 1 then " argument" else " arguments") ++
        (if recursive then " recursively? " else "? ")
      if !(← confirms true question) then return 0
    each g.operands fun path => do
      let t ← files
      let name := lastName path
      if recursive && (name = "." || name = "..") then
        complain self ("refusing to remove '.' or '..' directory: skipping " ++ quotedName path)
        return false
      match placeOf t path with
      | .error fault =>
        if g.has 'f' && (fault = .notFound || fault = .notDirectory) then return true
        complain self ("cannot remove " ++ quotedName path ++ ": " ++ fault.wording)
        return false
      | .ok here =>
        if recursive && here = [] && !g.has '\x02' then
          complain self "it is dangerous to operate recursively on '/'"
          complain self "use --no-preserve-root to override this failsafe"
          return false
        if t.isDirectoryAt here && !recursive then
          if !g.has 'd' then
            complain self ("cannot remove " ++ quotedName path ++ ": Is a directory")
            return false
          if !(entriesIn t here).isEmpty then
            complain self ("cannot remove " ++ quotedName path ++ ": Directory not empty")
            return false
        removeAt self force (g.has 'v') asks 200 path here

/-- Removes the name of a file. -/
def unlink : Tool := fun self args =>
  ({ flags := [] } : Options).read self args 1 fun g => do
    match g.operands with
    | [] => usage self "missing operand" 1
    | [path] =>
      let t ← files
      match placeOf t path with
      | .error fault =>
        complain self ("cannot unlink " ++ quotedName path ++ ": " ++ fault.wording)
        return 1
      | .ok here =>
        if t.isDirectoryAt here then
          complain self ("cannot unlink " ++ quotedName path ++ ": Is a directory")
          return 1
        takeAway here
        return 0
    | _ :: extra :: _ => usage self ("extra operand " ++ quoted extra) 1

/-- Removes empty directories. -/
def rmdir : Tool := fun self args =>
  let o : Options := {
    flags := ['p', 'v', '\x01']
    names := [("parents", 'p'), ("verbose", 'v'), ("ignore-fail-on-non-empty", '\x01')] }
  o.read self args 1 fun g => do
    let one (path : String) : Run Bool := do
      let t ← files
      let fail (fault : String) : Run Bool := do
        complain self ("failed to remove " ++ quotedName path ++ ": " ++ fault)
        return false
      if g.has 'v' then say (self ++ ": removing directory, " ++ quotedName path ++ "\n")
      match placeOf t path with
      | .error fault => fail fault.wording
      | .ok here =>
        if !t.isDirectoryAt here then fail "Not a directory"
        else if !(namesIn t here).isEmpty then
          if g.has '\x01' then return true else fail "Directory not empty"
        else
          setFiles fun t => t.eraseTree here
          return true
    let rec upwards : Nat → String → Run Bool
      | 0, _ => return true
      | n + 1, path => do
        let (dir, name) := FileTree.splitLast (pathOf path)
        let above := ofBytes dir.bytes
        let above := String.ofList (above.toList.reverse.dropWhile (· == '/')).reverse
        if name = [] || above = "." || above = "" then return true
        else if ← one above then upwards n above
        else return false
    if g.operands.isEmpty then usage self "missing operand" 1
    else each g.operands fun path => do
      if ← one path then
        if g.has 'p' then upwards 100 path else return true
      else return false

/-! ### Making -/

/-- Makes directories. -/
def mkdir : Tool := fun self args =>
  let o : Options := {
    flags := ['p', 'v', 'Z']
    valued := ['m']
    names := [("parents", 'p'), ("mode", 'm'), ("verbose", 'v')] }
  o.read self args 1 fun g => do
    if g.operands.isEmpty then return ← usage self "missing operand" 1
    let mode := (g.value? 'm').map Modes.compile?
    if mode matches some none then
      complain self ("invalid mode " ++ quoted ((g.value? 'm').getD ""))
      return 1
    let mask := (← shell).mask
    let make (path : String) (here : Location) (isLast : Bool) : Run Unit := do
      keepDirectory here
      if isLast then
        if let some (some changes) := mode then
          setFiles fun t => t.setMode here (Modes.adjust changes true mask 0o777)
      if g.has 'v' then say (self ++ ": created directory " ++ quotedName path ++ "\n")
    each g.operands fun path => do
      let t ← files
      let fail (path fault : String) : Run Bool := do
        complain self ("cannot create directory " ++ quotedName path ++ ": " ++ fault)
        return false
      match t.locate (pathOf path) with
      | .ok here => if g.has 'p' && t.isDirectoryAt here then return true else fail path "File exists"
      | .error .nameTooLong => fail path ReadFault.nameTooLong.wording
      | .error _ =>
        if g.has 'p' then
          -- the pieces of the path, one after the other
          let pieces := (path.splitOn "/").filter (· ≠ "")
          let start := if path.startsWith "/" then "/" else ""
          let rec go (before : String) : List String → Run Bool
            | [] => return true
            | piece :: rest => do
              let path := if before = "" then piece else inDirectory before piece
              let t ← files
              match t.locate (pathOf path), t.locateNew (pathOf path) with
              | .ok here, _ =>
                if t.isDirectoryAt here then go path rest
                else fail path (if rest.isEmpty then "File exists" else "Not a directory")
              | .error _, .ok here =>
                make path here rest.isEmpty
                go path rest
              | .error _, .error fault => fail path fault.wording
          go start pieces
        else
          let bare := String.ofList (path.toList.reverse.dropWhile (· == '/')).reverse
          match t.locateNew (pathOf bare) with
          | .ok here =>
            if (t.node? here).isSome then fail path "File exists"
            else
              make path here true
              return true
          | .error fault => fail path fault.wording

/-- The time that a stamp of digits says, such as `202401311259.30`. -/
def stampOf? (now : Moment) (s : String) : Option Int :=
  let (digits, second) : List Char × Option (List Char) :=
    match s.splitOn "." with
    | [a] => (a.toList, none)
    | [a, b] => (a.toList, some b.toList)
    | _ => ([], none)
  let value (cs : List Char) : Int := ((String.ofList cs).toNat?).getD 0
  let okay := digits.all Char.isDigit && second.all fun d => d.length = 2 && d.all Char.isDigit
  let n := digits.length
  if !okay || (n ≠ 8 && n ≠ 10 && n ≠ 12) then none
  else
    let rest := digits.drop (n - 8)
    let year : Int :=
      if n = 8 then now.year
      else if n = 12 then value (digits.take 4)
      else if value (digits.take 2) < 69 then 2000 + value (digits.take 2) else 1900 + value (digits.take 2)
    let part (i : Nat) : Int := value ((rest.drop (2 * i)).take 2)
    let seconds := (second.map value).getD 0
    let isTime := 1 ≤ part 0 && part 0 ≤ 12 && 1 ≤ part 1 && part 1 ≤ Dates.daysIn year (part 0).toNat &&
      part 2 < 24 && part 3 < 60 && seconds ≤ 60
    if isTime then some (Calendar.secondsOf year (part 0) (part 1) (part 2) (part 3) seconds) else none

/-- Makes files that are not there, and sets the times of others. -/
def touch : Tool := fun self args =>
  let o : Options := {
    flags := ['a', 'c', 'm', 'f', 'h']
    valued := ['d', 't', 'r', '\x01']
    names := [("no-create", 'c'), ("date", 'd'), ("no-dereference", 'h'), ("reference", 'r'), ("time", '\x01')] }
  o.read self args 1 fun g => do
    let now ← present
    let t ← files
    let given : Except String (Option Int) :=
      match g.value? 't', g.value? 'd', g.value? 'r' with
      | some s, _, _ =>
        match stampOf? (momentOf (now / 1000000000)) s with
        | some n => .ok (some (n * 1000000000))
        | none => .error ("invalid date format " ++ quoted s)
      | none, some s, none =>
        match Dates.read now s with
        | some (n, f) => .ok (some (n * 1000000000 + f))
        | none => .error ("invalid date format " ++ quoted s)
      | none, said, some path =>
        match t.locate (pathOf path) with
        | .error fault => .error ("failed to get attributes of " ++ quotedName path ++ ": " ++ fault.wording)
        | .ok here =>
          let time := timeOf t here
          match said with
          | none => .ok (some time)
          | some s =>
            match Dates.read time.toNat s with
            | some (n, f) => .ok (some (n * 1000000000 + f))
            | none => .error ("invalid date format " ++ quoted s)
      | none, none, none => .ok none
    match given with
    | .error e =>
      complain self e
      return 1
    | .ok time =>
      if g.operands.isEmpty then usage self "missing file operand" 1
      else each g.operands fun path => do
        let t ← files
        let time := time.getD now - startOfRun
        let setTime (here : Location) : Run Unit :=
          if g.has 'a' && !g.has 'm' then pure () else setFiles fun t => t.setTime here time
        match (if g.has 'h' then placeOf t path else t.locate (pathOf path)), t.locateNew (pathOf path) with
        | .ok here, _ =>
          setTime here
          return true
        | .error _, .ok here =>
          if !g.has 'c' && !g.has 'h' then
            keepContent here []
            setTime here
          return true
        | .error _, .error fault =>
          if g.has 'c' && fault = .notFound then return true
          complain self ((if fault = .isDirectory then "setting times of " else "cannot touch ") ++ quotedName path ++
            ": " ++ fault.wording)
          return false

/-- The next number of a row that looks random. -/
def drawn (n : Nat) : Nat := (n * 6364136223846793005 + 1442695040888963407) % Nat.pow 2 64

/-- A number that looks random. -/
def draw : Run Nat := do
  let n := drawn (← world).drawn
  modifyWorld fun w => { w with drawn := n }
  return n / Nat.pow 2 33

/-- So many letters and digits that look random. -/
def randomName : Nat → Run String
  | 0 => return ""
  | n + 1 => do
    let letters := "abcdefghijklmnopqrstuvwxyzABCDEFGHIJKLMNOPQRSTUVWXYZ0123456789".toList
    let c := letters.getD ((← draw) % letters.length) 'x'
    return String.singleton c ++ (← randomName n)

/-- Makes a file or a directory with a name that is new. -/
def mktemp : Tool := fun self args =>
  let o : Options := {
    flags := ['d', 'u', 'q', 't', 'V']
    valued := ['p', '\x01']
    optional := ['\x02']
    names := [("directory", 'd'), ("dry-run", 'u'), ("quiet", 'q'), ("suffix", '\x01'), ("tmpdir", '\x02')] }
  o.read self args 1 fun g => do
    let template := g.operands.headD "tmp.XXXXXXXXXX"
    let fail (message : String) : Run Nat := do
      complain self message
      return 1
    if g.operands.length > 1 then return ← usage self "too many templates" 1
    let isDefault := g.operands.isEmpty
    let suffixGiven := g.value? '\x01'
    let cs := template.toList
    let tail := if suffixGiven.isSome then [] else cs.reverse.takeWhile (· != 'X') |>.reverse
    let body := cs.take (cs.length - tail.length)
    if suffixGiven.isSome && body.getLast? ≠ some 'X' then
      return ← fail ("with --suffix, template " ++ quoted template ++ " must end in X")
    let suffix := suffixGiven.getD (String.ofList tail)
    if suffix.toList.contains '/' then
      return ← fail ("invalid suffix " ++ quoted suffix ++ ", contains directory separator")
    let count := (body.reverse.takeWhile (· == 'X')).length
    if count < 3 then return ← fail ("too few X's in template " ++ quoted template)
    let start := String.ofList (body.take (body.length - count))
    let env := (((← shell).exported.lookup "TMPDIR").filter (· ≠ "")).getD "/tmp"
    let dir : Option String :=
      match g.options.reverse.find? fun e => e.1 == 'p' || e.1 == '\x02' with
      | some (_, value) => some (if value = "" then env else value)
      | none => if isDefault || g.has 't' then some env else none
    if g.has 't' && template.toList.contains '/' then
      return ← fail ("invalid template, " ++ quoted template ++ ", contains directory separator")
    if dir.isSome && template.startsWith "/" then
      return ← fail ("invalid template, " ++ quoted template ++ "; with --tmpdir, it may not be absolute")
    let path := (match dir with
      | some d => inDirectory d start
      | none => start) ++ (← randomName count) ++ suffix
    let shown := (match dir with
      | some d => inDirectory d template
      | none => template) ++ (if suffixGiven.isSome then suffix else "")
    if g.has 'u' then
      say (path ++ "\n")
      return 0
    match (← files).locateNew (pathOf path) with
    | .error fault =>
      if g.has 'q' then return 1
      fail ("failed to create " ++ (if g.has 'd' then "directory" else "file") ++ " via template " ++ quoted shown ++
        ": " ++ fault.wording)
    | .ok here =>
      if g.has 'd' then keepDirectory here else keepContent here []
      setFiles fun t => t.setMode here (if g.has 'd' then 0o700 else 0o600)
      say (path ++ "\n")
      return 0

/-- A content that is made so long. -/
def resized (content : List UInt8) (size : Nat) : List UInt8 :=
  content.take size ++ List.replicate (size - content.length) 0

/-- Makes files longer or shorter. -/
def truncate : Tool := fun self args =>
  let o : Options := {
    flags := ['c', 'o']
    valued := ['r', 's']
    names := [("no-create", 'c'), ("io-blocks", 'o'), ("reference", 'r'), ("size", 's')] }
  o.read self args 1 fun g => do
    let text := ((g.value? 's').getD "").trimAscii.toString
    let (sign, number) : Option Char × String := match text.toList with
      | c :: cs => if "+-<>/%".toList.contains c then (some c, (String.ofList cs).trimAscii.toString) else (none, text)
      | [] => (none, "")
    let size := sizeOf? number
    if (g.value? 's').isSome && size.isNone then
      complain self ("Invalid number: " ++ quoted text)
      return 1
    if (g.value? 's').isNone && (g.value? 'r').isNone then
      return ← usage self "you must specify either '--size' or '--reference'" 1
    if (g.value? 'r').isSome && (g.value? 's').isSome && sign.isNone then
      return ← usage self "you must specify a relative '--size' with '--reference'" 1
    if g.operands.isEmpty then return ← usage self "missing file operand" 1
    if (sign == some '/' || sign == some '%') && size == some 0 then
      complain self "division by zero"
      return 1
    let model : Except String (Option Nat) ← do
      match g.value? 'r' with
      | none => pure (.ok none)
      | some path =>
        match (← files).readBytes (pathOf path) with
        | .ok content => pure (.ok (some content.length))
        | .error fault => pure (.error ("cannot stat " ++ quotedName path ++ ": " ++ fault.wording))
    match model with
    | .error e =>
      complain self e
      return 1
    | .ok model => each g.operands fun path => do
      let t ← files
      match t.locateNew (pathOf path) with
      | .error fault =>
        complain self ("cannot open " ++ quotedName path ++ " for writing: " ++ fault.wording)
        return false
      | .ok here =>
        match t.node? here with
        | some .directory =>
          complain self ("cannot open " ++ quotedName path ++ " for writing: Is a directory")
          return false
        | found =>
          if found.isNone && g.has 'c' then return true
          let content := match found with
            | some (.file content _) => content
            | _ => []
          let old := model.getD content.length
          let n := size.getD 0
          let new := match sign with
            | some '+' => old + n
            | some '-' => old - n
            | some '<' => min old n
            | some '>' => max old n
            | some '/' => old / n * n
            | some '%' => (old + n - 1) / n * n
            | _ => if (g.value? 's').isSome then n else old
          keepContent here (resized content new)
          return true

/-! ### Copying and moving -/

/-- How something is done with a file that may be there already. -/
structure Keeper where
  self : String
  verbose : Bool := false
  /-- Whether files that are there are left alone, or one asks first, or only older ones are replaced. -/
  spares : Bool := false
  asks : Bool := false
  updates : Bool := false
  force : Bool := false
  /-- What the name of a file gets behind it that would be replaced. -/
  saves : Option String := none

/-- How files that are there are treated, by the options of a program. -/
def Keeper.ofOptions (self : String) (g : Given) : Keeper :=
  let last := (g.options.filter fun e => e.1 == 'n' || e.1 == 'i' || e.1 == 'f').getLast?.map Prod.fst
  { self
    verbose := g.has 'v'
    spares := last == some 'n'
    asks := last == some 'i'
    updates := g.has 'u'
    force := g.has 'f'
    saves := if g.has 'b' || g.has 'S' || g.has '\x06' then some ((g.value? 'S').getD "~") else none }

/-- Whether a file may be replaced; a copy of it is kept if that is asked for, under the path that is given. -/
def Keeper.mayReplace (k : Keeper) (path : String) (source there : Location) : Run (Option String) := do
  let t ← files
  if (t.node? there).isNone then return some ""
  if k.spares then return none
  if k.updates && !t.isOlder there source then return none
  if !(← confirms k.asks (k.self ++ ": overwrite " ++ quotedName path ++ "? ")) then return none
  match k.saves with
  | some suffix =>
    if t.isDirectoryAt there then return some ""
    else
      setFiles fun t => t.moveTree there (there.dropLast ++ [(there.getLast?.getD []) ++ toBytes suffix])
      return some (" (backup: " ++ quotedName (path ++ suffix) ++ ")")
  | none => return some ""

/-- The sources and the target of a copy, and whether the target is a directory. -/
def copyOperands (self : String) (g : Given) (body : List String → String → Bool → Run Nat) : Run Nat := do
  let isDirectory (path : String) : Run Bool := return (← files).nodeOf? (pathOf path) matches some .directory
  let refuse (target : String) : Run Nat := do
    complain self ((if self = "ln" || self = "cp" || self = "mv" || self = "install" then "target " else "target directory ") ++
      quotedName target ++ ": " ++
      (if ((← files).nodeOf? (pathOf target)).isSome then "Not a directory" else "No such file or directory"))
    return 1
  match g.value? 't' with
  | some target =>
    if g.operands.isEmpty then usage self "missing file operand" 1
    else if ← isDirectory target then body g.operands target true
    else
      complain self ("target directory " ++ quotedName target ++ ": " ++
        (if ((← files).nodeOf? (pathOf target)).isSome then "Not a directory" else "No such file or directory"))
      return 1
  | none =>
    match g.operands with
    | [] => usage self "missing file operand" 1
    | [one] => usage self ("missing destination file operand after " ++ quotedName one) 1
    | operands =>
      let target := operands.getLast?.getD ""
      let sources := operands.dropLast
      if g.has 'T' then
        if sources.length > 1 then usage self ("extra operand " ++ quotedName (operands.getD 2 "")) 1
        else body sources target false
      else
        let isDir ← isDirectory target
        if sources.length > 1 && !isDir then refuse target
        else if !isDir && target.endsWith "/" && !(self = "mv") then
          match sources with
          | [source] =>
            if ((← files).nodeOf? (pathOf source)) matches some .directory then body sources target isDir
            else
              complain self ("cannot create regular file " ++ quotedName target ++ ": Not a directory")
              return 1
          | _ => body sources target isDir
        else body sources target isDir

/-- How things are copied. -/
structure Copying where
  keeper : Keeper
  recursive : Bool := false
  /-- Whether links are copied as links. -/
  keepsLinks : Bool := false
  keepsTimes : Bool := false
  keepsModes : Bool := false
  /-- Whether other names are made in place of copies: for the file, or links that lead to it. -/
  shares : Bool := false
  links : Bool := false
  removes : Bool := false

/-- Copies what stands at a place to another path. -/
def Copying.copyAt (c : Copying) : Nat → Bool → String → Location → String → Run Bool
  | 0, _, _, _, _ => return false
  | fuel + 1, isTop, source, here, dest => do
    let t ← files
    let self := c.keeper.self
    let fail (message : String) : Run Bool := do
      complain self message
      return false
    let node := (t.node? here).getD .sink
    let isDir := node matches .directory
    let asLink := node matches .link _
    let found := if asLink || c.shares || c.links then placeOf t dest else t.locate (pathOf dest)
    let target : Except ReadFault Location := match found with
      | .ok there => .ok there
      | .error _ =>
        let bare := String.ofList (dest.toList.reverse.dropWhile (· == '/')).reverse
        t.locateNew (pathOf (if bare = "" then dest else bare))
    match target with
    | .error fault =>
      if t.isLink (pathOf dest) && fault = .notFound then
        fail ("not writing through dangling symlink " ++ quotedName dest)
      else if isDir then fail ("cannot create directory " ++ quotedName dest ++ ": " ++ fault.wording)
      else fail ("cannot create regular file " ++ quotedName dest ++ ": " ++ fault.wording)
    | .ok there =>
      let isThere := (t.node? there).isSome
      if isThere && (there = here || (t.twins here).contains there) && !(isDir && !isTop) then
        if c.keeper.spares then return true
        else if c.links || (c.shares && there ≠ here) then return true
        else return ← fail (quotedName source ++ " and " ++ quotedName dest ++ " are the same file")
      if isDir then
        if isThere && !t.isDirectoryAt there then
          fail ("cannot overwrite non-directory " ++ quotedName dest ++ " with directory " ++ quotedName source)
        else if here.isPrefixOf there then
          fail ("cannot copy a directory, " ++ quotedName source ++ ", into itself, " ++ quotedName dest)
        else
          if !isThere then
            keepDirectory there
            if c.keeper.verbose then say (quotedName source ++ " -> " ++ quotedName dest ++ "\n")
          let done ← (entriesIn t here).mapM fun name =>
            copyAt c fuel false (inDirectory source name) (here ++ [toBytes name]) (inDirectory dest name)
          if c.keepsModes then setFiles fun t => t.setMode there (t.modeAt here)
          if c.keepsTimes then setFiles fun t => t.setTime there (timeOf t here - startOfRun)
          return done.all id
      else if isThere && t.isDirectoryAt there then
        fail ("cannot overwrite directory " ++ quotedName dest ++ " with non-directory" ++
          (if isTop then "" else " " ++ quotedName source))
      else
        match ← c.keeper.mayReplace dest here there with
        | none => return true
        | some note =>
          let mode := t.modeAt here
          let mask := (← shell).mask
          let isNew := ((← files).node? there).isNone
          if c.shares then setFiles fun t => t.share here there
          else if c.links then setFiles fun t => (t.eraseAt there).putAt there (.link (pathOf source))
          else
            match node with
            | .link to_ =>
              setFiles fun t => (t.eraseAt there).putAt there (.link to_)
            | .file content _ =>
              match t.node? there with
              | some .sink | some .zeros => pure ()
              | _ =>
                if c.removes then setFiles fun t => t.eraseAt there
                keepContent there content
                if isNew || c.removes then
                  setFiles fun t => t.setMode there (if c.keepsModes then mode else mode &&& (0o777 - mask % 512))
                else if c.keepsModes then setFiles fun t => t.setMode there mode
            | _ => if isNew then keepContent there [] else pure ()
            if c.keepsTimes then setFiles fun t => t.setTime there (timeOf t here - startOfRun)
          if c.keeper.verbose then say (quotedName source ++ " -> " ++ quotedName dest ++ note ++ "\n")
          return true

/-- Copies files. -/
def cp : Tool := fun self args =>
  let o : Options := {
    flags := "abdfHilLnPpRrsTuvxZ".toList ++ ['\x01', '\x02', '\x03']
    valued := ['S', 't', '\x05']
    optional := ['\x04', '\x06', '\x07', '\x08', '\x0b', '\x0c']
    names := [("archive", 'a'), ("attributes-only", '\x02'), ("backup", '\x06'), ("copy-contents", '\x01'),
      ("dereference", 'L'), ("force", 'f'), ("interactive", 'i'), ("link", 'l'), ("no-clobber", 'n'),
      ("no-dereference", 'P'), ("no-preserve", '\x05'), ("no-target-directory", 'T'), ("parents", '\x03'),
      ("preserve", '\x07'), ("recursive", 'r'), ("reflink", '\x08'), ("remove-destination", '\x0b'),
      ("strip-trailing-slashes", '\x0c'), ("suffix", 'S'), ("symbolic-link", 's'), ("target-directory", 't'),
      ("update", 'u'), ("verbose", 'v')] }
  o.read self args 1 fun g => copyOperands self g fun sources target isDir => do
    let recursive := g.has 'r' || g.has 'R' || g.has 'a'
    let follow := (g.options.filter fun e => "LPHad".toList.contains e.1).getLast?.map Prod.fst
    let keepsLinks := match follow with
      | some 'L' => false
      | some 'P' | some 'a' | some 'd' => true
      | _ => recursive && !g.has 'l'
    let preserved := ((g.values '\x07').flatMap fun v => if v = "" then ["mode", "timestamps"] else v.splitOn ",")
    let c : Copying := {
      keeper := Keeper.ofOptions self g
      recursive
      keepsLinks
      keepsTimes := g.has 'a' || g.has 'p' || preserved.contains "timestamps" || preserved.contains "all"
      keepsModes := g.has 'a' || g.has 'p' || preserved.contains "mode" || preserved.contains "all"
      shares := g.has 'l'
      links := g.has 's'
      removes := g.has '\x0b' }
    each sources fun source => do
      let t ← files
      let bare := String.ofList (source.toList.reverse.dropWhile (· == '/')).reverse
      let dest :=
        if !isDir then target
        else if g.has '\x03' then inDirectory target bare
        else if lastName source = ".." then target
        else inDirectory target (lastName source)
      let streams := ["/dev/stdin", "/dev/fd/0", "/proc/self/fd/0"]
      if streams.contains source then
        match ← readInput source with
        | .ok content =>
          match ← writeFile dest content false with
          | none => return true
          | some fault =>
            complain self ("cannot create regular file " ++ quotedName dest ++ ": " ++ fault.wording)
            return false
        | .error fault =>
          complain self ("cannot stat " ++ quotedName source ++ ": " ++ fault.wording)
          return false
      else
        match if keepsLinks then placeOf t source else t.locate (pathOf source) with
        | .error fault =>
          complain self ("cannot stat " ++ quotedName source ++ ": " ++ fault.wording)
          return false
        | .ok here =>
          if t.isDirectoryAt here && !recursive then
            complain self ("-r not specified; omitting directory " ++ quotedName source)
            return false
          if g.has '\x03' then
            let above := (lastName bare).length
            let dir := (bare.dropEnd above).toString
            let place := start (← shell).directory target
            setFiles fun t => t.makeDirectory (place ++ (pathOf dir).normalNames)
          c.copyAt 200 true source here dest
where
  /-- The place of a directory that is there. -/
  start (here : Location) (path : String) : Location :=
    (if (pathOf path).isAbsolute then [] else here) ++ (pathOf path).normalNames

/-- Moves files. -/
def mv : Tool := fun self args =>
  let o : Options := {
    flags := "bfinTuvZ".toList
    valued := ['S', 't']
    optional := ['\x06']
    names := [("backup", '\x06'), ("force", 'f'), ("interactive", 'i'), ("no-clobber", 'n'),
      ("no-target-directory", 'T'), ("strip-trailing-slashes", 'Z'), ("suffix", 'S'), ("target-directory", 't'),
      ("update", 'u'), ("verbose", 'v')] }
  o.read self args 1 fun g => copyOperands self g fun sources target isDir =>
    each sources fun source => do
      let k := Keeper.ofOptions self g
      let t ← files
      let dest := if isDir then inDirectory target (lastName source) else target
      let fail (message : String) : Run Bool := do
        complain self message
        return false
      let bare (s : String) : String :=
        let b := String.ofList (s.toList.reverse.dropWhile (· == '/')).reverse
        if b = "" then s else b
      match placeOf t (bare source) with
      | .error fault => fail ("cannot stat " ++ quotedName source ++ ": " ++ fault.wording)
      | .ok here =>
        let sourceIsDir := t.isDirectoryAt here
        let found := placeOf t (bare dest)
        let there? : Except ReadFault Location := match found with
          | .ok there => .ok there
          | .error _ => t.locateNew (pathOf (bare dest))
        match there? with
        | .error fault =>
          fail ("cannot move " ++ quotedName source ++ " to " ++ quotedName dest ++ ": " ++ fault.wording)
        | .ok there =>
          let isThere := (t.node? there).isSome
          if !sourceIsDir && !isThere && dest.endsWith "/" then
            return ← fail ("cannot move " ++ quotedName source ++ " to " ++ quotedName dest ++ ": Not a directory")
          if isThere && (there = here || (!sourceIsDir && (t.twins here).contains there)) then
            if k.spares then return true
            return ← fail (quotedName source ++ " and " ++ quotedName dest ++ " are the same file")
          if sourceIsDir && here.isPrefixOf there then
            return ← fail ("cannot move " ++ quotedName source ++ " to a subdirectory of itself, " ++ quotedName dest)
          match ← k.mayReplace dest here there with
          | none => return true
          | some note =>
            let t ← files
            if (t.node? there).isSome then
              if sourceIsDir && !t.isDirectoryAt there then
                return ← fail ("cannot overwrite non-directory " ++ quotedName dest ++ " with directory " ++
                  quotedName source)
              if !sourceIsDir && t.isDirectoryAt there then
                return ← fail ("cannot overwrite directory " ++ quotedName dest ++ " with non-directory")
              if sourceIsDir && !(entriesIn t there).isEmpty then
                return ← fail ("cannot move " ++ quotedName source ++ " to " ++ quotedName dest ++
                  ": Directory not empty")
            modifyWorld fun w => { w with
              files := w.files.moveTree here there
              channels := w.channels.map fun c =>
                match c with
                | .file place offset appends => if place == here then .file there offset appends else c
                | c => c }
            if k.verbose then say ("renamed " ++ quotedName source ++ " -> " ++ quotedName dest ++ note ++ "\n")
            return true

/-- Copies files with permissions of their own, and makes directories. -/
def install : Tool := fun self args =>
  let o : Options := {
    flags := "bcCdDpsTvZ".toList
    valued := ['g', 'm', 'o', 'S', 't']
    names := [("directory", 'd'), ("group", 'g'), ("mode", 'm'), ("owner", 'o'), ("preserve-timestamps", 'p'),
      ("strip", 's'), ("suffix", 'S'), ("target-directory", 't'), ("no-target-directory", 'T'), ("verbose", 'v'),
      ("compare", 'C')] }
  o.read self args 1 fun g => do
    let some changes := Modes.compile? ((g.value? 'm').getD "755")
      | do
        complain self ("invalid mode " ++ quoted ((g.value? 'm').getD ""))
        return 1
    let makeAbove (path : String) (mode : Option Nat) : Run Bool := do
      let pieces := (path.splitOn "/").filter (· ≠ "")
      let rec go (before : String) : List String → Run Bool
        | [] => return true
        | piece :: rest => do
          let path := if before = "" then piece else inDirectory before piece
          let t ← files
          match t.locate (pathOf path), t.locateNew (pathOf path) with
          | .ok here, _ =>
            if t.isDirectoryAt here then
              if rest.isEmpty then
                if let some mode := mode then setFiles fun t => t.setMode here mode
              go path rest
            else
              complain self ("cannot create directory " ++ quotedName path ++ ": File exists")
              return false
          | .error _, .ok here =>
            keepDirectory here
            setFiles fun t => t.setMode here (if rest.isEmpty then mode.getD 0o755 else 0o755)
            if g.has 'v' then say (self ++ ": creating directory " ++ quotedName path ++ "\n")
            go path rest
          | .error _, .error fault =>
            complain self ("cannot create directory " ++ quotedName path ++ ": " ++ fault.wording)
            return false
      go (if path.startsWith "/" then "/" else "") pieces
    if g.has 'd' then
      if g.operands.isEmpty then usage self "missing file operand" 1
      else each g.operands fun path => makeAbove path (some (Modes.adjust changes true 0 0))
    else
      let target := (g.value? 't').getD (g.operands.getLast?.getD "")
      if g.has 'D' && (g.operands.length > 1 || (g.value? 't').isSome) then
        let above := if (g.value? 't').isSome then target
          else ofBytes (FileTree.splitLast (pathOf target)).1.bytes
        let _ ← makeAbove above none
      copyOperands self g fun sources target isDir => each sources fun source => do
        let t ← files
        let dest := if isDir then inDirectory target (lastName source) else target
        match t.locate (pathOf source) with
        | .error fault =>
          complain self ("cannot stat " ++ quotedName source ++ ": " ++ fault.wording)
          return false
        | .ok here =>
          if t.isDirectoryAt here then
            complain self ("omitting directory " ++ quotedName source)
            return false
          let k := Keeper.ofOptions self g
          let c : Copying := { keeper := { k with force := true }, removes := true, keepsTimes := g.has 'p' }
          if !(← c.copyAt 2 true source here dest) then return false
          if let .ok there := (← files).locate (pathOf dest) then
            setFiles fun t => t.setMode there (Modes.adjust changes false 0 0)
          return true

/-! ### Links -/

/-- The path from a directory to a place. -/
def pathFrom (dir there : Location) : String :=
  let rec common : Location → Location → Nat
    | a :: as, b :: bs => if a = b then common as bs + 1 else 0
    | _, _ => 0
  let n := common dir there
  let ups := List.replicate (dir.length - n) ".."
  let names := ups ++ (there.drop n).map ofBytes
  if names.isEmpty then "." else "/".intercalate names

/-- Makes links. -/
def ln : Tool := fun self args =>
  let o : Options := {
    flags := "bdfFiLnPrsTv".toList
    valued := ['S', 't']
    optional := ['\x06']
    names := [("backup", '\x06'), ("directory", 'd'), ("force", 'f'), ("interactive", 'i'), ("logical", 'L'),
      ("no-dereference", 'n'), ("no-target-directory", 'T'), ("physical", 'P'), ("relative", 'r'),
      ("suffix", 'S'), ("symbolic", 's'), ("target-directory", 't'), ("verbose", 'v')] }
  o.read self args 1 fun g => do
    let isDirectory (path : String) : Run Bool := do
      let t ← files
      if g.has 'n' && t.isLink (pathOf path) then return false
      return t.nodeOf? (pathOf path) matches some .directory
    let one (target name : String) : Run Bool := do
      let t ← files
      let kind := if g.has 's' then "symbolic link" else "hard link"
      let fail (fault : String) : Run Bool := do
        complain self ("failed to create " ++ kind ++ " " ++ quotedName name ++
          (if g.has 's' || fault = "File exists" then "" else " => " ++ quotedName target) ++ ": " ++ fault)
        return false
      let source := if g.has 'P' || !g.has 'L' then placeOf t target else t.locate (pathOf target)
      if !g.has 's' then
        match source with
        | .error fault =>
          complain self ("failed to access " ++ quotedName target ++ ": " ++ fault.wording)
          return false
        | .ok here =>
          if t.isDirectoryAt here then
            complain self (named target ++ ": hard link not allowed for directory")
            return false
      let found := placeOf t name
      let there? : Except ReadFault Location := match found with
        | .ok there => .ok there
        | .error _ => t.locateNew (pathOf name)
      match there? with
      | .error fault => fail fault.wording
      | .ok there =>
        let isThere := (t.node? there).isSome
        let k := Keeper.ofOptions self g
        if isThere && !k.force && !k.asks && k.saves.isNone then fail "File exists"
        else if isThere && t.isDirectoryAt there then
          complain self (named name ++ ": cannot overwrite directory")
          return false
        else if isThere && !g.has 's' && source.toOption == some there then
          complain self (quotedName target ++ " and " ++ quotedName name ++ " are the same file")
          return false
        else
          if !(← confirms (k.asks && isThere) (self ++ ": replace " ++ quotedName name ++ "? ")) then return true
          let note ← (do
            match k.saves, isThere with
            | some suffix, true =>
              setFiles fun t => t.moveTree there (there.dropLast ++ [(there.getLast?.getD []) ++ toBytes suffix])
              return " ~ "
            | _, _ => return "")
          if g.has 's' then
            let shown :=
              if g.has 'r' then
                let base := if (pathOf target).isAbsolute then [] else t.start
                pathFrom there.dropLast (((t.locateNew (pathOf target)).toOption).getD
                  (base ++ (pathOf target).normalNames))
              else target
            setFiles fun t => (t.eraseTree there).putAt there (.link (pathOf shown))
            if g.has 'v' then say (quotedName name ++ note ++ " -> " ++ quotedName shown ++ "\n")
          else
            if let .ok here := source then setFiles fun t => t.share here there
            if g.has 'v' then say (quotedName name ++ note ++ " => " ++ quotedName target ++ "\n")
          return true
    match g.value? 't', g.operands with
    | _, [] => usage self "missing file operand" 1
    | some dir, operands =>
      if ← isDirectory dir then each operands fun target => one target (inDirectory dir (lastName target))
      else
        complain self ("target directory " ++ quotedName dir ++ ": " ++
          (if ((← files).nodeOf? (pathOf dir)).isSome then "Not a directory" else "No such file or directory"))
        return 1
    | none, [target] => if ← one target (lastName target) then return 0 else return 1
    | none, [target, name] =>
      if !g.has 'T' && (← isDirectory name) then
        if ← one target (inDirectory name (lastName target)) then return 0 else return 1
      else if ← one target name then return 0 else return 1
    | none, operands =>
      let dir := operands.getLast?.getD ""
      if g.has 'T' then usage self ("extra operand " ++ quotedName (operands.getD 2 "")) 1
      else if ← isDirectory dir then each operands.dropLast fun target => one target (inDirectory dir (lastName target))
      else
        complain self ("target " ++ quotedName dir ++ ": " ++
          (if ((← files).nodeOf? (pathOf dir)).isSome then "Not a directory" else "No such file or directory"))
        return 1

/-- Gives a file another name. -/
def link : Tool := fun self args =>
  ({ flags := [] } : Options).read self args 1 fun g => do
    match g.operands with
    | [] => usage self "missing operand" 1
    | [one] => usage self ("missing operand after " ++ quoted one) 1
    | [a, b] =>
      let t ← files
      let fail (fault : String) : Run Nat := do
        complain self ("cannot create link " ++ quotedName b ++ " to " ++ quotedName a ++ ": " ++ fault)
        return 1
      match placeOf t a, placeOf t b, t.locateNew (pathOf b) with
      | .error fault, _, _ => fail fault.wording
      | .ok _, .ok _, _ => fail "File exists"
      | .ok here, .error _, .ok there =>
        if t.isDirectoryAt here then fail "Operation not permitted"
        else
          setFiles fun t => t.share here there
          return 0
      | .ok _, .error _, .error fault => fail fault.wording
    | _ :: _ :: extra :: _ => usage self ("extra operand " ++ quoted extra) 1

/-! ### Permissions -/

/-- Changes the permissions at a path, and below it if that is asked for. -/
def chmodAt (self : String) (recursive verbose changesOnly : Bool) (changes : List Modes.Change) (mask : Nat) :
    Nat → String → Location → Run Unit
  | 0, _, _ => pure ()
  | fuel + 1, path, here => do
    let t ← files
    let isDir := t.isDirectoryAt here
    let old := t.modeAt here
    let new := Modes.adjust changes isDir mask old
    setFiles fun t => t.setMode here new
    let text (mode : Nat) : String := Modes.digits 4 mode ++ " (" ++ Modes.shown mode ++ ")"
    if verbose && new = old then
      say ("mode of " ++ quotedName path ++ " retained as " ++ text old ++ "\n")
    if (verbose || changesOnly) && new ≠ old then
      say ("mode of " ++ quotedName path ++ " changed from " ++ text old ++ " to " ++ text new ++ "\n")
    if recursive && isDir then
      for name in entriesIn t here do
        let below := here ++ [toBytes name]
        if !(t.node? below matches some (.link _)) then
          chmodAt self recursive verbose changesOnly changes mask fuel (inDirectory path name) below

/-- Changes permissions. -/
def chmod : Tool := fun self args => do
  let isMode (a : String) : Bool :=
    match a.toList with
    | '-' :: c :: _ => "rwxXstugoa,+=01234567".toList.contains c
    | _ => false
  let signs := args.takeWhile (· ≠ "--") |>.filter isMode
  let args := (args.takeWhile (· ≠ "--")).filter (fun a => !isMode a) ++ args.dropWhile (· ≠ "--")
  let o : Options := {
    flags := ['R', 'v', 'c', 'f', '\x02', '\x03']
    valued := ['\x01']
    names := [("recursive", 'R'), ("verbose", 'v'), ("changes", 'c'), ("silent", 'f'), ("quiet", 'f'),
      ("reference", '\x01'), ("preserve-root", '\x02'), ("no-preserve-root", '\x03')] }
  o.read self args 1 fun g => do
    let mask := (← shell).mask
    let model := g.value? '\x01'
    let (mode, paths) : Option String × List String :=
      if model.isSome then (none, g.operands)
      else if !signs.isEmpty then (some (",".intercalate signs), g.operands)
      else (g.operands.head?, g.operands.tail)
    let changes : Except String (List Modes.Change) ← do
      match model, mode with
      | some path, _ =>
        let t ← files
        match t.locate (pathOf path) with
        | .ok here =>
          pure (.ok [{ action := .set, affected := Modes.all, named := .bits (t.modeAt here), mentioned := Modes.all }])
        | .error fault => pure (.error ("failed to get attributes of " ++ quotedName path ++ ": " ++ fault.wording))
      | none, some text =>
        match Modes.compile? text with
        | some changes => pure (.ok changes)
        | none => pure (.error "")
      | none, none => pure (.ok [])
    if mode.isNone && model.isNone then return ← usage self "missing operand" 1
    if paths.isEmpty then
      return ← usage self (if model.isSome then "missing operand"
        else "missing operand after " ++ quoted (mode.getD "")) 1
    match changes with
    | .error e =>
      if e = "" then usage self ("invalid mode: " ++ quoted (mode.getD "")) 1
      else
        complain self e
        return 1
    | .ok changes => each paths fun path => do
      match (← files).locate (pathOf path) with
      | .error fault =>
        if !g.has 'f' then
          if (← files).isLink (pathOf path) then
            complain self ("cannot operate on dangling symlink " ++ quotedName path)
          else complain self ("cannot access " ++ quotedName path ++ ": " ++ fault.wording)
        if g.has 'v' then say (quotedName path ++ " could not be accessed\n")
        return false
      | .ok here =>
        chmodAt self (g.has 'R') (g.has 'v') (g.has 'c') changes mask 200 path here
        return true

/-- Gives files to somebody; all files are the same one's here. -/
def chown (ofGroup : Bool) : Tool := fun self args =>
  let o : Options := {
    flags := "RvcfhHLP".toList
    valued := ['\x01', '\x02']
    names := [("recursive", 'R'), ("verbose", 'v'), ("changes", 'c'), ("silent", 'f'), ("quiet", 'f'),
      ("no-dereference", 'h'), ("reference", '\x01'), ("from", '\x02')] }
  o.read self args 1 fun g => do
    match (if (g.value? '\x01').isSome then "" :: g.operands else g.operands) with
    | [] => usage self "missing operand" 1
    | [one] => usage self ("missing operand" ++ if one = "" then "" else " after " ++ quoted one) 1
    | who :: paths =>
      let accounts : List String :=
        ["root", "daemon", "bin", "sys", "sync", "games", "man", "lp", "mail", "news", "uucp", "proxy", "www-data",
          "backup", "list", "irc", "nobody", "_apt"]
      let groups := accounts ++ ["adm", "tty", "disk", "kmem", "dialout", "fax", "users", "nogroup", "staff"]
      let knows (names : List String) (s : String) : Bool :=
        s = "" || names.contains s || (natOf? s).isSome
      let (user, group) : String × String :=
        if ofGroup then ("", who)
        else
          match who.splitOn ":" with
          | user :: rest => (user, ":".intercalate rest)
          | [] => (who, "")
      if !knows accounts user then
        complain self ("invalid user: " ++ quoted who)
        return 1
      if !knows groups group then
        complain self ("invalid group: " ++ quoted who)
        return 1
      each paths fun path => do
        match (← files).locate (pathOf path) with
        | .ok _ => return true
        | .error fault =>
          if !g.has 'f' then complain self ("cannot access " ++ quotedName path ++ ": " ++ fault.wording)
          return false

end ClassLens.Tool
