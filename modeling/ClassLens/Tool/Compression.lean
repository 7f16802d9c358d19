import ClassLens.Shell.Floating
import ClassLens.Tool.Compression.Members
import ClassLens.Tool.Facts

/-! # Programs that compress

* `gzip`: puts compressed files in the place of others, or writes them out.
* `gunzip`, `zcat`: the same the other way round. -/

namespace ClassLens.Tool

open Shell

namespace Compression

/-- What is done with files. -/
structure Packing where
  unpacks : Bool
  toOutput : Bool
  force : Bool
  keeps : Bool
  lists : Bool
  checks : Bool
  verbose : Bool
  quiet : Bool
  recursive : Bool
  /-- Whether names and times are left out. -/
  bare : Bool
  suffix : String
  level : Nat

/-- What was done so far: the status, whether all ends, and the sums of a list. -/
structure Progress where
  status : Nat := 0
  stops : Bool := false
  inSum : Nat := 0
  outSum : Nat := 0
  header : Nat := 0
  hasTitle : Bool := false

/-- The status after a warning. -/
def Progress.warned (p : Progress) : Progress := if p.status = 0 then { p with status := 2 } else p

/-- The status after a fault. -/
def Progress.failed (p : Progress) : Progress := { p with status := 1 }

/-- How much is saved, as a part of the whole. -/
def ratio (saved : Int) (whole : Nat) : String :=
  let (x, _) := Floating.nearest .double false (100 * saved.natAbs) (if whole = 0 then 1 else whole)
  let text := match x with
    | .finite _ m e =>
      let (m, e) := Floating.decimalOf m e
      Floating.fixed m e 1
    | _ => "0.0"
  let text := if whole = 0 then "0.0" else if saved < 0 then "-" ++ text else text
  padLeft 5 text ++ "%"

/-- The endings of compressed files. -/
def suffixes (own : String) : List String := [own, ".gz", ".z", ".taz", ".tgz", "-gz", "-z", "_z"]

/-- The ending of a name, if it is one of a compressed file. -/
def suffixOf? (own name : String) : Option String :=
  let low := name.toLower
  ((suffixes own).find? fun s => low.endsWith s && s.length < name.length &&
    (name.toList.getD (name.length - s.length - 1) '/') != '/').map fun s =>
      (name.drop (name.length - s.length)).toString

/-- The name without its ending. -/
def withoutSuffix (name suffix : String) : String :=
  let stem := (name.dropEnd suffix.length).toString
  if [".tgz", ".taz"].contains suffix.toLower then stem ++ ".tar" else stem

/-- What is said of a fault in a file. -/
def MemberFault.tellOf (name : String) (f : MemberFault) : Run Unit := do
  let apart (s : String) : Run Unit := tell ("\ngzip: " ++ name ++ ": " ++ s ++ "\n")
  match f with
  | .ends => apart "unexpected end of file"
  | .foreign => apart "not in gzip format"
  | .garbage => apart "decompression OK, trailing garbage ignored"
  | .zeros => apart "decompression OK, trailing zero bytes ignored"
  | .malformed => apart "invalid compressed data--format violated"
  | .unknownMethod n => tell ("gzip: " ++ name ++ ": unknown method " ++ toString n ++ " -- not supported\n")
  | .encrypted => tell ("gzip: " ++ name ++ " is encrypted -- not supported\n")
  | .unknownFlags n =>
    tell ("gzip: " ++ name ++ " has flags 0x" ++ String.ofList (Nat.toDigits 16 n) ++ " -- not supported\n")
  | .wrongSums content size =>
    if content then apart "invalid compressed data--crc error"
    if size then apart "invalid compressed data--length error"

/-- The faults after which what was unpacked still counts. -/
def MemberFault.isHarmless : MemberFault → Bool
  | .garbage | .zeros => true
  | _ => false

/-- The faults after which all ends. -/
def MemberFault.stops (f : MemberFault) (checks : Bool) : Bool :=
  match f with
  | .ends | .malformed => true
  | .wrongSums .. => !checks
  | _ => false

/-- Tells of a fault and keeps what follows from it. -/
def tellFault (k : Packing) (p : Progress) (name : String) (f : MemberFault) : Run Progress := do
  match f with
  | .garbage =>
    if !k.quiet then f.tellOf name
    return p.warned
  | .zeros =>
    if !k.verbose then return p
    f.tellOf name
    return p.warned
  | _ =>
    f.tellOf name
    return { p.failed with stops := f.stops k.checks }

/-- The bytes of a text. -/
def bytesIn (s : String) : Array UInt8 := (toBytes s).toArray

/-- The text of bytes. -/
def textOf (bytes : Array UInt8) : String := ofBytes bytes.toList

/-! ### Lists -/

/-- A number in a column of a list. -/
def column (n : Nat) : String := padLeft 19 (toString n) ++ " "

/-- The line of a file in a list. -/
def listLine (k : Packing) (p : Progress) (u : Unpacked) (size : Nat) (time : Int) (name : String) : Run Progress := do
  if !p.hasTitle && !k.quiet then
    say ((if k.verbose then "method  crc     date  time  " else "") ++
      padLeft 19 "compressed" ++ " " ++ padLeft 19 "uncompressed" ++ "  ratio uncompressed_name\n")
  if k.verbose then
    let m := momentOf time
    let digits := String.ofList (Nat.toDigits 16 u.sum)
    say ("defla " ++ String.ofList (List.replicate (8 - digits.length) '0') ++ digits ++ " " ++
      ((Calendar.months.getD (m.month - 1) "").take 3).toString ++ padLeft 3 (toString m.day) ++ " " ++
      two m.hour ++ ":" ++ two m.minute ++ " ")
  say (column size ++ column u.size ++ ratio (u.size - (size - u.header : Int)) u.size ++ " " ++ name ++ "\n")
  return { p with
    inSum := p.inSum + size
    outSum := p.outSum + u.size
    header := u.header
    hasTitle := true }
where
  /-- A number with two digits. -/
  two (n : Nat) : String := if n < 10 then "0" ++ toString n else toString n

/-- The line for all files of a list. -/
def listSums (k : Packing) (p : Progress) : Run Unit := do
  if p.inSum ≠ 0 && p.outSum ≠ 0 then
    if k.verbose then say (String.ofList (List.replicate 28 ' '))
    if !k.quiet then say (column p.inSum ++ column p.outSum)
    say (ratio (p.outSum - (p.inSum - p.header : Int)) p.outSum ++ " (totals)\n")

/-! ### Files -/

/-- What is unpacked from some content, or the content itself where all of it may pass. -/
def contentFor (k : Packing) (data : Array UInt8) : Unpacked :=
  let u := unpack data
  match u.fault with
  | some .foreign => if k.force && k.toOutput && !k.lists then { out := data, size := data.size } else u
  | some .ends =>
    if k.force && k.toOutput && !k.lists && data.size < 2 then { out := data, size := data.size } else u
  | _ => u

/-- When the file was changed that is the standard input, in seconds, if it is a file. -/
def inputTime : Run (Option Int) := do
  match ← channelOf 0 with
  | none => return none
  | some n =>
    let w ← world
    match w.channels[n]? with
    | some (.file here ..) => return some (secondsAt w.files here).1
    | _ => return none

/-- Does what is to be done with the standard input. -/
def onInput (k : Packing) (p : Progress) : Run Progress := do
  let time ← inputTime
  match ← readInput "-" with
  | .error fault =>
    complain "gzip" ("standard input: " ++ fault.wording)
    return { p.failed with stops := true }
  | .ok text =>
    let data := bytesIn text
    if k.unpacks then
      let u := contentFor { k with toOutput := true } data
      if !k.lists && !k.checks then say (textOf u.out)
      match u.fault with
      | some f =>
        let isFirst := f matches .foreign | .unknownMethod _ | .encrypted | .unknownFlags _
        let q ← tellFault k p "stdin" f
        return { q with stops := q.stops || isFirst }
      | none =>
        if k.lists then return ← listLine k p u data.size (time.getD 0) "stdout"
        if k.verbose && k.checks then tell " OK\n"
        return p
    else
      let packed := pack k.level none (if k.bare then 0 else (time.getD 0).toNat) data
      say (textOf packed)
      if k.verbose then tell (ratio (data.size - (packed.size - 18 : Int)) data.size ++ "\n")
      return p

/-- Finds a file, by its name with an ending where there is none of that name. -/
def findFile (k : Packing) (path : String) : Run (String × Except ReadFault Location) := do
  let t ← files
  let find (path : String) : Except ReadFault Location :=
    if t.isLink (pathOf path) && !k.toOutput && !k.force then .error .tooManyLinks else t.locate (pathOf path)
  let there (path : String) : Bool :=
    match find path with
    | .ok here => (t.node? here).isSome
    | .error fault => fault ≠ .notFound
  if there path || !k.unpacks || (suffixOf? k.suffix path).isSome then return (path, find path)
  match [k.suffix, ".gz", ".z", "-z", ".Z"].find? fun s => there (path ++ s) with
  | some s => return (path ++ s, find (path ++ s))
  | none => return (path ++ k.suffix, .error .notFound)

/-- The name of what is made of a file; none where nothing is to be made of it. -/
def nameFor (k : Packing) (p : Progress) (path : String) : Run (Progress × Option String) := do
  let suffix := suffixOf? k.suffix path
  if k.toOutput && !k.lists && !k.checks then return (p, some "stdout")
  if k.unpacks then
    match suffix with
    | some s => return (p, some (withoutSuffix path s))
    | none =>
      if !k.recursive && (k.lists || k.checks) then return (p, some path)
      if k.verbose || (!k.recursive && !k.quiet) then
        tell ("gzip: " ++ path ++ ": unknown suffix -- ignored\n")
        return (p.warned, none)
      return (p, none)
  else
    match suffix with
    | some s =>
      if k.force then return (p, some (path ++ k.suffix))
      if k.verbose || (!k.recursive && !k.quiet) then
        tell ("gzip: " ++ path ++ " already has " ++ s ++ " suffix -- unchanged\n")
      return (p, none)
    | none => return (p, some (path ++ k.suffix))

/-- Puts a content at a path in the place of the file from which it was made. -/
def replaceFile (k : Packing) (path : String) (source there : Location) (content : Array UInt8) : Run Unit := do
  let t ← files
  setFiles fun t => t.eraseAt there
  keepContent there content.toList
  setFiles fun u => (u.setMode there (t.modeAt source)).setTime there (timeOf t source - startOfRun)
  if !k.keeps then takeAway ((placeOf t path).toOption.getD source)

/-- Does what is to be done with a file that is there. -/
def onFile (k : Packing) (p : Progress) (path : String) (here : Location) : Run Progress := do
  let t ← files
  let links := linksAt t here
  if !k.toOutput && !k.force && links ≥ 2 then
    if !k.quiet then
      tell ("gzip: " ++ path ++ " has " ++ toString (links - 1) ++ " other link" ++
        (if links = 2 then "" else "s") ++ " -- file ignored\n")
    return p.warned
  let content : Array UInt8 := match t.node? here with
    | some (.file content _) => content.toArray
    | _ => #[]
  let time := (secondsAt t here).1
  let (p, name) ← nameFor k p path
  let some name := name | return p
  let u : Unpacked := if k.unpacks then contentFor k content else {}
  -- a file that is none is not looked at further
  match u.fault with
  | some f =>
    if f matches .foreign | .unknownMethod _ | .encrypted | .unknownFlags _ then return ← tellFault k p path f
  | none => pure ()
  let name := match u.name with
    | some original =>
      if k.unpacks && !k.bare && (!k.toOutput || k.lists) then
        let dir := (name.dropEnd (lastName name).length).toString
        dir ++ lastName (ofBytes original)
      else name
    | none => name
  if k.lists then
    match u.fault with
    | some f =>
      let p ← tellFault k p path f
      if f.isHarmless then listSums k { p with header := 0 }
      return p
    | none => return ← listLine k p u content.size time name
  let place : Except ReadFault Location :=
    if k.toOutput then .ok here else t.locateNew (pathOf name)
  match place with
  | .error fault =>
    complain "gzip" (name ++ ": " ++ fault.wording)
    return p.failed
  | .ok there =>
    if !k.toOutput && (t.node? there).isSome && !k.force then
      let ok ← do
        tell ("gzip: " ++ name ++ " already exists;")
        tell "\tnot overwritten\n"
        pure p.warned
      return ok
    if k.verbose then tell (path ++ ":\t")
    if k.unpacks then
      let isWhole := match u.fault with
        | some f => f.isHarmless
        | none => true
      if k.toOutput && !k.checks then say (textOf u.out)
      if !k.toOutput && isWhole then replaceFile k path here there u.out
      let p ← match u.fault with
        | some f => tellFault k p path f
        | none => pure p
      if !isWhole then return p
      if k.verbose then
        if k.checks then tell " OK\n"
        else tell (ratio (u.size - (content.size - u.header : Int)) u.size ++ replaced name ++ "\n")
      return p
    else
      let own := toBytes (lastName path)
      let packed := pack k.level (if k.bare then none else some own) (if k.bare then 0 else time.toNat) content
      if k.toOutput then say (textOf packed) else replaceFile k path here there packed
      if k.verbose then
        let header := 18 + (if k.bare then 0 else own.length + 1)
        tell (ratio (content.size - (packed.size - header : Int)) content.size ++ replaced name ++ "\n")
      return p
where
  /-- What is said of the file that was made. -/
  replaced (name : String) : String := (if k.keeps then " -- created " else " -- replaced with ") ++ name

/-- Does what is to be done with an operand, and with all in it. -/
def onOperand (k : Packing) : Nat → Progress → String → Run Progress
  | 0, p, _ => return p
  | fuel + 1, p, path => do
    if p.stops then return p
    if path = "-" then return ← onInput k p
    let (path, found) ← findFile k path
    match found with
    | .error fault =>
      complain "gzip" (path ++ ": " ++ fault.wording)
      return p.failed
    | .ok here =>
      let t ← files
      match t.node? here with
      | none =>
        complain "gzip" (path ++ ": No such file or directory")
        return p.failed
      | some .directory =>
        if k.recursive then
          (entriesIn t here).foldlM (fun p name => onOperand k fuel p (inDirectory path name)) p
        else
          if !k.quiet then tell ("gzip: " ++ path ++ " is a directory -- ignored\n")
          return p.warned
      | some (.file ..) => onFile k p path here
      | some _ =>
        if k.toOutput then onFile k p path here
        else
          if !k.quiet then tell ("gzip: " ++ path ++ " is not a directory or a regular file - ignored\n")
          return p.warned

/-- The options. -/
def options : Options where
  flags := "acdfhHklLmMnNqrtvVZ123456789".toList ++ ['\x01', '\x02']
  valued := ['b', 'S']
  names := [("ascii", 'a'), ("to-stdout", 'c'), ("stdout", 'c'), ("decompress", 'd'), ("uncompress", 'd'),
    ("force", 'f'), ("help", 'h'), ("keep", 'k'), ("list", 'l'), ("license", 'L'), ("no-name", 'n'), ("name", 'N'),
    ("quiet", 'q'), ("silent", 'q'), ("synchronous", '\x01'), ("recursive", 'r'), ("suffix", 'S'), ("test", 't'),
    ("verbose", 'v'), ("version", 'V'), ("fast", '1'), ("best", '9'), ("lzw", 'Z'), ("bits", 'b'),
    ("rsyncable", '\x02')]

/-- The options that may be preset. -/
def presets : List Char := "nNqv123456789\x02".toList

/-- What some options ask for. -/
def Packing.ofGiven (g : Given) : Packing :=
  let last (cs : List Char) : Option Char :=
    (g.options.filter fun o => cs.contains o.1).getLast?.map Prod.fst
  let unpacks := g.has 'd' || g.has 'l' || g.has 't'
  let level := match last "123456789".toList with
    | some c => c.toNat - 48
    | none => 6
  { unpacks
    toOutput := g.has 'c' || g.has 'l' || g.has 't'
    force := g.has 'f'
    keeps := g.has 'k'
    lists := g.has 'l'
    checks := g.has 't'
    verbose := last ['q', 'v'] = some 'v'
    quiet := last ['q', 'v'] = some 'q'
    recursive := g.has 'r'
    bare := match last ['n', 'N'] with
      | some c => c == 'n'
      | none => unpacks
    suffix := (g.value? 'S').getD ".gz"
    level }

end Compression

open Compression

/-- Compresses files, or the other way round. -/
def gzip : Tool := fun _ args => do
  let preset := ((← shell).exported.lookup "GZIP").getD ""
  let more := (preset.splitOn " ").filter (· ≠ "")
  let fault (message : String) : Run Nat := do
    complain "gzip" message
    tell "Try \x60gzip --help' for more information.\n"
    return 1
  match options.readFrom true (more.length + 1) {} more with
  | .error e => return ← fault e
  | .ok g =>
    if let some o := g.options.find? fun o => !presets.contains o.1 then
      let name := (more.find? fun m => m.startsWith "--").getD ("-" ++ String.singleton o.1)
      return ← fault (name ++ ": option not valid in GZIP environment variable")
    if !more.isEmpty && !g.has 'q' then
      complain "gzip" "warning: GZIP environment variable is deprecated; use an alias or script"
  let args := more ++ args
  match options.readFrom true (args.length + 1) {} args with
  | .error e => fault e
  | .ok g =>
    if g.has 'Z' then return ← fault "-Z not supported in this version"
    let k := Packing.ofGiven g
    if k.suffix = "" || k.suffix.length > 30 then
      complain "gzip" ("invalid suffix '" ++ k.suffix ++ "'")
      return 1
    if g.operands.isEmpty then return (← onInput k {}).status
    let p ← g.operands.foldlM (onOperand k 100) {}
    if k.lists && !k.quiet && g.operands.length > 1 && !p.stops then listSums k p
    return p.status

/-- Gives back what was compressed. -/
def gunzip : Tool := fun self args => gzip self ("-d" :: args)

/-- Writes out what was compressed. -/
def zcat : Tool := fun self args => gzip self ("-cd" :: args)

end ClassLens.Tool
