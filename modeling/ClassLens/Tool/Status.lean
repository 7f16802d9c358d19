import ClassLens.Tool.Facts

/-! # Telling of files and of the room they take

* `Status.write`: what a format tells of a place.
* `stat`, `du`: the programs that tell of files. -/

namespace ClassLens.Tool

open Shell

namespace Status

/-- What stands between a per cent sign and its letter. -/
structure Directive where
  flags : List Char := []
  width : Nat := 0
  precision : Option Nat := none
  /-- Whether a point is there, be it without digits. -/
  hasPoint : Bool := false

/-- A text filled up by the flags and the width of a directive. -/
def Directive.fill (d : Directive) (s : String) : String :=
  let gap := List.replicate (d.width - s.length) ' '
  if d.flags.contains '-' then s ++ String.ofList gap else String.ofList gap ++ s

/-- A text as a directive shows it. -/
def Directive.text (d : Directive) (s : String) : String :=
  d.fill (match d.precision with
    | some n => (s.take n).toString
    | none => s)

/-- Digits as a directive shows them, with a lead that the sign for other forms brings. -/
def Directive.digits (d : Directive) (lead s : String) : String :=
  let s := match d.precision with
    | some n => String.ofList (List.replicate (n - s.length) '0') ++ s
    | none => s
  let lead := if d.flags.contains '#' then lead else ""
  if d.flags.contains '0' && !d.flags.contains '-' && d.precision.isNone then
    lead ++ String.ofList (List.replicate (d.width - s.length - lead.length) '0') ++ s
  else d.fill (lead ++ s)

/-- A number as a directive shows it. -/
def Directive.number (d : Directive) (n : Nat) : String := d.digits "" (toString n)

/-- A number in a base, without a sign. -/
def inBase (base n : Nat) : String := String.ofList (Nat.toDigits base n)

/-- The bits that tell what kind of thing stands at a place. -/
def kindBits : Node → Nat
  | .directory => 0o040000
  | .file .. => 0o100000
  | .link _ => 0o120000
  | .sink | .zeros => 0o020000

/-- A time in seconds, with as many digits of its fraction as a directive says. -/
def Directive.time (d : Directive) (seconds : Int) (fraction : Nat) : String :=
  if d.hasPoint then
    let places := d.precision.getD 9
    let digits := toString (1000000000 + fraction)
    let tail := ((digits.drop 1).take places).toString
    let tail := tail ++ String.ofList (List.replicate (places - tail.length) '0')
    ({ d with precision := none } : Directive).digits "" (toString seconds ++ (if places = 0 then "" else "." ++ tail))
  else d.digits "" (toString seconds)

/-- A time at length. -/
def longTime (seconds : Int) (fraction : Nat) : String :=
  (Moment.ofSeconds seconds fraction 0 "UTC").write true "%Y-%m-%d %H:%M:%S.%N %z"

/-- What a letter tells of a place. Names that need no quotes get some only if that is asked for. -/
def tell? (t : FileTree) (always : Bool) (path : String) (here : Location) (d : Directive) (letter : Char) : String :=
  let node := (t.node? here).getD .sink
  let mode := t.modeAt here
  let (seconds, fraction) := secondsAt t here
  match letter with
  | 'a' => d.digits "0" (inBase 8 mode)
  | 'A' => d.text (Modes.full node mode)
  | 'b' => d.number (blocksAt t here)
  | 'B' => d.number 512
  | 'C' => d.text "?"
  | 'd' => d.number 50
  | 'D' => d.digits "0x" "32"
  | 'f' => d.digits "0x" (inBase 16 (kindBits node + mode))
  | 'F' => d.text (kindOf t here)
  | 'g' | 'u' => d.number 0
  | 'G' | 'U' => d.text "root"
  | 'h' => d.number (linksAt t here)
  | 'i' => d.number (inodeAt t here)
  | 'm' => d.text "/"
  | 'n' => d.text path
  | 'N' =>
    let shown (name : String) : String := if always then quotedName name else shellWord [] name
    d.text (shown path ++ (match node with
      | .link target => " -> " ++ shown (ofBytes target.bytes)
      | _ => ""))
  | 'o' => d.number 4096
  | 's' => d.number (sizeAt t here)
  | 't' => d.digits "0x" (match node with
    | .sink | .zeros => "1"
    | _ => "0")
  | 'T' => d.digits "0x" (match node with
    | .sink => "3"
    | .zeros => "5"
    | _ => "0")
  | 'r' => d.number (match node with
    | .sink => 259
    | .zeros => 261
    | _ => 0)
  | 'R' => d.digits "0x" (match node with
    | .sink => "103"
    | .zeros => "105"
    | _ => "0")
  | 'w' | 'x' | 'y' | 'z' => d.text (longTime seconds fraction)
  | 'W' | 'X' | 'Y' | 'Z' => d.time seconds fraction
  | _ => "?"

/-- The directive after a per cent sign, and what follows it. -/
def readDirective (s : List Char) : Directive × List Char × List Char :=
  let flags := s.takeWhile fun c => "'-+ #0I".toList.contains c
  let rest := s.drop flags.length
  let width := rest.takeWhile Char.isDigit
  let rest := rest.drop width.length
  let value (cs : List Char) : Nat := cs.foldl (fun n c => n * 10 + (c.toNat - 48)) 0
  match rest with
  | '.' :: more =>
    let places := more.takeWhile Char.isDigit
    let d : Directive := {
      flags
      width := value width
      precision := if places.isEmpty then none else some (value places)
      hasPoint := true }
    (d, flags ++ width ++ '.' :: places, more.drop places.length)
  | rest => ({ flags, width := value width }, flags ++ width, rest)

/-- What a backslash and what follows it stand for, and the rest; the letter of one that stands for nothing
is told of. -/
def readEscape : List Char → List Char × List Char × Option Char
  | [] => (['\\'], [], none)
  | c :: cs =>
    let isOctal (c : Char) : Bool := '0' ≤ c && c ≤ '7'
    let hex? (c : Char) : Option Nat :=
      if c.isDigit then some (c.toNat - 48)
      else if 'a' ≤ c && c ≤ 'f' then some (c.toNat - 87)
      else if 'A' ≤ c && c ≤ 'F' then some (c.toNat - 55)
      else none
    if isOctal c then
      let digits := ((c :: cs).take 3).takeWhile isOctal
      ([Char.ofNat (digits.foldl (fun n c => n * 8 + (c.toNat - 48)) 0 % 256)], (c :: cs).drop digits.length, none)
    else if c == 'x' && (cs.head?.bind hex?).isSome then
      let digits := (cs.take 2).takeWhile fun c => (hex? c).isSome
      ([Char.ofNat (digits.foldl (fun n c => n * 16 + (hex? c).getD 0) 0 % 256)], cs.drop digits.length, none)
    else
      match ("abefnrtv".toList.zip ['\x07', '\x08', '\x1b', '\x0c', '\n', '\r', '\t', '\x0b']).lookup c with
      | some value => ([value], cs, none)
      | none => if c == '\\' || c == '"' then ([c], cs, none) else ([c], cs, some c)

/-- What a format tells of a place, and what it warns of. With `escapes` backslashes stand for other
characters. A directive that is wrong ends it. -/
def write (t : FileTree) (always : Bool) (path : String) (here : Location) (escapes : Bool) :
    Nat → List Char → String × List Char × Option String
  | 0, _ => ("", [], none)
  | _ + 1, [] => ("", [], none)
  | n + 1, '%' :: s =>
    let (d, raw, rest) := readDirective s
    let after (text : String) (rest : List Char) : String × List Char × Option String :=
      let (more, warnings, fault) := write t always path here escapes n rest
      (text ++ more, warnings, fault)
    match rest with
    | [] => if raw.isEmpty then ("%", [], none) else ("", [], some (String.ofList ('%' :: raw)))
    | '%' :: rest => if raw.isEmpty then after "%" rest else ("", [], some (String.ofList ('%' :: raw ++ ['%'])))
    | 'H' :: 'd' :: rest => after (d.number 0) rest
    | 'L' :: 'd' :: rest => after (d.number 50) rest
    | 'H' :: 'r' :: rest => after (d.digits "" (tell? t always path here {} 't')) rest
    | 'L' :: 'r' :: rest => after (d.digits "" (tell? t always path here {} 'T')) rest
    | letter :: rest => after (tell? t always path here d letter) rest
  | n + 1, '\\' :: s =>
    if escapes then
      let (text, rest, warning) := readEscape s
      let (more, warnings, fault) := write t always path here escapes n rest
      (String.ofList text ++ more, warning.toList ++ warnings, fault)
    else
      let (more, warnings, fault) := write t always path here escapes n s
      ("\\" ++ more, warnings, fault)
  | n + 1, c :: s =>
    let (more, warnings, fault) := write t always path here escapes n s
    (String.singleton c ++ more, warnings, fault)

/-- What is told where no format is given. -/
def usualFormat (isDevice : Bool) : String :=
  "  File: %N\n  Size: %-10s\tBlocks: %-10b IO Block: %-6o %F\n" ++
  "Device: %Hd,%Ld\tInode: %-10i  Links: " ++ (if isDevice then "%-5h Device type: %Hr,%Lr\n" else "%h\n") ++
  "Access: (%04a/%10.10A)  Uid: (%5u/%8U)   Gid: (%5g/%8G)\n" ++
  "Access: %x\nModify: %y\nChange: %z\n Birth: %w\n"

end Status

/-- Tells of files. -/
def stat : Tool := fun self args =>
  let o : Options := {
    flags := ['f', 'L', 't']
    valued := ['c', '\x01', '\x02']
    names := [("dereference", 'L'), ("file-system", 'f'), ("format", 'c'), ("printf", '\x01'), ("cached", '\x02'),
      ("terse", 't')] }
  o.read self args 1 fun g => do
    if g.operands.isEmpty then return ← usage self "missing operand" 1
    let given := (g.options.filter fun e => e.1 == 'c' || e.1 == '\x01').getLast?
    each g.operands fun path => do
      let t ← files
      let found := if g.has 'L' then t.locate (pathOf path) else placeOf t path
      match found with
      | .error fault =>
        complain self ("cannot statx " ++ quotedName path ++ ": " ++ fault.wording)
        return false
      | .ok here =>
        let isDevice := (t.node? here) matches some .sink | some .zeros
        let (format, escapes, stop) : String × Bool × String := match given with
          | some ('c', value) => (value, false, "\n")
          | some (_, value) => (value, true, "")
          | none =>
            if g.has 't' then ("%n %s %b %f %u %g %D %i %h %t %T %X %Y %Z %W %o\n", false, "")
            else (Status.usualFormat isDevice, false, "")
        let (text, warnings, fault) := Status.write t given.isSome path here escapes (format.length + 1)
          format.toList
        for c in warnings do
          complain self ("warning: unrecognized escape '\\" ++ String.singleton c ++ "'")
        say (if fault.isNone then text ++ stop else text)
        match fault with
        | some directive =>
          complain self (quoted directive ++ ": invalid directive")
          throw (.exit 1)
        | none => return true

/-! ### Room on the disk -/

/-- What is counted of the room that files take. -/
structure Room where
  all : Bool
  depth : Option Nat
  apparent : Bool
  apart : Bool
  show_ : Nat → String
  stop : String
  ignored : List String := []

/-- Tells of the room at a place and below it; gives the room and the places that were counted. -/
def Room.count (r : Room) (t : FileTree) : Nat → Nat → String → Location → List Location → Run (Nat × List Location)
  | 0, _, _, _, seen => return (0, seen)
  | fuel + 1, level, path, here, seen => do
    let first := (t.twins here).head?.getD here
    let isIgnored := r.ignored.any fun pattern =>
      (Pattern.ofMarked (pattern.toList.map fun c => (c, false))).accepts (lastName path).toList
    if seen.contains first || isIgnored then return (0, seen)
    let seen := if (t.twins here).length > 1 then first :: seen else seen
    let own := if r.apparent then sizeAt t here else blocksAt t here * 512
    let isDir := t.isDirectoryAt here
    let mut total := own
    let mut direct := own
    let mut seen := seen
    if isDir then
      for name in entriesIn t here do
        let below := here ++ [toBytes name]
        let (n, more) ← r.count t fuel (level + 1) (inDirectory path name) below seen
        seen := more
        total := total + n
        if !t.isDirectoryAt below then direct := direct + n
    if (isDir || r.all || level = 0) && r.depth.all (level ≤ ·) then
      say (r.show_ (if r.apart then direct else total) ++ "\t" ++ path ++ r.stop)
    return (total, seen)

/-- Tells of the room that files take. -/
def du : Tool := fun self args =>
  let o : Options := {
    flags := "abchkDHLlmPsSx0".toList ++ ['\x01', '\x02', '\x03']
    valued := ['B', 'd', 't', 'X', '\x04']
    names := [("all", 'a'), ("apparent-size", '\x01'), ("bytes", 'b'), ("block-size", 'B'), ("total", 'c'),
      ("dereference-args", 'D'), ("max-depth", 'd'), ("human-readable", 'h'), ("inodes", '\x02'),
      ("dereference", 'L'), ("count-links", 'l'), ("no-dereference", 'P'), ("separate-dirs", 'S'), ("si", '\x03'),
      ("summarize", 's'), ("null", '0'), ("exclude", '\x04'), ("one-file-system", 'x')] }
  o.read self args 1 fun g => do
    let depth := (g.value? 'd').map natOf?
    if depth matches some none then
      complain self ("invalid maximum depth " ++ quoted ((g.value? 'd').getD ""))
      tell ("Try '" ++ self ++ " --help' for more information.\n")
      return 1
    if g.has 'a' && g.has 's' then return ← usage self "cannot both summarize and show all entries" 1
    let depth := depth.bind id
    let unit := (g.value? 'B').map fun text => sizeOf? (if text.toList.head?.any Char.isDigit then text else "1" ++ text)
    if unit matches some none then
      complain self ("invalid --block-size argument " ++ quoted ((g.value? 'B').getD ""))
      return 1
    let last := (g.options.filter fun e => "bhkmB\x03".toList.contains e.1).getLast?.map Prod.fst
    let show_ (n : Nat) : String :=
      match last with
      | some 'h' => sizeForReader 1024 n
      | some '\x03' => sizeForReader 1000 n
      | some 'b' => toString n
      | some 'm' => toString (ceilDiv n 1048576)
      | some 'B' => toString (ceilDiv n ((unit.bind id).getD 1024))
      | _ => toString (ceilDiv n 1024)
    let r : Room := {
      all := g.has 'a'
      depth := if g.has 's' then some (depth.getD 0) else depth
      apparent := g.has '\x01' || g.has 'b'
      apart := g.has 'S'
      show_
      stop := if g.has '0' then "\x00" else "\n"
      ignored := g.values '\x04' }
    let t ← files
    let mut total := 0
    let mut seen : List Location := []
    let mut status := 0
    for path in if g.operands.isEmpty then ["."] else g.operands do
      let found := if g.has 'L' || g.has 'D' || g.has 'H' then t.locate (pathOf path) else placeOf t path
      match found with
      | .error fault =>
        complain self ("cannot access " ++ quotedName path ++ ": " ++ fault.wording)
        status := 1
      | .ok here =>
        let (n, more) ← r.count t 200 0 path here (if g.has 'l' then [] else seen)
        seen := if t.isDirectoryAt here || seen.contains here then more else here :: more
        total := total + n
    if g.has 'c' then say (show_ total ++ "\ttotal" ++ r.stop)
    return status

end ClassLens.Tool
