import ClassLens.Shell.Quoting
import ClassLens.Shell.State

/-! # Programs

What the programs share that scripts are made of: how they read their options and inputs and tell of
faults. A program is a function from its name and its arguments to its status.

* `Options.read`: the options among some arguments.
* `readInput`: the content of a file or of the standard input.
* `complain`, `usage`: what a program says of a fault. -/

namespace ClassLens.Tool

open Shell

/-- A program: it gets the name by which it was called and its arguments. -/
abbrev Tool := String → List String → Run Nat

/-- Tells of a fault. -/
def complain (self message : String) : Run Unit :=
  tell (self ++ ": " ++ message ++ "\n")

/-- Tells of a fault of use. -/
def usage (self message : String) (status : Nat) : Run Nat := do
  complain self message
  tell ("Try '" ++ self ++ " --help' for more information.\n")
  return status

/-! ### Options -/

/-- The options that a program knows. -/
structure Options where
  /-- Letters that stand alone. -/
  flags : List Char
  /-- Letters that take a value. -/
  valued : List Char := []
  /-- Letters that take a value which follows them at once, if there is one. -/
  optional : List Char := []
  /-- Long names for letters. -/
  names : List (String × Char) := []

/-- What the arguments of a program say. -/
structure Given where
  options : List (Char × String) := []
  operands : List String := []

/-- Whether an option is given. -/
def Given.has (g : Given) (c : Char) : Bool := g.options.any fun o => o.1 == c

/-- The last value of an option. -/
def Given.value? (g : Given) (c : Char) : Option String :=
  (g.options.reverse.find? fun o => o.1 == c).map Prod.snd

/-- All values of an option. -/
def Given.values (g : Given) (c : Char) : List String :=
  g.options.filterMap fun o => if o.1 == c then some o.2 else none

namespace Options

/-- The options in a group of letters; the last of them may take the next argument. -/
def readLetters (o : Options) (next : List String) (g : Given) :
    List Char → Except String (Given × List String)
  | [] => .ok (g, next)
  | c :: cs =>
    if o.flags.contains c then
      readLetters o next { g with options := g.options ++ [(c, "")] } cs
    else if o.optional.contains c then
      .ok ({ g with options := g.options ++ [(c, String.ofList cs)] }, next)
    else if o.valued.contains c then
      if cs ≠ [] then .ok ({ g with options := g.options ++ [(c, String.ofList cs)] }, next)
      else
        match next with
        | value :: next => .ok ({ g with options := g.options ++ [(c, value)] }, next)
        | [] => .error ("option requires an argument -- '" ++ String.singleton c ++ "'")
    else .error ("invalid option -- '" ++ String.singleton c ++ "'")

/-- A long option, `text` being its name and maybe its value. -/
def readLong (o : Options) (next : List String) (g : Given) (text : String) :
    Except String (Given × List String) :=
  let name := (text.takeWhile (· != '=')).toString
  let value : Option String :=
    if text.toList.contains '=' then some (text.drop (name.length + 1)).toString else none
  let exact := o.names.filter fun e => e.1 == name
  let hits := if exact.isEmpty then o.names.filter fun e => e.1.startsWith name else exact
  let letters := (hits.map Prod.snd).eraseDups
  match letters with
  | [c] =>
    if o.valued.contains c then
      match value, next with
      | some v, _ => .ok ({ g with options := g.options ++ [(c, v)] }, next)
      | none, v :: next => .ok ({ g with options := g.options ++ [(c, v)] }, next)
      | none, [] => .error ("option '--" ++ (hits.headD (name, ' ')).1 ++ "' requires an argument")
    else
      match value with
      | some _ =>
        if o.flags.contains c then
          .error ("option '--" ++ (hits.headD (name, ' ')).1 ++ "' doesn't allow an argument")
        else .ok ({ g with options := g.options ++ [(c, value.getD "")] }, next)
      | none => .ok ({ g with options := g.options ++ [(c, "")] }, next)
  | [] => .error ("unrecognized option '--" ++ text ++ "'")
  | _ =>
    .error ("option '--" ++ text ++ "' is ambiguous; possibilities:" ++
      String.join (hits.map fun h => " '--" ++ h.1 ++ "'"))

/-- The options among some arguments. With `mixed` they may also follow operands. -/
def readFrom (o : Options) (mixed : Bool) : Nat → Given → List String → Except String Given
  | 0, g, _ => .ok g
  | _ + 1, g, [] => .ok g
  | n + 1, g, arg :: args =>
    match arg.toList with
    | ['-', '-'] => .ok { g with operands := g.operands ++ args }
    | '-' :: '-' :: name =>
      match o.readLong args g (String.ofList name) with
      | .ok (g, args) => readFrom o mixed n g args
      | .error e => .error e
    | '-' :: c :: cs =>
      match o.readLetters args g (c :: cs) with
      | .ok (g, args) => readFrom o mixed n g args
      | .error e => .error e
    | _ =>
      if mixed then readFrom o mixed n { g with operands := g.operands ++ [arg] } args
      else .ok { g with operands := g.operands ++ arg :: args }

/-- The options among some arguments; where they are wrong the program ends. -/
def read (o : Options) (self : String) (args : List String) (failure : Nat)
    (body : Given → Run Nat) : Run Nat :=
  match o.readFrom true (args.length + 1) {} args with
  | .ok g => body g
  | .error e => usage self e failure

/-- The options before the operands. -/
def readFirst (o : Options) (self : String) (args : List String) (failure : Nat)
    (body : Given → Run Nat) : Run Nat :=
  match o.readFrom false (args.length + 1) {} args with
  | .ok g => body g
  | .error e => usage self e failure

end Options

/-- The argument of an option that has one of some words, which may be cut short. -/
def wordOf? {α : Type} (words : List (String × α)) (given : String) : Option α :=
  match words.lookup given with
  | some a => some a
  | none =>
    match words.filter fun w => w.1.startsWith given with
    | [w] => some w.2
    | _ => none

/-- Tells of an argument that is none of the words for it. -/
def refuseWord {α : Type} (self name given : String) (words : List (String × α)) (status : Nat) :
    Run Nat := do
  let isAmbiguous := (words.filter fun w => w.1.startsWith given).length > 1
  complain self ((if isAmbiguous then "ambiguous argument " else "invalid argument ") ++ quoted given ++
    " for " ++ quoted name)
  tell ("Valid arguments are:\n" ++ String.join (words.map fun w => "  - '" ++ w.1 ++ "'\n"))
  tell ("Try '" ++ self ++ " --help' for more information.\n")
  return status

/-! ### Inputs -/

/-- The file tree as the program sees it. -/
def files : Run FileTree := do
  return { (← world).files with start := (← shell).directory }

/-- The content of a file, or of the standard input for `-`. -/
def readInput (path : String) : Run (Except ReadFault String) := do
  match if path = "-" then some 0 else descriptorOf? path with
  | some fd =>
    match ← channelOf fd with
    | some n => return .ok (← drain n)
    | none => return .error (if path = "-" then .badDescriptor else .notFound)
  | none =>
    match (← files).nodeOf? ⟨toBytes path⟩ with
    | some .zeros =>
      pass none 16
      return .ok (String.ofList (List.replicate 65536 '\x00'))
    | _ =>
      match (← files).readBytes ⟨toBytes path⟩ with
      | .ok content => return .ok (ofBytes content)
      | .error fault => return .error fault

/-- The operands of a program that reads its standard input where there are none. -/
def inputs (operands : List String) : List String :=
  if operands.isEmpty then ["-"] else operands

/-- Goes through inputs; the status is one if one of them cannot be read. -/
def eachInput (self : String) (operands : List String) (body : String → Run Unit) : Run Nat := do
  let statuses ← (inputs operands).mapM fun path => do
    match ← readInput path with
    | .ok content =>
      body content
      return 0
    | .error fault =>
      complain self (named path ++ ": " ++ fault.wording)
      return 1
  return if statuses.any (· ≠ 0) then 1 else 0

/-- All inputs as one text, with the status. -/
def gather (self : String) (operands : List String) : Run (String × Nat) := do
  let parts ← (inputs operands).mapM fun path => do
    match ← readInput path with
    | .ok content => return (content, 0)
    | .error fault =>
      complain self (named path ++ ": " ++ fault.wording)
      return ("", 1)
  return (String.join (parts.map Prod.fst), if parts.any fun p => p.2 ≠ 0 then 1 else 0)

/-- Writes what comes of all inputs as one text, in which the last line of each gets its break if that is said.
What comes of the inputs before one that cannot be read is written before that is told. -/
def writeAll (self : String) (operands : List String) (completes : Bool) (change : String → String) :
    Run Nat := do
  let mut content := ""
  let mut written := 0
  let mut status := 0
  for path in inputs operands do
    match ← readInput path with
    | .ok more =>
      let lacksBreak := completes && more ≠ "" && !more.endsWith "\n"
      content := content ++ more ++ (if lacksBreak then "\n" else "")
    | .error fault =>
      let shown := change content
      say (shown.drop written).toString
      written := shown.length
      complain self (named path ++ ": " ++ fault.wording)
      status := 1
  say ((change content).drop written).toString
  return status

/-- The lines of a text, each with the break that ends it. -/
def linesFrom (stop : Char) : List Char → List Char → List String
  | [], [] => []
  | [], line => [String.ofList line.reverse]
  | c :: cs, line =>
    if c == stop then String.ofList (c :: line).reverse :: linesFrom stop cs []
    else linesFrom stop cs (c :: line)

/-- The lines of a text, each with its line break. -/
def fullLines (s : String) : List String := linesFrom '\n' s.toList []

/-- A line without its break. -/
def bare (stop : Char) (line : String) : String :=
  match line.toList.getLast? with
  | some c => if c == stop then (line.dropEnd 1).toString else line
  | none => line

/-- The lines of a text without their breaks. -/
def lines (s : String) : List String := (fullLines s).map (bare '\n')

/-- A text filled up at its left. -/
def padLeft (width : Nat) (s : String) : String :=
  String.ofList (List.replicate (width - s.length) ' ') ++ s

/-- The number that a text is. -/
def natOf? (s : String) : Option Nat :=
  if s.isEmpty || !s.toList.all Char.isDigit then none else s.toNat?

/-- The factor of a unit of bytes. -/
def unit? : String → Option Nat
  | "" => some 1
  | "b" => some 512
  | "kB" | "KB" => some 1000
  | "K" | "k" | "KiB" => some 1024
  | "MB" => some 1000000
  | "M" | "MiB" => some 1048576
  | "GB" => some 1000000000
  | "G" | "GiB" => some 1073741824
  | _ => none

/-- A number with a unit. -/
def sizeOf? (s : String) : Option Nat :=
  let ds := (s.takeWhile Char.isDigit).toString
  match natOf? ds, unit? (s.drop ds.length).toString with
  | some n, some u => some (n * u)
  | _, _ => none

/-! ### Standing for a program -/

/-- The bytes at the start of a program's file. -/
def magic : List UInt8 := [0x7F, 0x45, 0x4C, 0x46, 0x02, 0x01, 0x01, 0x00, 0xFF]

/-- The file of a program. -/
def contentOf (name : String) : List UInt8 := magic ++ bytesOf name

/-- The program whose file has a content. -/
def nameOf? (content : String) : Option String :=
  let cs := content.toList
  if (ofBytes magic).toList.isPrefixOf cs then some (String.ofList (cs.drop magic.length)) else none

end ClassLens.Tool
