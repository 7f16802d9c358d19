import ClassLens.Tool.Basic
import ClassLens.Tool.Regex.Reader

/-! # Programs that copy

`cat`, `head`, `tail`, `tac`, `rev`, `tee`: what comes in goes out, whole or in part, or in another
order. -/

namespace ClassLens.Tool

open Shell

/-! ### Whole files -/

/-- How `cat` shows what it copies. -/
structure Display where
  numbers : Bool := false
  numbersFilled : Bool := false
  joinsBlank : Bool := false
  ends : Bool := false
  tabs : Bool := false
  controls : Bool := false

/-- A character as it is shown where control characters are to be seen. -/
def visible (d : Display) (c : Char) : String :=
  let n := c.toNat
  let plain (n : Nat) : String :=
    if n < 32 then "^" ++ String.singleton (Char.ofNat (n + 64))
    else if n = 127 then "^?" else String.singleton (Char.ofNat n)
  if c == '\t' then (if d.tabs then "^I" else "\t")
  else if c == '\n' then "\n"
  else if !d.controls then String.singleton c
  else if n < 128 then plain n else "M-" ++ plain (n - 128)

/-- What `cat` keeps between lines: the last number, how many empty lines came before, and whether a
line has begun. -/
structure Counting where
  number : Nat := 0
  blanks : Nat := 0
  isOpen : Bool := false

/-- Lines as `cat` shows them. -/
def display (d : Display) (s : Counting) (text : String) : Counting × String :=
  (fullLines text).foldl (fun (s, out) line =>
    let isBlank := line == "\n" && !s.isOpen
    let blanks := if isBlank then s.blanks + 1 else 0
    let ends := line.endsWith "\n"
    if d.joinsBlank && blanks > 1 then ({ s with blanks }, out)
    else
      let numbered := !s.isOpen && (if d.numbersFilled then !isBlank else d.numbers)
      let number := if numbered then s.number + 1 else s.number
      let head := if numbered then padLeft 6 (toString number) ++ "\t" else ""
      let body := String.join ((bare '\n' line).toList.map (visible d))
      let tail := if ends then (if d.ends then "$\n" else "\n") else ""
      (⟨number, blanks, !ends⟩, out ++ head ++ body ++ tail)) (s, "")

/-- Copies files one after the other. -/
def cat : Tool := fun self args =>
  let o : Options := { flags := "AbeEnstTuv".toList, names := [("number", 'n'), ("show-all", 'A'),
    ("number-nonblank", 'b'), ("show-ends", 'E'), ("squeeze-blank", 's'), ("show-tabs", 'T'),
    ("show-nonprinting", 'v')] }
  o.read self args 1 fun g => do
    let d : Display := {
      numbers := g.has 'n', numbersFilled := g.has 'b', joinsBlank := g.has 's'
      ends := g.has 'E' || g.has 'A' || g.has 'e', tabs := g.has 'T' || g.has 'A' || g.has 't'
      controls := g.has 'v' || g.has 'A' || g.has 'e' || g.has 't' }
    let rec go : List String → Counting → Nat → Run Nat
      | [], _, status => return status
      | path :: paths, s, status => do
        match ← readInput path with
        | .ok content =>
          let (s, out) := if g.options.isEmpty then (s, content) else display d s content
          say out
          go paths s status
        | .error fault =>
          complain self (named path ++ ": " ++ fault.wording)
          go paths s 1
    go (inputs g.operands) {} 0

/-- The places where a text ends in records, from the last one on: where each separator starts and ends.
Separators are looked for from the end. -/
def recordEnds (sep text : List Char) : List (Nat × Nat) :=
  let rec go : Nat → List Char → Nat → List (Nat × Nat)
    | _, [], _ => []
    | skipped, c :: before, n =>
      if skipped = 0 && sep.reverse.isPrefixOf (c :: before) then
        (n + 1 - sep.length, n + 1) :: go (sep.length - 1) before (n - 1)
      else go (skipped - 1) before (n - 1)
  go 0 text.reverse (text.length - 1)

/-- The places of a pattern in a text, from the last one on. -/
def patternEnds (r : Regex) (text : List Char) : Nat → Nat → List (Nat × Nat)
  | 0, _ => []
  | n + 1, limit =>
    let before := text.take limit
    match (List.range limit).reverse.findSome? fun i =>
      r.matchAt false before (({ before := [], after := before, pos := 0 } : Regex.Place).skip i) with
    | some hit => (hit.start, hit.stop) :: patternEnds r text n hit.start
    | none => []

/-- Pieces of a text between places that are given from the last one on. -/
def piecesFromEnd (text : List Char) (cuts : List Nat) : String :=
  let bounds := (text.length :: cuts) ++ [0]
  String.join ((bounds.zip bounds.tail).map fun (stop, start) =>
    String.ofList ((text.drop start).take (stop - start)))

/-- Writes the records of files from the last one to the first. -/
def tac : Tool := fun self args =>
  let o : Options := {
    flags := ['b', 'r']
    valued := ['s']
    names := [("before", 'b'), ("regex", 'r'), ("separator", 's')] }
  o.read self args 1 fun g => do
    let sep := (g.value? 's').getD "\n"
    if g.has 'r' && sep = "" then
      complain self "separator cannot be empty"
      return 1
    let sepChars := if sep = "" then ['\x00'] else sep.toList
    let pattern := if g.has 'r' then (Regex.parse Regex.basicSearch sepChars).toOption.map Prod.fst
      else none
    let results ← (inputs g.operands).mapM fun path => do
      match ← readInput path with
      | .ok content =>
        let cs := content.toList
        let found := match pattern with
          | some r => patternEnds r cs (cs.length + 1) cs.length
          | none => recordEnds sepChars cs
        let cuts := found.map fun m => if g.has 'b' then m.1 else m.2
        return (piecesFromEnd cs cuts, 0)
      | .error fault =>
        complain self (if fault = .isDirectory then path ++ ": read error: " ++ fault.wording
          else "failed to open " ++ quotedName path ++ " for reading: " ++ fault.wording)
        return ("", 1)
    say (String.join (results.map Prod.fst))
    return if results.any fun r => r.2 ≠ 0 then 1 else 0

/-- The characters of a text, each with all its bytes. -/
def wholeChars (line : String) : List String :=
  (line.toList.foldl (fun (found : List (List Char)) c =>
    match found with
    | last :: rest =>
      if 0x80 ≤ c.toNat ∧ c.toNat < 0xC0 then (last ++ [c]) :: rest else [c] :: found
    | [] => [[c]]) []).map String.ofList

/-- Writes each line backwards. -/
def rev : Tool := fun self args => do
  let operands := args.filter fun a => a = "-" ∨ !a.startsWith "-"
  let results ← (inputs operands).mapM fun path => do
    match ← readInput path with
    | .ok content =>
      return (String.join ((fullLines content).map fun line =>
        String.join (wholeChars (bare '\n' line)) ++ (if line.endsWith "\n" then "\n" else "")), 0)
    | .error fault =>
      complain self ("cannot open " ++ path ++ ": " ++ fault.wording)
      return ("", 1)
  say (String.join (results.map Prod.fst))
  return if results.any fun r => r.2 ≠ 0 then 1 else 0

/-! ### Parts of files -/

/-- A part of a file that is counted in lines or bytes from its start or its end. -/
structure Extent where
  bytes : Bool := false
  count : Nat := 10
  /-- Whether it is counted from the other side than usual. -/
  opposite : Bool := false

/-- Reads the size of a part, where `sign` counts from the other side. -/
def extent? (bytes : Bool) (sign : Char) (text : String) : Option Extent :=
  let (opposite, digits) := match text.toList with
    | c :: cs => if c == sign then (true, String.ofList cs)
      else if c == '-' || c == '+' then (false, String.ofList cs) else (false, text)
    | [] => (false, text)
  (sizeOf? (digits.dropWhile fun c => c == ' ' || c == '\t').toString).map fun count =>
    { bytes, count, opposite }

/-- The arguments with an old form of a count, such as `-5`, in its new form. -/
def modern (args : List String) : List String :=
  match args with
  | arg :: rest =>
    match arg.toList with
    | '-' :: c :: cs =>
      if c.isDigit then
        let ds := (c :: cs).takeWhile Char.isDigit
        match (c :: cs).drop ds.length with
        | [] => "-n" :: String.ofList ds :: rest
        | ['c'] => "-c" :: String.ofList ds :: rest
        | _ => args
      else args
    | _ => args
  | [] => []

/-- The first part of a text. -/
def headOf (e : Extent) (s : String) : String :=
  if e.bytes then
    if e.opposite then (s.take (s.length - e.count)).toString else (s.take e.count).toString
  else
    let all := fullLines s
    String.join (if e.opposite then all.take (all.length - e.count) else all.take e.count)

/-- The last part of a text. -/
def tailOf (e : Extent) (s : String) : String :=
  if e.bytes then
    if e.opposite then (s.drop (e.count - 1)).toString else (s.drop (s.length - e.count)).toString
  else
    let all := fullLines s
    String.join (if e.opposite then all.drop (e.count - 1) else all.drop (all.length - e.count))

/-- The line before a file where there are several ones. -/
def banner (isFirst : Bool) (path : String) : String :=
  (if isFirst then "" else "\n") ++ "==> " ++ (if path = "-" then "standard input" else path) ++ " <==\n"

/-- Reads lines from the standard input without taking more than is needed of a file. -/
def readHead (e : Extent) : Nat → String → Run String
  | 0, found => return found
  | n + 1, found => do
    if e.bytes then
      readSome 0 e.count
    else if e.count ≤ (found.toList.filter (· == '\n')).length then
      let kept := headOf e found
      giveBack 0 (found.length - kept.length)
      return kept
    else
      let more ← readSome 0 8192
      if more = "" then return found else readHead e n (found ++ more)

/-- The options of `head` and `tail`. -/
def partOptions : Options :=
  { flags := "qvzfF".toList, valued := ['n', 'c', 's'], names := [("lines", 'n'), ("bytes", 'c'),
    ("quiet", 'q'), ("silent", 'q'), ("verbose", 'v'), ("zero-terminated", 'z'), ("follow", 'f')] }

/-- Goes through the files of `head` or `tail`. -/
def eachPart (self : String) (g : Given) (sign : Char) (part : Extent → String → Run String) :
    Run Nat := do
  let given := g.options.reverse.find? fun o => o.1 == 'n' || o.1 == 'c'
  let extent := match given with
    | some (c, text) => extent? (c == 'c') sign text
    | none => some {}
  match extent, given with
  | none, some (c, text) =>
    let text := if text.startsWith "-" then (text.drop 1).toString else text
    complain self ("invalid number of " ++ (if c == 'c' then "bytes" else "lines") ++ ": " ++ quoted text)
    return 1
  | none, none => return 1
  | some e, _ =>
    let paths := inputs g.operands
    let shows := !g.has 'q' && (g.has 'v' || paths.length > 1)
    let rec go : List String → Bool → Nat → Run Nat
      | [], _, status => return status
      | path :: paths, isFirst, status => do
        let missing ← if path = "-" || (descriptorOf? path).isSome then pure none
          else match (← files).readBytes ⟨toBytes path⟩ with
            | .error fault => pure (some fault)
            | .ok _ => pure none
        match missing with
        | some .isDirectory =>
          if shows then say (banner isFirst path)
          complain self ("error reading " ++ quotedName path ++ ": Is a directory")
          go paths false 1
        | some fault =>
          complain self ("cannot open " ++ quotedName path ++ " for reading: " ++ fault.wording)
          go paths isFirst 1
        | none =>
          if shows then say (banner isFirst path)
          say (← part e path)
          go paths false status
    go paths true 0

/-- Writes the first lines or bytes of files. -/
def head : Tool := fun self args =>
  partOptions.read self (modern args) 1 fun g =>
    eachPart self g '-' fun e path => do
      if path = "-" then
        if e.opposite then return headOf e (← readAll 0) else readHead e 1000000 ""
      else
        match (← files).nodeOf? ⟨toBytes path⟩ with
        | some .zeros => return String.ofList (List.replicate e.count '\x00')
        | _ =>
          match ← readInput path with
          | .ok content => return headOf e content
          | .error _ => return ""

/-- Writes the last lines or bytes of files. -/
def tail : Tool := fun self args =>
  let args := match args with
    | arg :: rest =>
      match arg.toList with
      | '+' :: c :: cs => if c.isDigit then "-n" :: arg :: rest else "+" :: String.ofList (c :: cs) :: rest
      | _ => modern args
    | [] => []
  partOptions.read self args 1 fun g =>
    eachPart self g '+' fun e path => do
      match ← readInput path with
      | .ok content => return tailOf e content
      | .error _ => return ""

/-! ### Copies of the input -/

/-- Opens a file for writing. -/
def writeFile (path content : String) (appends : Bool) : Run (Option ReadFault) := do
  if let some n := ← (descriptorOf? path).bindM channelOf then
    writeChannel n content
    return none
  let t ← files
  match t.locateNew ⟨toBytes path⟩ with
  | .error fault => return some fault
  | .ok here =>
    match t.node? here with
    | some .directory => return some .isDirectory
    | some .sink | some .zeros => return none
    | found =>
      let old := match found with
        | some (.file old _) => old
        | _ => []
      keepContent here (if appends then old ++ toBytes content else toBytes content)
      return none

/-- Copies the input to the output and to files. -/
def tee : Tool := fun self args =>
  ({ flags := ['a', 'i', 'p'], names := [("append", 'a')] } : Options).read self args 1 fun g => do
    let content ← readAll 0
    say content
    let statuses ← g.operands.mapM fun path => do
      match path with
      | "/dev/stderr" =>
        tell content
        return 0
      | "/dev/stdout" | "-" =>
        say content
        return 0
      | path =>
        match ← writeFile path content (g.has 'a') with
        | none => return 0
        | some fault =>
          complain self (named path ++ ": " ++ fault.wording)
          return 1
    return if statuses.any (· ≠ 0) then 1 else 0

end ClassLens.Tool
