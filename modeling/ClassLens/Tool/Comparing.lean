import ClassLens.Tool.Comparing.Report
import ClassLens.Tool.Files

/-! # Files that differ

* `diff`: what has changed between two files, or between the files of two directories.
* `cmp`: the first byte in which two files differ, or all of them. -/

namespace ClassLens.Tool

open Shell

namespace Comparing

/-- The options of `diff`. -/
def options : Options where
  flags := "0123456789abBcdeEfiHlnNpPqrstTuvwyZ\x01\x02\x03\x04\x05\x06\x07\x08\x0b\x0c".toList
  valued := "CDFILSUWxX\x0e\x0f\x10\x11\x12\x13\x14\x15\x16".toList
  optional := ['\x17']
  names := [("ignore-blank-lines", 'B'), ("ignore-case", 'i'), ("ignore-space-change", 'b'),
    ("ignore-all-space", 'w'), ("ignore-trailing-space", 'Z'), ("ignore-tab-expansion", 'E'),
    ("ignore-matching-lines", 'I'), ("brief", 'q'), ("report-identical-files", 's'), ("normal", '\x01'),
    ("context", 'C'), ("unified", 'U'), ("ed", 'e'), ("forward-ed", 'f'), ("rcs", 'n'), ("side-by-side", 'y'),
    ("width", 'W'), ("left-column", '\x02'), ("suppress-common-lines", '\x03'), ("show-c-function", 'p'),
    ("show-function-line", 'F'), ("label", 'L'), ("expand-tabs", 't'), ("initial-tab", 'T'), ("recursive", 'r'),
    ("new-file", 'N'), ("unidirectional-new-file", '\x04'), ("exclude", 'x'), ("exclude-from", 'X'),
    ("starting-file", 'S'), ("text", 'a'), ("minimal", 'd'), ("speed-large-files", 'H'),
    ("strip-trailing-cr", '\x05'), ("no-dereference", '\x06'), ("ignore-file-name-case", '\x07'),
    ("no-ignore-file-name-case", '\x08'), ("suppress-blank-empty", '\x0b'), ("binary", '\x0c'),
    ("tabsize", '\x0e'), ("horizon-lines", '\x0f'), ("from-file", '\x10'), ("to-file", '\x11'),
    ("color", '\x17'), ("paginate", 'l'), ("version", 'v')]

/-- What is said of a wrong use. -/
def wrongUse (message : String) : Run Nat := do
  complain "diff" message
  tell "diff: Try 'diff --help' for more information.\n"
  return 2

/-- The setup after one more option, or what is wrong with it. -/
def Setup.read (x : Setup) (letter : Char) (value : String) : Except String Setup :=
  let number (what : String) (f : Nat → Setup) : Except String Setup :=
    match natOf? value with
    | some n => .ok (f n)
    | none => .error ("invalid " ++ what ++ " " ++ quoted value)
  let styled (s : Style) : Except String Setup :=
    match x.style, s with
    | some (.unified n), .unified m => .ok { x with style := some (.unified (max n m)) }
    | some (.context n), .context m => .ok { x with style := some (.context (max n m)) }
    | some old, new => if old = new then .ok x else .error "conflicting output style options"
    | none, new => .ok { x with style := some new }
  let around (s : Nat → Style) : Except String Setup :=
    if value = "" then styled (s 3)
    else
      match natOf? value with
      | some n => styled (s n)
      | none => .error ("invalid context length " ++ quoted value)
  let pattern (f : Regex → Setup) : Except String Setup :=
    match Regex.parse Regex.basicSearch value.toList with
    | .ok (r, _) => .ok (f r)
    | .error e => .error (value ++ ": " ++ e)
  let widen (b : Blanks) : Except String Setup :=
    let order : List Blanks := [.none, .tabs, .atEnd, .tabsAndEnd, .amount, .all]
    let both : Blanks := match x.blanks, b with
      | .tabs, .atEnd | .atEnd, .tabs => .tabsAndEnd
      | old, new => if order.idxOf old < order.idxOf new then new else old
    .ok { x with blanks := both }
  match letter with
  | 'a' => .ok { x with asText := true }
  | 'b' => widen .amount
  | 'B' => .ok { x with passesBlank := true }
  | 'c' => styled (.context 3)
  | 'C' => around .context
  | 'd' => .ok { x with isLeast := true }
  | 'e' => styled .editing
  | 'E' => widen .tabs
  | 'f' => styled .forwards
  | 'F' => pattern fun r => { x with heading := some r }
  | 'i' => .ok { x with anyCase := true }
  | 'I' => pattern fun r => { x with passes := x.passes ++ [r] }
  | 'L' =>
    if x.labels.length = 2 then .error "too many file label options" else .ok { x with labels := x.labels ++ [value] }
  | 'n' => styled .counted
  | 'N' => .ok { x with fills := true }
  | '\x04' => .ok { x with fillsFirst := true }
  | 'p' =>
    match Regex.parse Regex.basicSearch "^[[:alpha:]$_]".toList with
    | .ok (r, _) => .ok { x with heading := some r }
    | .error e => .error e
  | 'q' => .ok { x with brief := true }
  | 'r' => .ok { x with recursive := true }
  | 's' => .ok { x with tellsSame := true }
  | 't' => .ok { x with expandsTabs := true }
  | 'T' => .ok { x with leadsWithTab := true }
  | 'u' => styled (.unified 3)
  | 'U' => around .unified
  | 'w' => widen .all
  | 'W' => number "width" fun n => { x with width := n }
  | 'x' => .ok { x with excluded := x.excluded ++ [value] }
  | 'y' => styled .columns
  | 'Z' => widen .atEnd
  | '\x01' => styled .plain
  | '\x02' => .ok { x with leftOnly := true }
  | '\x03' => .ok { x with hidesSame := true }
  | '\x05' => .ok { x with dropsReturns := true }
  | '\x0e' => number "tabsize" fun n => { x with tabSize := n }
  | '\x0f' => number "horizon length" fun n => { x with horizon := n }
  | _ => .ok x

/-- The time of a file's last change. -/
def timeAt (path : String) : Run Int := do
  if path = "-" || (descriptorOf? path).isSome then return (← present)
  let t ← files
  match t.locate (pathOf path) with
  | .ok here => return timeOf t here
  | .error _ => return 0

/-- Compares two contents under their names; one is missing for a path that there is not. -/
def Setup.compareTexts (x : Setup) (inside : Bool) (a b : String) (first second : String) : Run Nat := do
  let tellSame : Run Nat := do
    if x.tellsSame then say ("Files " ++ a ++ " and " ++ b ++ " are identical\n")
    return 0
  let isBinary (s : String) : Bool := (s.toList.take 65536).contains '\x00'
  if !x.asText && (isBinary first || isBinary second) then
    if first = second then tellSame
    else if x.brief then
      say ("Files " ++ a ++ " and " ++ b ++ " differ\n")
      return 1
    else
      say ("Binary files " ++ a ++ " and " ++ b ++ " differ\n")
      return 2
  else
    let left := Side.ofText a (← timeAt a) first
    let right := Side.ofText b (← timeAt b) second
    let changes := if first = second then [] else x.compare left right
    let differs := changes.any fun c => !x.passesOver left right c
    if x.brief then
      if differs then
        say ("Files " ++ a ++ " and " ++ b ++ " differ\n")
        return 1
      else tellSame
    else
      let showsSame := x.style = some .columns && !x.hidesSame
      if differs || showsSame then
        let call := " ".intercalate ("diff" :: x.given.map (shellWord []) ++ [shellWord [] a, shellWord [] b])
        if inside then say (call ++ "\n")
        say (x.show left right changes)
      if differs then return 1 else tellSame

/-- Compares what two paths lead to; `depth` tells how many directories are above. -/
def Setup.comparePaths (x : Setup) : Nat → Nat → String → String → Run Nat
  | 0, _, _, _ => return 2
  | fuel + 1, depth, a, b => do
    let t ← files
    let lent := (← shell).descriptors
    let isLent (path : String) : Bool := ((descriptorOf? path).bind lent.get?).isSome
    let place (path : String) : Except ReadFault (Option Location) :=
      if path = "-" || isLent path then .ok none else (t.locate (pathOf path)).map some
    let isDir (r : Except ReadFault (Option Location)) : Bool :=
      match r with
      | .ok (some here) => t.isDirectoryAt here
      | _ => false
    let left := place a
    let right := place b
    let isMissing (r : Except ReadFault (Option Location)) : Bool := r matches .error .notFound
    if depth = 0 && isDir left && !isDir right && right.toBool then
      return ← comparePaths x fuel 0 (inDirectory a (lastName b)) b
    if depth = 0 && isDir right && !isDir left && left.toBool then
      return ← comparePaths x fuel 0 a (inDirectory b (lastName a))
    if depth = 0 && !(x.fills && !(isMissing left && isMissing right)) && !(x.fillsFirst && isMissing left) then
      let mut failed := false
      for (path, r) in [(a, left), (b, right)] do
        if let .error fault := r then
          complain "diff" (path ++ ": " ++ fault.wording)
          failed := true
      if failed then return 2
    let canBeDirs := (isDir left || isMissing left) && (isDir right || isMissing right)
    if canBeDirs && (isDir left || isDir right) then
      if depth > 0 && !x.recursive then
        say ("Common subdirectories: " ++ a ++ " and " ++ b ++ "\n")
        return 0
      let namesOf (r : Except ReadFault (Option Location)) : List String :=
        match r with
        | .ok (some here) => (entriesIn t here).filter fun name => !x.excluded.any fun p =>
            (Pattern.ofMarked (p.toList.map fun c => (c, false))).accepts name.toList
        | _ => []
      let mine := namesOf left
      let others := namesOf right
      let names := ((mine ++ others).eraseDups).mergeSort fun a b => a ≤ b
      let mut status := 0
      for name in names do
        let inner ← if mine.contains name && others.contains name then
            comparePaths x fuel (depth + 1) (inDirectory a name) (inDirectory b name)
          else if x.fills || (x.fillsFirst && others.contains name) then
            comparePaths x fuel (depth + 1) (inDirectory a name) (inDirectory b name)
          else do
            say ("Only in " ++ (if mine.contains name then a else b) ++ ": " ++ name ++ "\n")
            pure 1
        status := max status inner
      return status
    if isDir left || isDir right then
      let kind (r : Except ReadFault (Option Location)) : String :=
        match r with
        | .ok (some here) => kindOf t here
        | _ => "regular file"
      say ("File " ++ a ++ " is a " ++ kind left ++ " while file " ++ b ++ " is a " ++ kind right ++ "\n")
      return 1
    if a = b then
      if x.tellsSame then say ("Files " ++ a ++ " and " ++ b ++ " are identical\n")
      if x.style = some .columns && !x.hidesSame then
        if let .ok content ← readInput a then return ← x.compareTexts (depth > 0) a b content content
      return 0
    let read (path : String) (r : Except ReadFault (Option Location)) : Run (Except ReadFault String) :=
      if isMissing r then return .ok "" else readInput path
    match ← read a left with
    | .error fault =>
      complain "diff" (a ++ ": " ++ fault.wording)
      return 2
    | .ok first =>
      match ← read b right with
      | .error fault =>
        complain "diff" (b ++ ": " ++ fault.wording)
        return 2
      | .ok second => x.compareTexts (depth > 0) a b first second

end Comparing

open Comparing

/-- Shows what has changed between files. -/
def diff : Tool := fun self args => do
  match Comparing.options.readFrom true (args.length + 1) {} args with
  | .error e => wrongUse e
  | .ok g =>
    let operandsLast := args.filter fun a => !(g.operands.contains a)
    let start : Setup := { given := operandsLast }
    match g.options.foldlM (fun (x : Setup) (letter, value) => x.read letter value) start with
    | .error e => wrongUse e
    | .ok x =>
      let digits := String.ofList (g.options.filterMap fun o => if o.1.isDigit then some o.1 else none)
      let x := match natOf? digits, x.style with
        | some n, some (.unified _) => { x with style := some (.unified n) }
        | some n, some (.context _) => { x with style := some (.context n) }
        | none, none => if g.has 'p' then { x with style := some (.context 3) } else x
        | _, _ => x
      match g.operands with
      | [] => wrongUse ("missing operand after " ++ quoted (args.getLast?.getD self))
      | [one] => wrongUse ("missing operand after " ++ quoted one)
      | [a, b] => x.comparePaths 100 0 a b
      | _ :: _ :: extra :: _ => wrongUse ("extra operand " ++ quoted extra)

/-- A byte as three octal digits without zeros at their left. -/
def octalByte (c : Char) : String := padLeft 3 (String.ofList (Nat.toDigits 8 c.toNat))

/-- A byte as it can be shown: one of a control character by a sign and a letter. -/
def visibleByte (c : Char) : String :=
  let low (n : Nat) : String :=
    if n < 32 then "^" ++ String.singleton (Char.ofNat (n + 64)) else if n = 127 then "^?" else String.singleton (Char.ofNat n)
  if c.toNat ≥ 128 then "M-" ++ low (c.toNat - 128) else low c.toNat

/-- Tells where two files differ first, or everywhere. -/
def cmp : Tool := fun self args => do
  let o : Options := {
    flags := ['b', 'l', 's', 'v']
    valued := ['i', 'n']
    names := [("print-bytes", 'b'), ("ignore-initial", 'i'), ("verbose", 'l'), ("bytes", 'n'), ("quiet", 's'),
      ("silent", 's')] }
  let wrong (message : String) : Run Nat := do
    complain self message
    tell (self ++ ": Try '" ++ self ++ " --help' for more information.\n")
    return 2
  match o.readFrom true (args.length + 1) {} args with
  | .error e => wrong e
  | .ok g =>
    match g.operands with
    | [] => wrong ("missing operand after " ++ quoted (args.getLast?.getD self))
    | a :: rest =>
      if let some extra := rest[3]? then return ← wrong ("extra operand " ++ quoted extra)
      let b := rest.headD "-"
      if g.has 'l' && g.has 's' then
        return ← wrong "options -l and -s are incompatible"
      let skips := ((g.value? 'i').getD "0").splitOn ":"
      let skipOf (s : Option String) : Option Nat := (s.getD "0") |> sizeOf?
      let given : List (Option Nat) := [skipOf (rest[1]? <|> skips.head?),
        skipOf (rest[2]? <|> (if skips.length > 1 then skips[1]? else skips.head?))]
      match given, (g.value? 'n').map sizeOf? with
      | _, some none => wrong ("invalid --bytes value " ++ quoted ((g.value? 'n').getD ""))
      | [some skipA, some skipB], limit =>
        if a = b && skipA = skipB then return 0
        let read (path : String) : Run (Except ReadFault String) := readInput path
        match ← read a with
        | .error fault =>
          if !g.has 's' then complain self (a ++ ": " ++ fault.wording)
          return 2
        | .ok first =>
          match ← read b with
          | .error fault =>
            if !g.has 's' then complain self (b ++ ": " ++ fault.wording)
            return 2
          | .ok second =>
            let cut (s : String) (n : Nat) : List Char :=
              let s := s.toList.drop n
              match limit with
              | some (some m) => s.take m
              | _ => s
            let x := cut first skipA
            let y := cut second skipB
            let differing := ((x.zip y).zipIdx 1).filter fun ((c, d), _) => c != d
            let common := min x.length y.length
            if g.has 's' then return if differing.isEmpty && x.length = y.length then 0 else 1
            let lineAt (n : Nat) : Nat := ((x.take n).filter (· == '\n')).length + 1
            if !g.has 'l' then
              match differing with
              | ((c, d), n) :: _ =>
                let what := if g.has 'b' then "byte" else "char"
                say (a ++ " " ++ b ++ " differ: " ++ what ++ " " ++ toString n ++ ", line " ++ toString (lineAt (n - 1)) ++
                  (if g.has 'b' then " is " ++ octalByte c ++ " " ++ visibleByte c ++ " " ++ octalByte d ++ " " ++
                    visibleByte d else "") ++ "\n")
                return 1
              | [] => pure ()
            else
              let most := match limit with
                | some (some m) => min m (max x.length y.length)
                | _ => min x.length y.length
              let width := (toString most).length
              for ((c, d), n) in differing do
                say (padLeft width (toString n) ++ " " ++ octalByte c ++ " " ++
                  (if g.has 'b' then
                    let shown := visibleByte c
                    shown ++ String.ofList (List.replicate (4 - shown.length) ' ') ++ " "
                  else "") ++ octalByte d ++ (if g.has 'b' then " " ++ visibleByte d else "") ++ "\n")
            if x.length ≠ y.length then
              let short := if x.length < y.length then a else b
              let place :=
                if common = 0 then " which is empty"
                else
                  let isWhole := (x.take common).getLast? == some '\n'
                  " after byte " ++ toString common ++
                    (if g.has 'l' then ""
                    else (if isWhole then ", line " else ", in line ") ++
                      toString (if isWhole then lineAt common - 1 else lineAt common))
              complain self ("EOF on " ++ short ++ place)
              return 1
            return if differing.isEmpty then 0 else 1
      | _, _ => wrong ("invalid --ignore-initial value " ++ quoted ((g.value? 'i').getD ""))

end ClassLens.Tool
