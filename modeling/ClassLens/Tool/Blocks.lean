import ClassLens.Tool.Files

/-! # Copying blocks of bytes

* `Blocks.convert`: a row of bytes with its blocks changed.
* `dd`: the program that copies blocks. -/

namespace ClassLens.Tool

open Shell

namespace Blocks

/-- The changes that blocks may go through. -/
def conversions : List String :=
  ["ascii", "ebcdic", "ibm", "block", "unblock", "lcase", "ucase", "sparse", "swab", "sync", "excl", "nocreat",
    "notrunc", "noerror", "fdatasync", "fsync"]

/-- A row with each two neighbours exchanged. -/
def swapped : List Char → List Char
  | a :: b :: rest => b :: a :: swapped rest
  | rest => rest

/-- The bytes with all changes. -/
def convert (changes : List String) (size : Nat) (cs : List Char) : List Char :=
  let cs := if changes.contains "sync" then
      let missing := (size - cs.length % size) % size
      cs ++ List.replicate missing '\x00'
    else cs
  let cs := if changes.contains "swab" then swapped cs else cs
  if changes.contains "ucase" then cs.map Char.toUpper
  else if changes.contains "lcase" then cs.map Char.toLower
  else cs

/-- A number of blocks or bytes: numbers with units that are multiplied. -/
def number? (s : String) : Option Nat :=
  (s.splitOn "x").foldl (fun n part =>
    let unit := if part.endsWith "c" then sizeOf? (part.dropEnd 1).toString
      else if part.endsWith "w" then (sizeOf? (part.dropEnd 1).toString).map (2 * ·)
      else sizeOf? part
    match n, unit with
    | some a, some b => some (a * b)
    | _, _ => none) (some 1)

end Blocks

/-- Copies blocks of bytes. -/
def dd : Tool := fun self args => do
  let known := ["if", "of", "bs", "ibs", "obs", "cbs", "count", "skip", "iseek", "seek", "oseek", "status", "conv",
    "iflag", "oflag"]
  let args := args.filter (· ≠ "--")
  let pairs := args.map fun a => ((a.takeWhile (· != '=')).toString, a)
  if let some (_, a) := pairs.find? fun p => !known.contains p.1 || !p.2.toList.contains '=' then
    return ← usage self ("unrecognized operand " ++ quoted a) 1
  let value? (name : String) : Option String :=
    (pairs.reverse.find? fun p => p.1 == name).map fun p => (p.2.drop (name.length + 1)).toString
  let changes := ((value? "conv").getD "").splitOn "," |>.filter (· ≠ "")
  if let some word := changes.find? fun w => !Blocks.conversions.contains w then
    return ← usage self ("invalid conversion: " ++ quoted word) 1
  if let some word := value? "status" then
    if !(["none", "noxfer", "progress"].contains word) then
      return ← usage self ("invalid status level: " ++ quoted word) 1
  for name in ["bs", "ibs", "obs", "count", "skip", "seek", "iseek", "oseek"] do
    if let some text := value? name then
      let digits := (text.toList.filter fun c => c != 'B')
      if (Blocks.number? (String.ofList digits)).isNone then
        complain self ("invalid number: " ++ quoted text)
        return 1
      if ["bs", "ibs", "obs"].contains name && Blocks.number? (String.ofList digits) == some 0 then
        complain self ("invalid number: " ++ quoted text)
        return 1
  let sizeOf (name : String) (usual : Nat) : Nat :=
    (((value? "bs") <|> (value? name)).bind Blocks.number?).getD usual
  let size := sizeOf "ibs" 512
  let outSize := sizeOf "obs" 512
  -- counts are of blocks unless they end in the sign of bytes
  let bytes? (names : List String) (unit : Nat) (flag : String) : Option Nat := do
    let text ← names.findSome? value?
    if text.endsWith "B" then Blocks.number? (text.dropEnd 1).toString
    else
      let n ← Blocks.number? text
      return if (((value? flag).getD "").splitOn ",").any (·.endsWith "_bytes") then n else n * unit
  let count := bytes? ["count"] size "iflag"
  let skip := (bytes? ["skip", "iseek"] size "iflag").getD 0
  let seek := (bytes? ["seek", "oseek"] outSize "oflag").getD 0
  let path := (value? "if").getD "-"
  let t ← files
  let content ←
    if t.nodeOf? (pathOf path) matches some .zeros then
      pure (.ok (String.ofList (List.replicate (count.getD size + skip) '\x00')))
    else if path = "-" then
      match count with
      | some n => pure (.ok (← readSome 0 (n + skip)))
      | none => readInput path
    else readInput path
  match content with
  | .error fault =>
    complain self ("failed to open " ++ quotedName path ++ ": " ++ fault.wording)
    return 1
  | .ok content =>
    let rest := content.toList.drop skip
    let taken := match count with
      | some n => rest.take n
      | none => rest
    let shown := Blocks.convert changes size taken
    match value? "of" with
    | none => say (String.ofList shown)
    | some target =>
      match (← files).locateNew (pathOf target) with
      | .error fault =>
        complain self ("failed to open " ++ quotedName target ++ ": " ++ fault.wording)
        return 1
      | .ok there =>
        let t ← files
        let old := match t.node? there with
          | some (.file content _) => content
          | _ => []
        match t.node? there with
        | some .directory =>
          complain self ("failed to open " ++ quotedName target ++ ": Is a directory")
          return 1
        | some .sink | some .zeros => pure ()
        | found =>
          if found.isSome && changes.contains "excl" then
            complain self ("failed to open " ++ quotedName target ++ ": File exists")
            return 1
          if found.isNone && changes.contains "nocreat" then
            complain self ("failed to open " ++ quotedName target ++ ": No such file or directory")
            return 1
          let new := toBytes (String.ofList shown)
          let start := old.take seek ++ List.replicate (seek - old.length) 0
          let tail := if changes.contains "notrunc" then old.drop (seek + new.length) else []
          keepContent there (start ++ new ++ tail)
    let records (unit n : Nat) : String :=
      toString (n / unit) ++ "+" ++ (if n % unit = 0 then "0" else "1") ++ " records "
    if value? "status" ≠ some "none" then
      tell (records size taken.length ++ "in\n" ++ records outSize shown.length ++ "out\n")
      if value? "status" ≠ some "noxfer" then
        let n := shown.length
        let unit := if n = 1 then " byte" else " bytes"
        tell (toString n ++ unit ++ " copied, 0.0001 s, 1.0 MB/s\n")
    return 0

end ClassLens.Tool
