import ClassLens.Tool.Files

/-! # What is known of files

The size, the links and the times of what stands at a place, and numbers as they are shown.

* `sizeAt`, `blocksAt`, `linksAt`, `secondsAt`: facts of a place.
* `sizeForReader`: a size with a unit.
* `quotedAs`: a name in one of the styles in which names are shown. -/

namespace ClassLens.Tool

open Shell

/-- The size of what stands at a place. -/
def sizeAt (t : FileTree) (here : Location) : Nat :=
  match t.node? here with
  | some .directory => 4096
  | some (.file content _) => content.length
  | some (.link target) => target.bytes.length
  | _ => 0

/-- The room that it takes, in blocks of 512 bytes. -/
def blocksAt (t : FileTree) (here : Location) : Nat :=
  match t.node? here with
  | some .directory => 8
  | some (.file content _) => (content.length + 4095) / 4096 * 8
  | _ => 0

/-- How many names it has; a directory has one in each directory that stands in it, too. -/
def linksAt (t : FileTree) (here : Location) : Nat :=
  if t.isDirectoryAt here then
    2 + ((namesIn t here).filter fun name => t.isDirectoryAt (here ++ [toBytes name])).length
  else (t.twins here).length

/-- When it was changed, in seconds, and the billionths beyond them. -/
def secondsAt (t : FileTree) (here : Location) : Int × Nat :=
  let time := timeOf t here
  (time.fdiv 1000000000, (time.fmod 1000000000).toNat)

/-- Where the links at a place lead to. -/
def throughLinks (t : FileTree) (here : Location) : Except ReadFault Location :=
  t.locate (Path.ofPieces true here)

/-- The quotient, with what remains counted as one more. -/
def ceilDiv (a b : Nat) : Nat := (a + b - 1) / b

/-- The number of a place, which two places have only if one file stands at both. -/
def inodeAt (t : FileTree) (here : Location) : Nat :=
  let first := (t.twins here).head?.getD here
  1000000 + (first.flatMap fun name => (47 : UInt8) :: name).foldl (fun n b => (n * 131 + b.toNat) % 999983) 7

/-- A size in units, each being so many of the one before: one digit after the point below ten units. -/
def sizeForReader (base : Nat) (n : Nat) : String :=
  let letters := if base = 1000 then ["k", "M", "G", "T", "P", "E"] else ["K", "M", "G", "T", "P", "E"]
  let rec go (unit : Nat) : List String → String
    | [] => toString n
    | letter :: more =>
      let tenths := ceilDiv (n * 10) unit
      let whole := ceilDiv n unit
      if tenths < 100 then toString (tenths / 10) ++ "." ++ toString (tenths % 10) ++ letter
      else if whole < base || more.isEmpty then toString whole ++ letter
      else go (unit * base) more
  if n < base then toString n else go base letters

/-! ### Names -/

/-- How names are shown. -/
inductive QuotingStyle where
  | literal
  | shell
  | shellAlways
  | shellEscape
  | shellEscapeAlways
  | c
  | cMaybe
  | escape
  | locale
  deriving DecidableEq

/-- The words for the styles of names. -/
def quotingStyles : List (String × QuotingStyle) :=
  [("literal", .literal), ("shell", .shell), ("shell-always", .shellAlways), ("shell-escape", .shellEscape),
    ("shell-escape-always", .shellEscapeAlways), ("c", .c), ("c-maybe", .cMaybe), ("escape", .escape),
    ("locale", .locale), ("clocale", .locale)]

/-- A name with escapes for what cannot be shown and for some characters. -/
def withEscapes (others : List Char) (s : String) : String :=
  String.join (s.toList.map fun c =>
    match escapeLetter? c with
    | some letter => String.ofList ['\\', letter]
    | none =>
      if c == '\\' || others.contains c then String.ofList ['\\', c]
      else if isPrintable c then String.singleton c else "\\" ++ octalCode c)

/-- A name in quotes where it needs them, without escapes. -/
def inPlainQuotes (always : Bool) (s : String) : String :=
  if shellWord [] s = s && !always then s
  else if s.toList.contains '\'' && !(s.toList.any fun c => "\"$\\\x60".toList.contains c) then "\"" ++ s ++ "\""
  else "'" ++ s.replace "'" "'\\''" ++ "'"

/-- A name in a style. -/
def quotedAs (style : QuotingStyle) (s : String) : String :=
  match style with
  | .literal => s
  | .shell => inPlainQuotes false s
  | .shellAlways => inPlainQuotes true s
  | .shellEscape => shellWord [] s
  | .shellEscapeAlways => quotedName s
  | .c => "\"" ++ withEscapes ['"'] s ++ "\""
  | .cMaybe => if withEscapes ['"'] s = s then s else "\"" ++ withEscapes ['"'] s ++ "\""
  | .escape => withEscapes [' '] s
  | .locale => "'" ++ withEscapes ['\''] s ++ "'"

end ClassLens.Tool
