import ClassLens.Shell.Pattern

/-! # Forms of values

What the extended language makes of the value of a variable: other texts in the place of what a pattern matches,
other letters, a part of it, or a form that the shell reads back. There a pattern may hold groups of patterns in
parentheses, after a sign that tells how often one of them may stand there.

* `Shape.ofMarked`: the pattern of characters that are marked as quoted or not.
* `Shape.accepts`: whether such a pattern matches a text as a whole.
* `strip`, `replace`, `respell`: a value by what a pattern matches in it.
* `reusable`, `backslashed`, `displayed`: a value as a word of a script. -/

namespace ClassLens.Shell

/-! ## Patterns with alternatives -/

/-- How often one of the patterns of a group may stand at a place. -/
inductive Often where
  | once
  | maybe
  | anyTimes
  | someTimes
  /-- What none of them matches. -/
  | never
  deriving DecidableEq

/-- The sign before a group. -/
def Often.ofSign? (c : Char) : Option Often :=
  match c with
  | '@' => some .once
  | '?' => some .maybe
  | '*' => some .anyTimes
  | '+' => some .someTimes
  | '!' => some .never
  | _ => none

/-- A place of a pattern that may have groups. -/
inductive Shape where
  | item (p : PatternItem)
  | group (often : Often) (choices : List (List Shape))

namespace Shape

/-- The first item of a pattern without groups, and the characters after it. -/
def firstItem (m : Marked) (s : List Marked) : PatternItem × List Marked :=
  if m.2 then (.one m.1, s)
  else
    match m.1, s with
    | '*', s => (.many, s)
    | '?', s => (.any, s)
    | '\\', (c, _) :: s => (.one c, s)
    | '[', s =>
      let (negated, inner) := match s with
        | ('!', false) :: s => (true, s)
        | ('^', false) :: s => (true, s)
        | s => (false, s)
      match Pattern.readSet (inner.length + 1) true inner [] [] with
      | some (ranges, classes, rest) => (.among negated ranges classes, rest)
      | none => (.one '[', s)
    | c, s => (.one c, s)

mutual

/-- A pattern up to the end of the characters, or within a group up to a bar or a parenthesis. -/
def read (fuel : Nat) (inGroup : Bool) (s : List Marked) : List Shape × List Marked :=
  match fuel with
  | 0 => ([], [])
  | fuel + 1 =>
    match s with
    | [] => ([], [])
    | m :: rest =>
      if inGroup && !m.2 && (m.1 == '|' || m.1 == ')') then ([], s)
      else
        let often := if m.2 then none else Often.ofSign? m.1
        let group := match often, rest with
          | some often, ('(', false) :: inner => (readChoices fuel inner).map fun r => (often, r)
          | _, _ => none
        match group with
        | some (often, choices, rest) =>
          let (more, rest) := read fuel inGroup rest
          (.group often choices :: more, rest)
        | none =>
          let (first, rest) := firstItem m rest
          let (more, rest) := read fuel inGroup rest
          (.item first :: more, rest)

/-- The patterns of a group up to the parenthesis that closes it. -/
def readChoices (fuel : Nat) (s : List Marked) : Option (List (List Shape) × List Marked) :=
  match fuel with
  | 0 => none
  | fuel + 1 =>
    match read fuel true s with
    | (choice, ('|', _) :: rest) => (readChoices fuel rest).map fun (more, rest) => (choice :: more, rest)
    | (choice, _ :: rest) => some ([choice], rest)
    | (_, []) => none

end

/-- The pattern of marked characters. -/
def ofMarked (s : List Marked) : List Shape :=
  (read (2 * s.length + 2) false s).1

/-- The ends of a text, from the whole of it on. -/
def endsOf : List Char → List (List Char)
  | [] => [[]]
  | c :: s => (c :: s) :: endsOf s

/-- Texts of different lengths. -/
def distinct (found : List (List Char)) : List (List Char) :=
  found.foldl (fun kept s => if kept.any fun t => t.length == s.length then kept else kept ++ [s]) []

/-- What may be left of a text after a pattern at its start. -/
def leaves : Nat → List Shape → List Char → List (List Char)
  | 0, _, _ => []
  | _ + 1, [], s => [s]
  | fuel + 1, .item .many :: shapes, s => distinct ((endsOf s).flatMap (leaves fuel shapes))
  | fuel + 1, .item p :: shapes, c :: s => if p.holds c then leaves fuel shapes s else []
  | _ + 1, .item _ :: _, [] => []
  | fuel + 1, .group often choices :: shapes, s =>
    let once (s : List Char) : List (List Char) := distinct (choices.flatMap fun c => leaves fuel c s)
    let rec repeated (n : Nat) (found : List (List Char)) : List (List Char) :=
      match n with
      | 0 => found
      | n + 1 =>
        let more := distinct (found ++ found.flatMap once)
        if more.length = found.length then found else repeated n more
    let after : List (List Char) :=
      match often with
      | .once => once s
      | .maybe => distinct (s :: once s)
      | .anyTimes => repeated s.length [s]
      | .someTimes => repeated s.length (once s)
      | .never => (endsOf s).filter fun t => !(once s).any fun u => u.length == t.length
    distinct (after.flatMap (leaves fuel shapes))

/-- Whether a pattern matches a text as a whole. -/
def accepts (shapes : List Shape) (s : List Char) : Bool :=
  (leaves 10000 shapes s).any List.isEmpty

end Shape

end ClassLens.Shell

namespace ClassLens.Shell.Reshaping

/-! ## Values -/

/-- Whether a text matches. -/
abbrev Acceptor := List Char → Bool

/-- What a pattern of marked characters matches, with groups or without, and maybe whatever the letters. -/
def acceptor (hasGroups foldsCase : Bool) (ms : List Marked) : Acceptor :=
  let fold (c : Char) : Char := if foldsCase then c.toLower else c
  let ms := ms.map fun m => (fold m.1, m.2)
  if hasGroups then
    let shapes := Shape.ofMarked ms
    fun s => Shape.accepts shapes (s.map fold)
  else
    let pattern := Pattern.ofMarked ms
    fun s => pattern.accepts (s.map fold)

/-- A text without what matches at its start or its end. -/
def strip (atEnd longest : Bool) (accepts : Acceptor) (s : List Char) : List Char :=
  let places := List.range (s.length + 1)
  if atEnd then
    match (if longest then places else places.reverse).find? fun n => accepts (s.drop n) with
    | some n => s.take n
    | none => s
  else
    match (if longest then places.reverse else places).find? fun n => accepts (s.take n) with
    | some n => s.drop n
    | none => s

/-- The longest start of a text that matches. -/
def longestStart (accepts : Acceptor) (s : List Char) : Option Nat :=
  (List.range (s.length + 1)).reverse.find? fun n => accepts (s.take n)

/-- A text with another one in the place of all that matches. -/
def replaceAll (accepts : Acceptor) (new : List Char → List Char) : Nat → List Char → List Char
  | 0, s => s
  | _ + 1, [] => []
  | fuel + 1, c :: s =>
    match longestStart accepts (c :: s) with
    | none => c :: replaceAll accepts new fuel s
    | some 0 => new [] ++ c :: replaceAll accepts new fuel s
    | some (n + 1) => new (c :: s.take n) ++ replaceAll accepts new fuel (s.drop n)

/-- A text with another one in the place of the first that matches. -/
def replaceFirst (accepts : Acceptor) (new : List Char → List Char) : List Char → List Char
  | [] =>
    match longestStart accepts [] with
    | some _ => new []
    | none => []
  | c :: s =>
    match longestStart accepts (c :: s) with
    | some n => new ((c :: s).take n) ++ (c :: s).drop n
    | none => c :: replaceFirst accepts new s

/-- A text with another one in the place of what matches at its start, or at its end. -/
def replaceAtEdge (atEnd : Bool) (accepts : Acceptor) (new : List Char → List Char) (s : List Char) :
    List Char :=
  if atEnd then
    match (List.range (s.length + 1)).find? fun n => accepts (s.drop n) with
    | some n => s.take n ++ new (s.drop n)
    | none => s
  else
    match longestStart accepts s with
    | some n => new (s.take n) ++ s.drop n
    | none => s

/-- The text for what matched: a mark without quotes stands for it. -/
def filled : List Marked → List Char → List Char
  | [], _ => []
  | ('\\', false) :: (c, q) :: ms, found =>
    if c == '&' || c == '\\' then c :: filled ms found
    else '\\' :: filled ((c, q) :: ms) found
  | ('&', false) :: ms, found => found ++ filled ms found
  | (c, _) :: ms, found => c :: filled ms found

/-- A letter on the other side. -/
def swapped (c : Char) : Char := if c.isUpper then c.toLower else c.toUpper

/-- A text with its first character, or with all, in great or small letters where they match. -/
def respell (upper : Option Bool) (all : Bool) (accepts : Acceptor) (s : List Char) : List Char :=
  let one (c : Char) : Char :=
    if accepts [c] then
      match upper with
      | some true => c.toUpper
      | some false => c.toLower
      | none => swapped c
    else c
  match s with
  | [] => []
  | c :: rest => one c :: (if all then rest.map one else rest)

/-! ### Words of a script -/

/-- A text between single quotes. -/
def singleQuoted (s : String) : String :=
  if s = "'" then "\\'" else "'" ++ "'\\''".intercalate (s.splitOn "'") ++ "'"

/-- Whether a character can be shown. -/
def isShown (c : Char) : Bool := 32 ≤ c.toNat && c.toNat < 127

/-- A byte as three octal digits after a backslash. -/
def octal (c : Char) : String :=
  let digit (n : Nat) : Char := Char.ofNat (48 + n % 8)
  String.ofList ['\\', digit (c.toNat / 64), digit (c.toNat / 8), digit c.toNat]

/-- A text in quotes after a dollar sign, with what cannot be shown as escapes. -/
def escapeQuoted (s : String) : String :=
  let one (c : Char) : String :=
    match c.toNat with
    | 7 => "\\a"
    | 8 => "\\b"
    | 9 => "\\t"
    | 10 => "\\n"
    | 11 => "\\v"
    | 12 => "\\f"
    | 13 => "\\r"
    | 27 => "\\E"
    | 39 => "\\'"
    | 92 => "\\\\"
    | _ => if isShown c then String.singleton c else octal c
  "$'" ++ String.join (s.toList.map one) ++ "'"

/-- A text in quotes that the shell reads back. -/
def reusable (s : String) : String :=
  if s.toList.all isShown then singleQuoted s else escapeQuoted s

/-- A text with a backslash before each character that has a meaning. -/
def backslashed (s : String) : String :=
  if s = "" then "''"
  else if !s.toList.all isShown then escapeQuoted s
  else
    let special := " '\"\\|&;()<>!\x7b\x7d*[]?^$\x60,".toList
    let one (before : Option Char) (c : Char) : List Char :=
      let isHere := special.contains c || (c == '#' && before.isNone) ||
        (c == '~' && before.all fun b => b == '=' || b == ':')
      if isHere then ['\\', c] else [c]
    let befores : List (Option Char) := none :: s.toList.map some
    String.ofList ((befores.zip s.toList).flatMap fun (b, c) => one b c)

/-- A text between double quotes that the shell reads back. -/
def displayed (s : String) : String :=
  if s.toList.all isShown then
    "\"" ++ String.ofList (s.toList.flatMap fun c =>
      if c == '"' || c == '$' || c == '\\' || c.toNat == 96 then ['\\', c] else [c]) ++ "\""
  else escapeQuoted s

/-- A word as it is shown before it is run: in quotes where it holds what has a meaning. -/
def traced (s : String) : String :=
  let special := " \t\n'\"\\|&;()<>!\x7b\x7d*[]?^$\x60".toList
  let needs (before : Option Char) (c : Char) : Bool :=
    special.contains c || (c == '~' && before.all fun b => b == '=' || b == ':') || (c == '#' && before.isNone)
  let befores : List (Option Char) := none :: s.toList.map some
  if s = "" then "''"
  else if !s.toList.all isShown then escapeQuoted s
  else if (befores.zip s.toList).any fun (b, c) => needs b c then singleQuoted s
  else s

/-- A text in quotes only where it needs them. -/
def quotedIfNeeded (s : String) : String :=
  let plain (c : Char) : Bool := c.isAlphanum || "_-./,:=+@%~".toList.contains c
  if s = "" then "" else if s.toList.all plain then s else reusable s

end ClassLens.Shell.Reshaping
