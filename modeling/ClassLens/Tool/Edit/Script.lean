import ClassLens.Shell.Command
import ClassLens.Tool.Regex.Reader

/-! # Scripts that edit lines

The commands of `sed`: each has the lines it works on and an action. A script comes in pieces, which are
texts among the arguments or files; a command may be open at the end of a piece.

* `Edit.Command`: a command.
* `Edit.Source`: a piece of a script.
* `Edit.parse`: the commands of a script, or what is wrong with it and where. -/

namespace ClassLens.Tool.Edit

/-- What selects a line. -/
inductive Address where
  | line (n : Nat)
  | last
  /-- Every line from one on, in steps. -/
  | steps (first step : Nat)
  /-- Lines that an expression matches; none stands for the last one that was used. -/
  | matching (regex : Option Regex) (foldsCase : Bool)
  /-- So many lines after the one that starts a range. -/
  | plus (n : Nat)
  /-- The next line whose number is a multiple. -/
  | multiple (n : Nat)

/-- A piece of the text that replaces a match. -/
inductive Piece where
  | text (s : List Char)
  /-- What a group has matched, or the whole match for zero. -/
  | group (n : Nat)
  /-- A change of case of what follows: `U`, `L`, `E`, `u` or `l`. -/
  | case (mode : Char)

/-- What is replaced by what. -/
structure Substitution where
  regex : Option Regex
  foldsCase : Bool := false
  pieces : List Piece
  isGlobal : Bool := false
  number : Nat := 0
  /-- Whether the result is run as a command, whose output takes its place. -/
  runs : Bool := false
  /-- Whether the line is written, before and after it is run. -/
  printsBefore : Bool := false
  printsAfter : Bool := false
  file : Option String := none

/-- What a command does. -/
inductive Action where
  | substitute (s : Substitution)
  | translate (old new : List Char)
  | append (text : String)
  | insert (text : String)
  | change (text : String)
  | quit (prints : Bool) (status : Nat)
  | readFile (path : String)
  /-- The next line of a file. -/
  | readLine (path : String)
  | writeFile (path : String)
  /-- The first line of what is in work goes to a file. -/
  | writeFirst (path : String)
  /-- Going on at a label, or at the end: always, or after a replacement, or without one. -/
  | branch (mode : Char) (label : String)
  | label (name : String)
  /-- The start of a block, and so many commands later its end. -/
  | block (size : Nat)
  | close
  /-- The line in a form that shows everything, in rows of some width. -/
  | list (width : Option Nat)
  /-- A command line that is run; none is the line itself. -/
  | execute (text : Option String)
  /-- A command of one letter. -/
  | plain (letter : Char)

/-- A command with the lines it works on. -/
structure Command where
  first : Option Address := none
  second : Option Address := none
  negated : Bool := false
  action : Action

/-- Where a piece of a script comes from. -/
inductive Source where
  | argument (text : String)
  | file (name text : String)

/-- A block that is open: where its command stands, and where in the script it was opened. -/
structure Opened where
  index : Nat
  place : String

/-- What is left of a piece of a script, and what was read. -/
structure Script where
  rest : List Char := []
  place : Nat := 0
  line : Nat := 1
  /-- The file of the piece, or the number of the argument. -/
  file : Option String := none
  argument : Nat := 0
  extended : Bool
  found : Array Command := #[]
  opened : List Opened := []
  /-- The text of a command that goes on in the next piece. -/
  pending : Option (String → Action) := none
  /-- Whether a comment turns the output off. -/
  quiet : Bool := false
  isFirst : Bool := true
  /-- The files that are written. -/
  files : List String := []

/-- What is wrong with a script, with the files that it writes up to there. -/
structure Fault where
  message : String
  files : List String
  status : Nat := 1

/-- Reading a script. -/
abbrev Read := StateT Script (Except Fault)

/-- A fault with its place. -/
def Script.faultAt (s : Script) (place : Nat) (message : String) : String :=
  (match s.file with
    | some name => "file " ++ name ++ " line " ++ toString s.line
    | none => "-e expression #" ++ toString s.argument ++ ", char " ++ toString place) ++ ": " ++ message

/-- Refuses a script. -/
def fail {α : Type} (message : String) : Read α := do
  let s ← get
  throw { message := s.faultAt s.place message, files := s.files }

/-- Takes the next character. -/
def next : Read (Option Char) := do
  let s ← get
  match s.rest with
  | c :: rest =>
    set { s with rest, place := s.place + 1, line := if c == '\n' then s.line + 1 else s.line }
    return some c
  | [] => return none

/-- Puts a character back. -/
def putBack (c : Option Char) : Read Unit := modify fun s =>
  match c with
  | some c =>
    { s with
      rest := c :: s.rest, place := s.place - 1, line := if c == '\n' then s.line - 1 else s.line }
  | none => s

/-- Takes the characters that have a property. -/
def takeWhile (p : Char → Bool) : Read (List Char) := do
  let s ← get
  let cs := s.rest.takeWhile p
  set { s with
    rest := s.rest.drop cs.length, place := s.place + cs.length, line := s.line + cs.count '\n' }
  return cs

/-- Whether a character is a blank. -/
def isBlank (c : Char) : Bool := c == ' ' || c == '\t'

/-- Whether a character is a blank or ends a line or a page. -/
def isSpace (c : Char) : Bool := c == ' ' || (9 ≤ c.toNat && c.toNat ≤ 13)

/-- Takes the next character that is no blank. -/
def nextFilled : Read (Option Char) := do
  let _ ← takeWhile isBlank
  next

/-- The number whose first digit was taken; zero where it is no digit, which is put back. -/
def numberFrom (c : Option Char) : Read Nat := do
  putBack c
  return (← takeWhile Char.isDigit).foldl (fun n c => n * 10 + (c.toNat - 48)) 0

/-! ### Texts between separators -/

/-- A text up to a separator: what was found, what follows, and whether the separator was there. -/
structure Cut where
  text : List Char
  rest : List Char
  isClosed : Bool

/-- The inside of a set of an expression up to its closing bracket, the last character first. -/
def overSet : Nat → List Char → List Char → List Char × List Char
  | 0, found, s => (found, s)
  | n + 1, found, s =>
    match s with
    | [] => (found, [])
    | ']' :: s => (']' :: found, s)
    | '\n' :: _ => (found, s)
    | '[' :: c :: s =>
      if c == ':' || c == '.' || c == '=' then overName n c (c :: '[' :: found) s
      else overSet n ('[' :: found) (c :: s)
    | c :: s => overSet n (c :: found) s
where
  /-- The rest of a name in a set. -/
  overName : Nat → Char → List Char → List Char → List Char × List Char
    | 0, _, found, s => (found, s)
    | n + 1, delim, found, s =>
      match s with
      | [] => (found, [])
      | c :: ']' :: s => if c == delim then overSet n (']' :: c :: found) s else overName n delim (c :: found) (']' :: s)
      | c :: s => overName n delim (c :: found) s

/-- A text up to a separator, `found` being what was read, the last character first. A backslash before
the separator is left out. In an expression the separator counts in no set, and a backslash with an `n`
is a line break. -/
def cutFrom (sep : Char) (isRegex : Bool) : Nat → List Char → List Char → Cut
  | 0, found, s => ⟨found.reverse, s, false⟩
  | n + 1, found, s =>
    match s with
    | [] => ⟨found.reverse, [], false⟩
    | '\n' :: _ => if sep == '\n' then ⟨found.reverse, s.tail, true⟩ else ⟨found.reverse, s, false⟩
    | c :: s =>
      if c == sep then ⟨found.reverse, s, true⟩
      else if c == '\\' then
        match s with
        | [] => ⟨found.reverse, [], false⟩
        | d :: s =>
          if d == 'n' && isRegex then cutFrom sep isRegex n ('\n' :: found) s
          else if d == '\n' || (d == sep && (isRegex || d != '&')) then cutFrom sep isRegex n (d :: found) s
          else cutFrom sep isRegex n (d :: '\\' :: found) s
      else if c == '[' && isRegex then
        let (found, s) := match s with
          | '^' :: ']' :: s => overSet n (']' :: '^' :: '[' :: found) s
          | '^' :: s => overSet n ('^' :: '[' :: found) s
          | ']' :: s => overSet n (']' :: '[' :: found) s
          | s => overSet n ('[' :: found) s
        cutFrom sep isRegex n found s
      else cutFrom sep isRegex n (c :: found) s

/-- Takes a text up to a separator; none if it has no end. -/
def cut (sep : Option Char) (isRegex : Bool) : Read (Option (List Char)) := do
  let s ← get
  match sep with
  | none => return none
  | some sep =>
    let c := cutFrom sep isRegex (2 * s.rest.length + 2) [] s.rest
    let taken := s.rest.length - c.rest.length
    set { s with
      rest := c.rest, place := s.place + taken, line := s.line + (s.rest.take taken).count '\n' }
    return if c.isClosed then some c.text else none

/-- What escapes stand in. -/
inductive Purpose where
  | regex
  | replacement
  | plain
  deriving DecidableEq

/-- The value of a digit. -/
def digitOf? (base : Nat) (c : Char) : Option Nat :=
  let n := if c.isDigit then c.toNat - 48
    else if 'a' ≤ c && c ≤ 'f' then c.toNat - 87
    else if 'A' ≤ c && c ≤ 'F' then c.toNat - 55 else 16
  if n < base then some n else none

/-- A number of at most so many digits, and what follows it. -/
def digits (base most : Nat) (s : List Char) : Option (Nat × List Char) :=
  let ds := (s.take most).takeWhile fun c => (digitOf? base c).isSome
  if ds.isEmpty then none
  else some (ds.foldl (fun n c => n * base + (digitOf? base c).getD 0) 0, s.drop ds.length)

/-- A text with the characters that its escapes stand for; none if a control character is escaped in
itself. -/
def unescape (purpose : Purpose) : Nat → List Char → Option (List Char)
  | 0, s => some s
  | _ + 1, [] => some []
  | n + 1, '\\' :: c :: s =>
    let become (d : Char) (s : List Char) : Option (List Char) :=
      let kept := if purpose = .replacement && (d == '&' || d == '\\') then ['\\', d] else [d]
      (unescape purpose n s).map (kept ++ ·)
    let numbered (base most : Nat) : Option (List Char) :=
      match digits base most s with
      | some (k, s) => become (Char.ofNat (k % 256)) s
      | none => (unescape purpose n s).map fun t => '\\' :: c :: t
    match c with
    | 'a' => become '\x07' s
    | 'f' => become '\x0c' s
    | 'n' => if purpose = .replacement then become '\n' s else (unescape purpose n s).map ('\n' :: ·)
    | 'r' => become '\r' s
    | 't' => become '\t' s
    | 'v' => become '\x0b' s
    | 'd' => numbered 10 3
    | 'o' => numbered 8 3
    | 'x' => numbered 16 2
    | 'c' =>
      match s with
      | [] => some ['\\']
      | '\\' :: '\\' :: s => become '\x1c' s
      | '\\' :: _ => none
      | d :: s => become (Char.ofNat (d.toUpper.toNat ^^^ 64)) s
    | c => (unescape purpose n s).map fun t => '\\' :: c :: t
  | n + 1, c :: s => (unescape purpose n s).map (c :: ·)

/-- A text with the characters that its escapes stand for. -/
def unescaped (purpose : Purpose) (s : List Char) : Read (List Char) := do
  match unescape purpose (s.length + 1) s with
  | some s => return s
  | none => fail "recursive escaping after \\c not allowed"

/-- The expression of a text; an empty one is the last one that was used. -/
def regexOf (text : List Char) (foldsCase byLine : Bool) : Read (Option Regex × Nat) := do
  let text ← unescaped .regex text
  if text.isEmpty then
    if foldsCase || byLine then fail "cannot specify modifiers on empty regexp"
    return (none, 9)
  let style := if (← get).extended then Regex.extended else Regex.basic
  match Regex.parse { style with byLine } text with
  | .ok (r, groups) => return (some r, groups)
  | .error e =>
    if e = Regex.bareClassFault then throw { message := e, files := (← get).files, status := 4 }
    fail e

/-! ### Addresses -/

/-- The letters after the expression of an address: whether case counts, and whether lines do. -/
def modifiers : Nat → Bool → Bool → Read (Bool × Bool)
  | 0, i, m => return (i, m)
  | n + 1, i, m => do
    match ← nextFilled with
    | some 'I' => modifiers n true m
    | some 'M' => modifiers n i true
    | c =>
      putBack c
      return (i, m)

/-- An address whose first character was taken, if there is one. -/
def address (c : Option Char) : Read (Option Address) := do
  match c with
  | none => return none
  | some c =>
    if c == '/' || c == '\\' then
      let sep ← if c == '\\' then next else pure (some c)
      match ← cut sep true with
      | none => fail "unterminated address regex"
      | some text =>
        let (foldsCase, byLine) ← modifiers ((← get).rest.length + 1) false false
        return some (.matching (← regexOf text foldsCase byLine).1 foldsCase)
    else if c.isDigit then
      let n ← numberFrom (some c)
      match ← nextFilled with
      | some '~' =>
        let step ← numberFrom (← nextFilled)
        return some (if step = 0 then .line n else .steps n step)
      | d =>
        putBack d
        return some (.line n)
    else if c == '+' then return some (.plus (← numberFrom (← nextFilled)))
    else if c == '~' then return some (.multiple (← numberFrom (← nextFilled)))
    else if c == '$' then return some .last
    else return none

/-! ### Commands -/

/-- The end of a command. -/
def endCommand : Read Unit := do
  match ← nextFilled with
  | none | some '\n' | some ';' => pure ()
  | some '\x7d' => putBack (some '\x7d')
  | some '#' => putBack (some '#')
  | some _ => fail "extra characters after command"

/-- The name of a file to the end of the line. -/
def fileName : Read String := do
  let _ ← takeWhile isBlank
  let cs ← takeWhile (· != '\n')
  if cs.isEmpty then fail "missing filename in r/R/w/W commands"
  let _ ← next
  return String.ofList cs

/-- The name of a file that is written. -/
def outputName : Read String := do
  let name ← fileName
  modify fun s => { s with files := s.files ++ [name] }
  return name

/-- A label. -/
def labelName : Read String := do
  let _ ← takeWhile isBlank
  return String.ofList (← takeWhile fun c => !isSpace c && c != ';' && c != '\x7d')

/-- The pieces of a text that replaces a match, `text` being the last one, its last character first. -/
def pieces : Nat → List Char → List Char → List Piece
  | 0, _, _ => []
  | n + 1, text, s =>
    let flush (more : List Piece) : List Piece := if text.isEmpty then more else .text text.reverse :: more
    match s with
    | [] => flush []
    | '&' :: rest => flush (.group 0 :: pieces n [] rest)
    | '\\' :: c :: rest =>
      if c.isDigit then flush (.group (c.toNat - 48) :: pieces n [] rest)
      else if "ULEul".toList.contains c then flush (.case c :: pieces n [] rest)
      else pieces n (c :: text) rest
    | c :: rest => pieces n (c :: text) rest

/-- The flags of a substitution. -/
structure Flags where
  isGlobal : Bool := false
  number : Nat := 0
  runs : Bool := false
  printsBefore : Bool := false
  printsAfter : Bool := false
  foldsCase : Bool := false
  byLine : Bool := false
  file : Option String := none

/-- Reads the flags of a substitution. -/
def flags : Nat → Flags → Read Flags
  | 0, f => return f
  | n + 1, f => do
    match ← next with
    | none | some '\n' | some ';' => return f
    | some 'i' | some 'I' => flags n { f with foldsCase := true }
    | some 'm' | some 'M' => flags n { f with byLine := true }
    | some 'e' => flags n { f with runs := true }
    | some 'p' =>
      if f.printsBefore || f.printsAfter then fail "multiple `p' options to `s' command"
      flags n (if f.runs then { f with printsAfter := true } else { f with printsBefore := true })
    | some 'g' =>
      if f.isGlobal then fail "multiple `g' options to `s' command"
      flags n { f with isGlobal := true }
    | some 'w' => return { f with file := some (← outputName) }
    | some '\x7d' =>
      putBack (some '\x7d')
      return f
    | some '#' =>
      putBack (some '#')
      return f
    | some ' ' | some '\t' => flags n f
    | some '\r' =>
      match ← next with
      | some '\n' => return f
      | _ => fail "unknown option to `s'"
    | some c =>
      if c.isDigit then
        if f.number ≠ 0 then fail "multiple number options to `s' command"
        let k ← numberFrom (some c)
        if k = 0 then fail "number option to `s' command may not be zero"
        flags n { f with number := k }
      else fail "unknown option to `s'"

/-- A substitution after its letter. -/
def substitution : Read Action := do
  let sep ← next
  match ← cut sep true with
  | none => fail "unterminated `s' command"
  | some old =>
    match ← cut sep false with
    | none => fail "unterminated `s' command"
    | some new =>
      let new ← unescaped .replacement new
      let ps := pieces (new.length + 1) [] new
      let f ← flags ((← get).rest.length + 1) {}
      let (regex, groups) ← regexOf old f.foldsCase f.byLine
      let top := ps.foldl (fun n p => match p with
        | .group k => max n k
        | _ => n) 0
      if top > groups then
        fail ("invalid reference \\" ++ toString top ++ " on `s' command's RHS")
      return .substitute {
        regex, pieces := ps, foldsCase := f.foldsCase, isGlobal := f.isGlobal, number := f.number
        runs := f.runs, printsBefore := f.printsBefore, printsAfter := f.printsAfter, file := f.file }

/-- A text of `y` without its backslashes. -/
def withoutBackslashes : List Char → List Char
  | '\\' :: c :: s => c :: withoutBackslashes s
  | c :: s => c :: withoutBackslashes s
  | [] => []

/-- A translation after its letter. -/
def translation : Read Action := do
  let sep ← next
  match ← cut sep false with
  | none => fail "unterminated `y' command"
  | some old =>
    match ← cut sep false with
    | none => fail "unterminated `y' command"
    | some new =>
      let old := withoutBackslashes (← unescaped .plain old)
      let new := withoutBackslashes (← unescaped .plain new)
      if old.length ≠ new.length then fail "strings for `y' command are different lengths"
      endCommand
      return .translate old new

/-- The lines of a text up to one that no backslash continues; none if the script ends before it. -/
def textLines : Nat → List Char → List Char × List Char
  | 0, s => ([], s)
  | _ + 1, [] => ([], [])
  | n + 1, '\\' :: c :: s =>
    let (t, rest) := textLines n s
    ('\\' :: c :: t, rest)
  | _ + 1, '\n' :: s => ([], s)
  | n + 1, c :: s =>
    let (t, rest) := textLines n s
    (c :: t, rest)

/-- A text that is added, its escapes resolved. -/
def addedText (cs : List Char) : String :=
  let cs := (unescape .plain (cs.length + 1) cs).getD cs
  String.ofList (withoutBackslashes (dropLastSlash cs)) ++ "\n"
where
  /-- The text without a backslash that stands at its end for itself. -/
  dropLastSlash (cs : List Char) : List Char :=
    match cs.reverse with
    | '\\' :: more => if more.head? == some '\\' then cs else more.reverse
    | _ => cs

/-- Takes a text that is added. -/
def takeText : Read String := do
  let s ← get
  let (text, rest) := textLines (s.rest.length + 1) s.rest
  let taken := s.rest.length - rest.length
  set { s with
    rest, place := s.place + taken, line := s.line + (s.rest.take taken).count '\n' }
  return addedText text

/-- Takes the text of a command, which `make` turns into its action; the text may stand in the next
piece of the script. -/
def added (make : String → Action) : Read Action := do
  match ← nextFilled with
  | none => fail "expected \\ after `a', `c' or `i'"
  | some '\\' =>
    let rest := (← get).rest
    let blanks := rest.takeWhile isBlank
    match rest.drop blanks.length with
    | '\n' :: _ =>
      let _ ← takeWhile isBlank
      let _ ← next
      if (← get).rest.isEmpty then
        modify fun s => { s with pending := some make }
        return make ""
      return make (← takeText)
    | [] =>
      let _ ← takeWhile isBlank
      modify fun s => { s with pending := some make }
      return make ""
    | _ => return make (← takeText)
  | c =>
    putBack c
    return make (← takeText)

/-- Whether a version is one after 4.9, or is none. -/
def isNewer (version : String) : Bool :=
  match (version.splitOn ".").mapM String.toNat? with
  | some (4 :: minor :: rest) => minor > 9 || (minor = 9 && rest.any (· > 0))
  | some [4] => false
  | some (major :: _) => major > 4
  | _ => true

/-- The action of a command by its letter; none for a comment, which is passed over. -/
def action (letter : Option Char) (hasAddress hasRange : Bool) : Read (Option Action) := do
  match letter with
  | none => fail "missing command"
  | some '#' =>
    if hasAddress then fail "comments don't accept any addresses"
    let s ← get
    if s.isFirst && s.place = 1 && (s.rest == ['n'] || "n\n".toList.isPrefixOf s.rest) then
      modify fun s => { s with quiet := true }
    let _ ← takeWhile (· != '\n')
    return none
  | some 'v' =>
    let name ← labelName
    if name ≠ "" && isNewer name then fail "expected newer version of sed"
    endCommand
    return none
  | some '\x7b' => return some (.block 0)
  | some '\x7d' =>
    if (← get).opened.isEmpty then fail "unexpected `\x7d'"
    if hasAddress then fail "\x7d doesn't want any addresses"
    endCommand
    return some .close
  | some 'e' =>
    match ← nextFilled with
    | none | some '\n' => return some (.execute none)
    | c =>
      putBack c
      return some (.execute (some (← takeText)))
  | some 'a' => return some (← added .append)
  | some 'i' => return some (← added .insert)
  | some 'c' => return some (← added .change)
  | some ':' =>
    if hasAddress then fail ": doesn't want any addresses"
    let name ← labelName
    if name.isEmpty then fail "\":\" lacks a label"
    return some (.label name)
  | some 'b' =>
    let name ← labelName
    endCommand
    return some (.branch 'b' name)
  | some 't' =>
    let name ← labelName
    endCommand
    return some (.branch 't' name)
  | some 'T' =>
    let name ← labelName
    endCommand
    return some (.branch 'T' name)
  | some 'q' =>
    if hasRange then fail "command only uses one address"
    let n ← numberFrom (← nextFilled)
    endCommand
    return some (.quit true n)
  | some 'Q' =>
    if hasRange then fail "command only uses one address"
    let n ← numberFrom (← nextFilled)
    endCommand
    return some (.quit false n)
  | some 'l' =>
    let _ ← takeWhile isBlank
    let ds ← takeWhile Char.isDigit
    endCommand
    return some (.list (if ds.isEmpty then none
      else some (ds.foldl (fun n c => n * 10 + (c.toNat - 48)) 0)))
  | some 'r' => return some (.readFile (← fileName))
  | some 'R' => return some (.readLine (← fileName))
  | some 'w' => return some (.writeFile (← outputName))
  | some 'W' => return some (.writeFirst (← outputName))
  | some 's' => return some (← substitution)
  | some 'y' => return some (← translation)
  | some c =>
    if "dDpPnNgGhHxz=F".toList.contains c then
      endCommand
      return some (.plain c)
    else fail ("unknown command: `" ++ String.singleton c ++ "'")

/-- Adds a command to those that were read. -/
def add (c : Command) : Read Unit := modify fun s =>
  match c.action, s.opened with
  | .block _, _ =>
    { s with found := s.found.push c, opened := ⟨s.found.size, s.faultAt 0 "unmatched `\x7b'"⟩ :: s.opened }
  | .close, o :: opened =>
    let size := s.found.size - o.index
    let found := match s.found[o.index]? with
      | some b => s.found.set! o.index { b with action := .block size }
      | none => s.found
    { s with found := found.push c, opened }
  | _, _ => { s with found := s.found.push c }

/-- A command and all that follow it. -/
def commands : Nat → Read Unit
  | 0 => pure ()
  | n + 1 => do
    let _ ← takeWhile fun c => isSpace c || c == ';'
    match ← next with
    | none => pure ()
    | c =>
      let first ← address c
      let (second, c) ← match first with
        | none => pure (none, c)
        | some a =>
          if a matches .plus _ | .multiple _ then fail "invalid usage of +N or ~N as first address"
          match ← nextFilled with
          | some ',' =>
            match ← address (← nextFilled) with
            | none => fail "unexpected `,'"
            | some b => pure (some b, ← nextFilled)
          | c => pure (none, c)
      let isZero : Bool := match first, second with
        | some (.line 0), some (.matching ..) => false
        | some (.line 0), none => c != some 'r'
        | some (.line 0), _ => true
        | _, _ => false
      if isZero then fail "invalid usage of line address 0"
      let (negated, c) ← match c with
        | some '!' =>
          let c ← nextFilled
          if c == some '!' then fail "multiple `!'s"
          pure (true, c)
        | c => pure (false, c)
      match ← action c first.isSome second.isSome with
      | some a => add { first, second, negated, action := a }
      | none => pure ()
      commands n

/-- Puts the text that a command waits for into its place. -/
def fill (make : String → Action) : Read Unit := do
  let text ← takeText
  modify fun s =>
    match s.found.back? with
    | some c => { s with found := s.found.pop.push { c with action := make text }, pending := none }
    | none => { s with pending := none }

/-- A piece of a script after those before it. -/
def piece (source : Source) : Read Unit := do
  let text := match source with
    | .argument text => text
    | .file _ text => text
  modify fun s => { s with
    rest := text.toList, place := 0, line := 1
    file := match source with
      | .argument _ => none
      | .file name _ => some name
    argument := match source with
      | .argument _ => s.argument + 1
      | .file .. => s.argument }
  match (← get).pending with
  | some make => fill make
  | none => pure ()
  commands (text.length + 1)
  modify fun s => { s with isFirst := false }

/-- The label that a script goes on at and does not have. -/
def missingLabel? (cs : Array Command) : Option String :=
  cs.findSome? fun c => match c.action with
    | .branch _ label =>
      if label = "" ∨ cs.any (fun d => match d.action with
        | .label name => name == label
        | _ => false) then none else some label
    | _ => none

/-- A script that was read. -/
structure Parsed where
  commands : Array Command
  /-- Whether it turns the output off. -/
  quiet : Bool
  files : List String
  /-- What is said where an expression is to be used again and there is none. -/
  noRegex : String

/-- The script of some pieces. -/
def parse (extended : Bool) (sources : List Source) : Except Fault Parsed :=
  match (sources.forM piece).run { extended } with
  | .error e => .error e
  | .ok (_, s) =>
    match s.opened with
    | o :: _ => .error { message := o.place, files := s.files }
    | [] =>
      match missingLabel? s.found with
      | some label =>
        .error { message := "can't find label for jump to `" ++ label ++ "'", files := s.files, status := 4 }
      | none =>
        .ok { commands := s.found, quiet := s.quiet, files := s.files
              noRegex := s.faultAt 0 "no previous regular expression" }

end ClassLens.Tool.Edit
