import ClassLens.Shell.Command

/-! # Reading scripts

A script is read line by line: a line is read to its end, with all that compound commands and
here-documents need of the lines after it, and run before the next one is read.

* `Reader`: what is left of a script.
* `Token`: the words and operators of a script, as the reader meets them.
* `readLine`: the command of the next line.

The extended language has more words, operators and commands; its faults name the sign that was not expected,
and show its line. -/

namespace ClassLens.Shell

/-- Why a script cannot be read, and in which line. -/
structure ScriptFault where
  line : Nat
  message : String
  /-- What else is told, with its lines. -/
  more : List (Nat × String) := []
  status : Nat := 2

/-- A here-document that the reader has yet to come to. -/
structure Awaited where
  number : Nat
  /-- The line of its sign. -/
  line : Nat
  /-- Whether tabs at the start of its lines do not count. -/
  stripsTabs : Bool
  delimiter : List Char
  /-- Whether its text is taken as it is. -/
  isQuoted : Bool

/-- What is left of a script. -/
structure Reader where
  rest : List Char
  line : Nat := 1
  awaited : List Awaited := []
  documents : List (Nat × Word) := []
  nextDocument : Nat := 0
  dialect : Dialect := .plain
  /-- Whether patterns may have alternatives in parentheses. -/
  hasGroups : Bool := false
  /-- The text from the start of the line in work on. -/
  lineStart : List Char := []
  /-- The text from the last token on, and from its line on, and the number of that line. -/
  tokenStart : List Char := []
  tokenLineStart : List Char := []
  tokenLine : Nat := 1
  /-- Characters that end a word in braces. -/
  stops : List Char := []
  /-- Whether one of them has ended the last one. -/
  hasStopped : Bool := false
  /-- How many substitutions the reader is in. -/
  depth : Nat := 0
  /-- Here-documents that the end of the script ends, with the lines of their signs. -/
  openDocuments : List (Nat × String) := []
  /-- The names that stand for other texts where a command may start. -/
  aliases : List (String × String) := []
  /-- The texts of such names that are in the script now: each with the name, with how much of the script follows
  it, and with whether it ends in a blank. -/
  spliced : List (String × Nat × Bool) := []

/-- Something that is read. -/
abbrev Read := StateT Reader (Except ScriptFault)

/-- A word or an operator. -/
inductive Token where
  | finish
  | newline
  | sign (text : String)
  | word (word : Word)
  | redirect (fd : Option Nat) (text : String)

namespace Read

/-- Refuses the script. -/
def fail {α : Type} (message : String) : Read α := do
  throw { line := (← get).line, message := "Syntax error: " ++ message }

/-- Whether the script is one of the extended language. -/
def isExtended : Read Bool := return (← get).dialect = .extended

/-- The line in which the last token stands. -/
def shownLine : Read (Nat × String) := do
  let r ← get
  return (r.tokenLine, "\x60" ++ String.ofList (r.tokenLineStart.takeWhile (· != '\n')) ++ "'")

/-- Refuses the script of the extended language at the last token, which is shown with its line. -/
def failNear {α : Type} (messages : List String) : Read α := do
  let shown ← shownLine
  let status := if (← get).depth > 0 then 127 else 2
  let more := (messages.tail.map fun m => (shown.1, m)) ++ [shown]
  throw { line := shown.1, message := messages.headD "", more, status }

/-- The text of the last token. -/
def tokenText : Read String := do
  let r ← get
  return String.ofList (r.tokenStart.take (r.tokenStart.length - r.rest.length))

/-- Refuses a script that ends before a closing mark. -/
def failOpen {α : Type} (mark : Char) (line : Nat) (plain : String) : Read α := do
  if ← isExtended then
    throw { line, message := "unexpected EOF while looking for matching \x60" ++ String.singleton mark ++ "'" }
  else fail plain

/-- The next character. -/
def peek : Read (Option Char) := return (← get).rest.head?

/-- Passes over some characters. -/
def skip (n : Nat) : Read Unit := modify fun r =>
  let taken := r.rest.take n
  let breaks := taken.count '\n'
  let lineStart := if breaks = 0 then r.lineStart
    else r.rest.drop (taken.length - (taken.reverse.takeWhile (· != '\n')).length)
  { r with rest := r.rest.drop n, line := r.line + breaks, lineStart }

/-- Takes the next characters that have a property. -/
def takeWhile (p : Char → Bool) : Read (List Char) := do
  let cs := (← get).rest.takeWhile p
  skip cs.length
  return cs

/-- Whether certain characters come next, which are passed over then. -/
def tryText (s : String) : Read Bool := do
  if s.toList.isPrefixOf (← get).rest then
    skip s.length
    return true
  return false

/-- Passes over line breaks after a backslash. -/
def skipJoints : Nat → Read Unit
  | 0 => pure ()
  | n + 1 => do
    if ← tryText "\\\n" then skipJoints n

/-- Passes over blanks and comments. -/
def skipBlanks : Nat → Read Unit
  | 0 => pure ()
  | n + 1 => do
    match (← get).rest with
    | ' ' :: _ | '\t' :: _ =>
      skip 1
      skipBlanks n
    | '\\' :: '\n' :: _ =>
      skip 2
      skipBlanks n
    | '#' :: _ => let _ ← takeWhile (· != '\n')
    | _ => pure ()

end Read

open Read

/-- A character that a name may start with. -/
def isNameStart (c : Char) : Bool := c.isAlpha || c == '_'

/-- A character of a name. -/
def isNameChar (c : Char) : Bool := c.isAlphanum || c == '_'

/-- Whether a text is the name of a variable. -/
def isName (s : List Char) : Bool :=
  match s with
  | c :: cs => isNameStart c && cs.all isNameChar
  | [] => false

/-- A character that names a parameter of its own. -/
def isSpecial (c : Char) : Bool :=
  c == '@' || c == '*' || c == '#' || c == '?' || c == '-' || c == '$' || c == '!'

/-- A character that ends a word. -/
def endsWord (c : Char) : Bool :=
  c == ' ' || c == '\t' || c == '\n' || c == ';' || c == '&' || c == '|' || c == '<' || c == '>' ||
    c == '(' || c == ')'

/-- The words that stand for themselves where a command may start. -/
def keywords : List String :=
  ["!", "case", "do", "done", "elif", "else", "esac", "fi", "for", "if", "in", "then", "until",
    "while", "\x7b", "\x7d"]

/-- The builtin commands that a function must not be named like. -/
def specialBuiltins : List String :=
  ["break", ":", ".", "continue", "eval", "exec", "exit", "export", "readonly", "return", "set",
    "shift", "times", "trap", "unset"]

/-- The keyword that a word is. -/
def keyword? : Word → Option String
  | [.plain s] => if keywords.contains s then some s else none
  | _ => none

/-- A token as a fault names it. -/
def Token.text (known : Bool) : Token → String
  | .finish => "end of file"
  | .newline => "newline"
  | .sign s => "\"" ++ s ++ "\""
  | .redirect _ _ => "redirection"
  | .word w =>
    match keyword? w with
    | some k => if known then "\"" ++ k ++ "\"" else "word"
    | none => "word"

/-- Refuses a token, naming the one that was wanted. -/
def unexpected {α : Type} (t : Token) (wanted : Option String) (known : Bool := true) : Read α := do
  if ← isExtended then
    let r ← get
    match t with
    | .finish =>
      if r.depth > 0 then failOpen ')' r.line ""
      throw { line := r.line, message := "syntax error: unexpected end of file" }
    | .newline => failNear ["syntax error near unexpected token \x60newline'"]
    | _ => failNear ["syntax error near unexpected token \x60" ++ (← tokenText) ++ "'"]
  else
    let tail := match wanted with
      | some w => " (expecting " ++ w ++ ")"
      | none => ""
    fail (t.text known ++ " unexpected" ++ tail)

/-- The characters of a word with their quotes resolved, and whether there were any. -/
def plainText : Word → List Char × Bool
  | [] => ([], false)
  | p :: ps =>
    let (rest, q) := plainText ps
    match p with
    | .plain s => (s.toList ++ rest, q)
    | .quoted s => (s.toList ++ rest, true)
    | .double inner =>
      (inner.flatMap (fun
        | .plain s | .quoted s => s.toList
        | .parameter name _ => '$' :: name.toList
        | _ => []) ++ rest, true)
    | .parameter name _ => ('$' :: name.toList ++ rest, q)
    | _ => (rest, q)

/-- Puts a part before those that were read earlier, the last one first; characters of one kind are
joined. -/
def addPart (p : Part) : List Part → List Part
  | q :: ps =>
    match p, q with
    | .plain s, .plain t => .plain (t ++ s) :: ps
    | .quoted s, .quoted t => .quoted (t ++ s) :: ps
    | p, q => p :: q :: ps
  | [] => [p]

/-- The text between backquotes, and what follows it. -/
def backquoted (inDouble : Bool) : List Char → Option (List Char × List Char)
  | [] => none
  | '`' :: s => some ([], s)
  | '\\' :: c :: s =>
    let kept := if c = '`' ∨ c = '\\' ∨ c = '$' ∨ (inDouble ∧ c = '"') then [c] else ['\\', c]
    (backquoted inDouble s).map fun (t, s) => (kept ++ t, s)
  | c :: s => (backquoted inDouble s).map fun (t, s) => (c :: t, s)

/-- The lines of a here-document up to its delimiter, and what follows. -/
def documentLines (a : Awaited) : Nat → List Char → List Char × List Char
  | 0, s => ([], s)
  | n + 1, s =>
    let line := s.takeWhile (· != '\n')
    let after := s.dropWhile (· != '\n')
    let shown := if a.stripsTabs then line.dropWhile (· == '\t') else line
    if shown = a.delimiter then ([], after.drop 1)
    else
      match after with
      | [] => (shown, [])
      | _ :: after =>
        let (more, rest) := documentLines a n after
        (shown ++ '\n' :: more, rest)

/-- A sign that starts a redirection, at the start of a text. -/
def redirectSign? (d : Dialect) (s : List Char) : Option String :=
  let more := if d = .extended then ["<<<", "&>>", "&>"] else []
  match d, s with
  | .extended, '<' :: '(' :: _ | .extended, '>' :: '(' :: _ => none
  | _, _ => (more ++ ["<<-", "<<", "<&", "<>", "<", ">>", ">&", ">|", ">"]).find? fun t => t.toList.isPrefixOf s

/-- The name and the rest of a word that assigns. -/
def assignment? : Word → Option (String × Word)
  | .plain s :: ps =>
    let cs := s.toList
    let name := cs.takeWhile (· != '=')
    match cs.dropWhile (· != '=') with
    | _ :: value =>
      if isName name then
        some (String.ofList name, if value = [] then ps else .plain (String.ofList value) :: ps)
      else none
    | [] => none
  | _ => none

/-- Signs that end a list of commands. -/
def endsList (t : Token) : Bool :=
  match t with
  | .finish => true
  | .sign s => s == ")" || s == ";;" || s == ";&" || s == ";;&"
  | .word w =>
    match keyword? w with
    | some k => ["do", "done", "elif", "else", "esac", "fi", "then", "\x7d"].contains k
    | none => false
  | _ => false

/-- A character with its escape in quotes after a dollar sign, and what follows it. -/
def escaped : List Char → List Char × List Char
  | 'n' :: s => (['\n'], s)
  | 't' :: s => (['\t'], s)
  | 'r' :: s => (['\r'], s)
  | 'a' :: s => (['\x07'], s)
  | 'b' :: s => (['\x08'], s)
  | 'e' :: s | 'E' :: s => (['\x1b'], s)
  | 'f' :: s => (['\x0c'], s)
  | 'v' :: s => (['\x0b'], s)
  | 'c' :: c :: s => ([Char.ofNat (c.toUpper.toNat % 32)], s)
  | 'x' :: s =>
    let ds := (s.take 2).takeWhile isHex
    if ds.isEmpty then (['\\', 'x'], s) else ([Char.ofNat (digitsValue 16 ds % 256)], s.drop ds.length)
  | 'u' :: s => wide 'u' 4 s
  | 'U' :: s => wide 'U' 8 s
  | c :: s =>
    if '0' ≤ c ∧ c ≤ '7' then
      let ds := ((c :: s).take 3).takeWhile fun c => '0' ≤ c && c ≤ '7'
      ([Char.ofNat (digitsValue 8 ds % 256)], (c :: s).drop ds.length)
    else if c == '\\' || c == '\'' || c == '"' || c == '?' then ([c], s)
    else (['\\', c], s)
  | [] => (['\\'], [])
where
  /-- A digit of base sixteen. -/
  isHex (c : Char) : Bool := c.isDigit || ('a' ≤ c && c ≤ 'f') || ('A' ≤ c && c ≤ 'F')
  /-- The value of digits. -/
  digitsValue (base : Nat) (ds : List Char) : Nat :=
    ds.foldl (fun n c =>
      n * base + (if c.isDigit then c.toNat - 48 else if c ≤ 'F' then c.toNat - 55 else c.toNat - 87)) 0
  /-- A character by its number, in bytes. -/
  wide (mark : Char) (most : Nat) (s : List Char) : List Char × List Char :=
    let ds := (s.take most).takeWhile isHex
    if ds.isEmpty then (['\\', mark], s)
    else ((ofText (String.singleton (Char.ofNat (digitsValue 16 ds)))).toList, s.drop ds.length)

/-- The text of quotes after a dollar sign, and what follows them. -/
def escapedText : Nat → List Char → Option (List Char × List Char)
  | 0, _ => none
  | _ + 1, [] => none
  | n + 1, '\'' :: s => if n = 0 then none else some ([], s)
  | n + 1, '\\' :: s =>
    let (cs, s) := escaped s
    (escapedText n s).map fun (t, s) => (cs ++ t, s)
  | n + 1, c :: s => (escapedText n s).map fun (t, s) => (c :: t, s)

/-- The characters up to the bracket that closes a subscript, quotes with all that they hold. -/
def subscriptText : Nat → Nat → List Char → Option (List Char × List Char)
  | 0, _, _ => none
  | _ + 1, _, [] => none
  | n + 1, depth, c :: s =>
    let go (depth : Nat) (taken : List Char) (s : List Char) : Option (List Char × List Char) :=
      (subscriptText n depth s).map fun (t, s) => (taken ++ t, s)
    match c, s with
    | ']', s => if depth = 0 then some ([], s) else go (depth - 1) [']'] s
    | '[', s => go (depth + 1) ['['] s
    | '\\', d :: s => go depth ['\\', d] s
    | '\'', s =>
      let text := s.takeWhile (· != '\'')
      go depth ('\'' :: text ++ ['\'']) (s.drop (text.length + 1))
    | '"', s =>
      let text := s.takeWhile (· != '"')
      go depth ('"' :: text ++ ['"']) (s.drop (text.length + 1))
    | c, s => go depth [c] s

/-- Whether the parenthesis that closes the characters after two of them has another one after it. -/
def closesTwice : Nat → Nat → List Char → Bool
  | 0, _, _ => true
  | _ + 1, _, [] => true
  | n + 1, depth, c :: s =>
    match c, s with
    | '\\', _ :: s => closesTwice n depth s
    | '\'', s => closesTwice n depth ((s.dropWhile (· != '\'')).drop 1)
    | '"', s => closesTwice n depth ((s.dropWhile (· != '"')).drop 1)
    | '(', s => closesTwice n (depth + 1) s
    | ')', s => if depth = 0 then s.head? == some ')' else closesTwice n (depth - 1) s
    | _, s => closesTwice n depth s

/-- How a text starts that gives a variable a value: its name, whether a subscript follows that, and whether
the value is added. -/
def assignmentShape? (s : List Char) : Option (List Char × Bool × Bool) :=
  let name := s.takeWhile isNameChar
  if !isName name then none
  else
    match s.drop name.length with
    | '=' :: _ => some (name, false, false)
    | '+' :: '=' :: _ => some (name, false, true)
    | '[' :: rest =>
      match subscriptText (rest.length + 1) 0 rest with
      | some (_, '=' :: _) => some (name, true, false)
      | some (_, '+' :: '=' :: _) => some (name, true, true)
      | _ => none
    | _ => none

/-- The commands whose arguments may set variables. -/
def declarers : List String := ["declare", "typeset", "local", "export", "readonly"]

/-- The parts between semicolons. -/
def splitAtSemicolons : List Part → List Word
  | [] => [[]]
  | p :: ps =>
    let rest := splitAtSemicolons ps
    match p with
    | .plain s =>
      match (s.splitOn ";").reverse with
      | [] => rest
      | last :: before =>
        (before.reverse.map fun t => [Part.plain t]) ++ ((.plain last :: rest.headD []) :: rest.tail)
    | p => (p :: rest.headD []) :: rest.tail

/-- The operators of conditions that stand before one word. -/
def unaryTests : List String :=
  ["-a", "-b", "-c", "-d", "-e", "-f", "-g", "-h", "-k", "-n", "-o", "-p", "-r", "-s", "-t", "-u", "-v", "-w",
    "-x", "-z", "-G", "-L", "-N", "-O", "-R", "-S"]

/-- The operators of conditions that stand between two words. -/
def binaryTests : List String :=
  ["=", "==", "!=", "<", ">", "-eq", "-ne", "-lt", "-le", "-gt", "-ge", "-nt", "-ot", "-ef"]

/-- A command that runs beside the script. -/
def Command.aside (c : Command) : Command := .background c

/-- One redirection with its descriptor and its target. -/
def redirectOf (sign : String) (fd : Option Nat) (target : Word) : Redirect :=
  match sign with
  | "<<<" => .line (fd.getD 0) target
  | "&>" => .outputs false target
  | "&>>" => .outputs true target
  | "<" => .input (fd.getD 0) target
  | "<>" => .both (fd.getD 0) target
  | "<&" => .copy (fd.getD 0) target
  | ">&" => .copy (fd.getD 1) target
  | ">>" => .append (fd.getD 1) target
  | _ => .output (sign = ">|") (fd.getD 1) target

set_option maxHeartbeats 400000 in
mutual

/-- The parts of a word, the last one first, `parts` being those that were read before. In double
quotes only a few characters are special; a brace ends a word that stands in braces. -/
def readParts (fuel : Nat) (inDouble inBraces : Bool) (parts : List Part) : Read (List Part) :=
  match fuel with
  | 0 => fail "word too long"
  | fuel + 1 => do
    let again (p : Part) : Read (List Part) := readParts fuel inDouble inBraces (addPart p parts)
    let r ← get
    match r.rest with
    | [] => if inDouble then failOpen '"' r.tokenLine "Unterminated quoted string"
            else if inBraces then failOpen '\x7d' r.tokenLine "Missing '\x7d'" else return parts
    | '\\' :: '\n' :: _ =>
      skip 2
      readParts fuel inDouble inBraces parts
    | '\\' :: c :: _ =>
      skip 2
      if inDouble && !(c == '"' || c == '\\' || c == '$' || c == '`' || (inBraces && c == '\x7d')) then
        again (.quoted (String.ofList ['\\', c]))
      else again (.quoted (String.ofList [c]))
    | ['\\'] =>
      skip 1
      again (.quoted "\\")
    | '$' :: '\'' :: s =>
      skip 1
      if r.dialect = .extended ∧ !inDouble then
        match escapedText (s.length + 1) s with
        | some (text, after) =>
          skip (1 + (s.length - after.length))
          again (.quoted (String.ofList text))
        | none => failOpen '\'' r.tokenLine ""
      else
        let p ← readDollar fuel inDouble
        again p
    | '$' :: '"' :: _ =>
      skip 1
      if r.dialect = .extended ∧ !inDouble then readParts fuel inDouble inBraces parts
      else
        let p ← readDollar fuel inDouble
        again p
    | '$' :: _ =>
      skip 1
      let p ← readDollar fuel inDouble
      again p
    | '`' :: _ =>
      skip 1
      let p ← readBackquote fuel inDouble
      again p
    | '"' :: _ =>
      skip 1
      if inDouble then
        if inBraces then
          let inner ← readParts fuel true false []
          again (.double inner.reverse)
        else return parts
      else
        let inner ← readParts fuel true false []
        again (.double inner.reverse)
    | c :: s =>
      if inBraces && r.stops.contains c then
        set { r with hasStopped := true }
        return parts
      else if inBraces && c == '\x7d' then
        skip 1
        modify fun r => { r with hasStopped := false }
        return parts
      else if c == '\'' && !inDouble then
        skip 1
        let text ← takeWhile (· != '\'')
        if (← get).rest.isEmpty then failOpen '\'' r.tokenLine "Unterminated quoted string"
        skip 1
        again (.quoted (String.ofList text))
      else if !inDouble && !inBraces && (c == '<' || c == '>') && s.head? == some '(' && r.dialect = .extended then
        skip 2
        let lines ← readInner fuel
        again (.process (c == '<') lines)
      else if !inDouble && r.hasGroups && "?*+@!".toList.contains c && s.head? == some '(' then
        skip 2
        let inner ← readGroup fuel 0 [.plain (String.ofList [c, '('])]
        readParts fuel inDouble inBraces (inner.foldr addPart parts)
      else if !inDouble && !inBraces && endsWord c then return parts
      else
        let mayGroup := r.hasGroups && !inDouble
        let run := s.takeWhile fun d =>
          !(endsWord d || d == '\\' || d == '$' || d == '`' || d == '"' || d == '\'' || d == '\x7d' ||
            (mayGroup && "?*+@!".toList.contains d) || (inBraces && r.stops.contains d))
        skip (run.length + 1)
        again (.plain (String.ofList (c :: run)))
termination_by structural fuel

/-- The commands of a substitution up to the parenthesis that closes it. -/
def readInner (fuel : Nat) : Read (List Program) :=
  match fuel with
  | 0 => fail "word too long"
  | fuel + 1 => do
    modify fun r => { r with depth := r.depth + 1 }
    let body ← readList fuel 2
    let t ← readToken fuel true
    match t with
    | .sign ")" =>
      modify fun r => { r with depth := r.depth - 1 }
      return [.mk body []]
    | t => unexpected t (some "\")\"")
termination_by structural fuel

/-- The alternatives of a group up to the parenthesis that closes it, after those that were read before. -/
def readGroup (fuel depth : Nat) (parts : List Part) : Read (List Part) :=
  match fuel with
  | 0 => fail "word too long"
  | fuel + 1 => do
    let r ← get
    match r.rest with
    | [] => failOpen ')' r.tokenLine ""
    | ')' :: _ =>
      skip 1
      let parts := addPart (.plain ")") parts
      if depth = 0 then return parts else readGroup fuel (depth - 1) parts
    | '(' :: _ =>
      skip 1
      readGroup fuel (depth + 1) (addPart (.plain "(") parts)
    | c :: _ =>
      if endsWord c then
        skip 1
        readGroup fuel depth (addPart (.plain (String.singleton c)) parts)
      else
        set { r with hasGroups := false }
        let more ← readParts fuel false false []
        modify fun t => { t with hasGroups := true }
        readGroup fuel depth (more.foldr addPart parts)
termination_by structural fuel

/-- What follows a dollar sign. -/
def readDollar (fuel : Nat) (inDouble : Bool) : Read Part :=
  match fuel with
  | 0 => fail "word too long"
  | fuel + 1 => do
    skipJoints fuel
    let stops := (← get).stops
    let groups := (← get).hasGroups
    modify fun r => { r with stops := [], hasGroups := false }
    let p ← readExpansion fuel inDouble
    modify fun r => { r with stops, hasGroups := groups }
    return p
termination_by structural fuel

/-- What follows a dollar sign and line breaks that do not count. -/
def readExpansion (fuel : Nat) (inDouble : Bool) : Read Part :=
  match fuel with
  | 0 => fail "word too long"
  | fuel + 1 => do
    let r ← get
    match r.rest with
    | '(' :: '(' :: s =>
      if r.dialect = .extended && !closesTwice (s.length + 1) 0 s then
        skip 1
        return .substitution (← readInner fuel)
      skip 2
      let parts ← readArithmetic fuel 0 []
      return .arithmetic parts.reverse
    | '(' :: _ =>
      skip 1
      if r.dialect = .extended then return .substitution (← readInner fuel)
      let body ← readList fuel 2
      let t ← readToken fuel true
      match t with
      | .sign ")" => return .substitution [.mk body []]
      | t => unexpected t (some "\")\"")
    | '\x7b' :: s =>
      skip 1
      if r.dialect = .extended then
        match s with
        | [] => failOpen '\x7d' r.tokenLine ""
        | _ => readElement fuel inDouble
      else readBraces fuel inDouble
    | '[' :: s =>
      if r.dialect = .extended then
        match subscriptText (s.length + 1) 0 s with
        | some (text, after) =>
          skip (1 + s.length - after.length)
          return .arithmetic [.plain (String.ofList text)]
        | none => failOpen ']' r.tokenLine ""
      else return .plain "$"
    | c :: _ =>
      if isNameStart c then
        let name ← takeWhile isNameChar
        return .parameter (String.ofList name) .value
      else if c.isDigit || isSpecial c then
        skip 1
        return .parameter (String.ofList [c]) .value
      else return .plain "$"
    | [] => return .plain "$"
termination_by structural fuel

/-- A parameter in braces, after the opening one. -/
def readBraces (fuel : Nat) (inDouble : Bool) : Read Part :=
  match fuel with
  | 0 => fail "word too long"
  | fuel + 1 => do
    let nameOf : Read (List Char) := do
      match (← get).rest with
      | c :: _ =>
        if isNameStart c then takeWhile isNameChar
        else if c.isDigit then takeWhile Char.isDigit
        else if isSpecial c then
          skip 1
          return [c]
        else return []
      | [] => return []
    let close (p : Part) : Read Part := do
      if ← tryText "\x7d" then return p
      let _ ← readParts fuel inDouble true []
      return .parameter "" .bad
    match (← get).rest with
    | '#' :: c :: _ =>
      if c == '\x7d' then
        skip 2
        return .parameter "#" .value
      else if isNameStart c || c.isDigit || c == '@' || c == '*' || c == '?' || c == '$' || c == '!'
          || ((c == '#' || c == '-') && (← get).rest[2]? == some '\x7d') then
        skip 1
        let name ← nameOf
        close (.parameter (String.ofList name) .length)
      else
        skip 1
        readForm fuel inDouble "#"
    | _ =>
      let name ← nameOf
      if name.isEmpty then close (.parameter "" .bad)
      else readForm fuel inDouble (String.ofList name)
termination_by structural fuel

/-- The parts of a text in which only quotes, backslashes and dollar signs are special, the last one first. -/
def readLoose (fuel : Nat) (parts : List Part) : Read (List Part) :=
  match fuel with
  | 0 => fail "word too long"
  | fuel + 1 => do
    let r ← get
    match r.rest with
    | [] => return parts
    | c :: s =>
      if c == '\\' || c == '$' || c == '"' || c == '\'' || c.toNat == 96 then
        let more ← readParts fuel false false []
        readLoose fuel (more.foldr addPart parts)
      else
        let run := s.takeWhile fun d => !(d == '\\' || d == '$' || d == '"' || d == '\'' || d.toNat == 96)
        skip (run.length + 1)
        readLoose fuel (addPart (.plain (String.ofList (c :: run))) parts)
termination_by structural fuel

/-- The parts of a text that was cut out. -/
def readApart (fuel : Nat) (text : List Char) : Read Word :=
  match fuel with
  | 0 => fail "word too long"
  | fuel + 1 => do
    let r ← get
    set { r with rest := text, stops := [], hasGroups := false, spliced := [] }
    let parts ← readLoose fuel []
    set { r with nextDocument := (← get).nextDocument }
    return parts.reverse
termination_by structural fuel

/-- A parameter of the extended language in braces, after the opening one. -/
def readElement (fuel : Nat) (inDouble : Bool) : Read Part :=
  match fuel with
  | 0 => fail "word too long"
  | fuel + 1 => do
    let start := (← get).rest
    let bad : Read Part := do
      let _ ← readParts fuel inDouble true []
      let text := start.take (start.length - (← get).rest.length)
      return .parameter ("$\x7b" ++ String.ofList text) .bad
    let nameOf : Read (List Char) := do
      match (← get).rest with
      | c :: _ =>
        if isNameStart c then takeWhile isNameChar
        else if c.isDigit then takeWhile Char.isDigit
        else if isSpecial c then
          skip 1
          return [c]
        else return []
      | [] => return []
    let indexOf (name : List Char) : Read (Option Word) := do
      match isName name, (← get).rest with
      | true, '[' :: rest =>
        match subscriptText (rest.length + 1) 0 rest with
        | some (text, after) =>
          let index ← readApart fuel text
          skip (1 + rest.length - after.length)
          return some index
        | none => return none
      | _, _ => return none
    match start with
    | '#' :: '\x7d' :: _ =>
      skip 2
      return .parameter "#" .value
    | '#' :: c :: more =>
      let counts := isNameStart c || c.isDigit || c == '@' || c == '*' ||
        ((c == '?' || c == '$' || c == '!' || c == '#' || c == '-') && more.head? == some '\x7d')
      if counts then
        skip 1
        let name ← nameOf
        let index ← indexOf name
        if ← tryText "\x7d" then
          return match index with
            | none => .parameter (String.ofList name) .length
            | index => .element false (String.ofList name) index .length
        else bad
      else
        skip 1
        finishElement fuel inDouble false "#" none start
    | '!' :: c :: _ =>
      if isNameStart c || c.isDigit || c == '@' || c == '*' || c == '#' || c == '?' then
        skip 1
        let name ← nameOf
        match (← get).rest with
        | '*' :: '\x7d' :: _ =>
          skip 2
          return .element true (String.ofList name) none (.names false)
        | '@' :: '\x7d' :: _ =>
          skip 2
          return .element true (String.ofList name) none (.names true)
        | '[' :: '@' :: ']' :: '\x7d' :: _ =>
          skip 4
          return .element true (String.ofList name) none (.keys true)
        | '[' :: '*' :: ']' :: '\x7d' :: _ =>
          skip 4
          return .element true (String.ofList name) none (.keys false)
        | _ =>
          let index ← indexOf name
          finishElement fuel inDouble true (String.ofList name) index start
      else
        skip 1
        finishElement fuel inDouble false "!" none start
    | _ =>
      let name ← nameOf
      if name.isEmpty then bad
      else
        let index ← indexOf name
        finishElement fuel inDouble false (String.ofList name) index start
termination_by structural fuel

/-- What follows the name and the subscript of a parameter of the extended language, whose text starts at
a place. -/
def finishElement (fuel : Nat) (inDouble indirect : Bool) (name : String) (index : Option Word)
    (start : List Char) : Read Part :=
  match fuel with
  | 0 => fail "word too long"
  | fuel + 1 => do
    let word (quotes : Bool) : Read Word := return (← readParts fuel quotes true []).reverse
    let upTo (stops : List Char) : Read Word := do
      modify fun r => { r with stops }
      let parts ← readParts fuel false true []
      modify fun r => { r with stops := [] }
      return parts.reverse
    let give (form : Form) : Read Part :=
      return if indirect || index.isSome then .element indirect name index form else .parameter name form
    if ← tryText "\x7d" then return ← give .value
    let mark ← tryText ":"
    if ← tryText "-" then return ← give (.orElse mark (← word inDouble))
    if ← tryText "=" then return ← give (.assign mark (← word inDouble))
    if ← tryText "?" then return ← give (.require mark (← word inDouble))
    if ← tryText "+" then return ← give (.instead mark (← word inDouble))
    if mark then
      let offset ← upTo [':']
      if (← get).hasStopped then
        skip 1
        return ← give (.slice offset (some (← word inDouble)))
      return ← give (.slice offset none)
    if ← tryText "%%" then return ← give (.strip true true (← word false))
    if ← tryText "%" then return ← give (.strip true false (← word false))
    if ← tryText "##" then return ← give (.strip false true (← word false))
    if ← tryText "#" then return ← give (.strip false false (← word false))
    if ← tryText "^^" then return ← give (.letters (some true) true (← word false))
    if ← tryText "^" then return ← give (.letters (some true) false (← word false))
    if ← tryText ",," then return ← give (.letters (some false) true (← word false))
    if ← tryText "," then return ← give (.letters (some false) false (← word false))
    if ← tryText "~~" then return ← give (.letters none true (← word false))
    if ← tryText "~" then return ← give (.letters none false (← word false))
    if ← tryText "/" then
      let site : Site ←
        if ← tryText "/" then pure .everywhere
        else if ← tryText "#" then pure .start
        else if ← tryText "%" then pure .finish
        else pure .first
      let first := (← get).rest.head?
      let lead : List Part ← if site = .everywhere && first == some '/' then
          skip 1
          pure [.plain "/"]
        else pure []
      let pattern := lead ++ (← upTo ['/'])
      if (← get).hasStopped then
        skip 1
        return ← give (.replace site pattern (← word false))
      return ← give (.replace site pattern [])
    match (← get).rest with
    | '@' :: c :: '\x7d' :: _ =>
      if "QEPAKaukUL".toList.contains c then
        skip 3
        return ← give (.shown c)
    | _ => pure ()
    let _ ← word inDouble
    let text := start.take (start.length - (← get).rest.length)
    return .parameter ("$\x7b" ++ String.ofList text) .bad
termination_by structural fuel

/-- What follows the name of a parameter in braces. -/
def readForm (fuel : Nat) (inDouble : Bool) (name : String) : Read Part :=
  match fuel with
  | 0 => fail "word too long"
  | fuel + 1 => do
    let word (quotes : Bool) : Read Word := return (← readParts fuel quotes true []).reverse
    let mark ← tryText ":"
    if ← tryText "-" then return .parameter name (.orElse mark (← word inDouble))
    if ← tryText "=" then return .parameter name (.assign mark (← word inDouble))
    if ← tryText "?" then return .parameter name (.require mark (← word inDouble))
    if ← tryText "+" then return .parameter name (.instead mark (← word inDouble))
    if mark then
      let _ ← word inDouble
      return .parameter name .bad
    if ← tryText "%%" then return .parameter name (.strip true true (← word false))
    if ← tryText "%" then return .parameter name (.strip true false (← word false))
    if ← tryText "##" then return .parameter name (.strip false true (← word false))
    if ← tryText "#" then return .parameter name (.strip false false (← word false))
    if ← tryText "\x7d" then return .parameter name .value
    let _ ← word inDouble
    return .parameter name .bad
termination_by structural fuel

/-- The inside of an arithmetic expansion, the last part first. -/
def readArithmetic (fuel depth : Nat) (parts : List Part) : Read (List Part) :=
  match fuel with
  | 0 => fail "word too long"
  | fuel + 1 => do
    let r ← get
    match r.rest with
    | [] => failOpen ')' r.tokenLine "Missing '))'"
    | ')' :: ')' :: _ =>
      if depth = 0 then
        skip 2
        return parts
      else
        skip 1
        readArithmetic fuel (depth - 1) (addPart (.plain ")") parts)
    | ')' :: _ =>
      skip 1
      readArithmetic fuel (depth - 1) (addPart (.plain ")") parts)
    | '(' :: _ =>
      skip 1
      readArithmetic fuel (depth + 1) (addPart (.plain "(") parts)
    | '\\' :: '\n' :: _ =>
      skip 2
      readArithmetic fuel depth parts
    | '$' :: _ =>
      skip 1
      let p ← readDollar fuel true
      readArithmetic fuel depth (addPart p parts)
    | '`' :: _ =>
      skip 1
      let p ← readBackquote fuel true
      readArithmetic fuel depth (addPart p parts)
    | '\\' :: c :: _ =>
      let isEscape := c == '\\' || c == '$' || c == '"' || c.toNat == 96
      skip (if isEscape then 2 else 1)
      readArithmetic fuel depth (addPart (.plain (String.ofList [if isEscape then c else '\\'])) parts)
    | c :: _ =>
      skip 1
      readArithmetic fuel depth (addPart (.plain (String.ofList [c])) parts)
termination_by structural fuel

/-- A substitution after its opening backquote. -/
def readBackquote (fuel : Nat) (inDouble : Bool) : Read Part :=
  match fuel with
  | 0 => fail "word too long"
  | fuel + 1 => do
    let r ← get
    match backquoted inDouble r.rest with
    | none => failOpen '\x60' r.tokenLine "EOF in backquote substitution"
    | some (text, after) =>
      if r.dialect = .extended then
        set { r with
          rest := after
          line := r.line + (r.rest.take (r.rest.length - after.length)).count '\n' }
        return .script (String.ofList text)
      set { r with rest := text, awaited := [], spliced := [] }
      let body ← readList fuel 2
      let t ← readToken fuel false
      match t with
      | .finish =>
        modify fun inner => { inner with
          rest := after, awaited := r.awaited, spliced := r.spliced
          line := r.line + (r.rest.take (r.rest.length - after.length)).count '\n' }
        return .substitution [.mk body []]
      | t => unexpected t (some "end of file")
termination_by structural fuel

/-- The parts of a here-document's text, the last one first. -/
def readDocument (fuel : Nat) (parts : List Part) : Read (List Part) :=
  match fuel with
  | 0 => fail "word too long"
  | fuel + 1 => do
    match (← get).rest with
    | [] => return parts
    | '\\' :: '\n' :: _ =>
      skip 2
      readDocument fuel parts
    | '\\' :: c :: _ =>
      skip 2
      let kept := if c == '\\' || c == '$' || c == '`' then [c] else ['\\', c]
      readDocument fuel (addPart (Part.quoted (String.ofList kept)) parts)
    | '$' :: _ =>
      skip 1
      let p ← readDollar fuel true
      readDocument fuel (addPart p parts)
    | '`' :: _ =>
      skip 1
      let p ← readBackquote fuel true
      readDocument fuel (addPart p parts)
    | c :: s =>
      let run := s.takeWhile fun d => !(d == '\\' || d == '$' || d == '`')
      skip (run.length + 1)
      readDocument fuel (addPart (.quoted (String.ofList (c :: run))) parts)
termination_by structural fuel

/-- Reads the here-documents that are awaited at the end of a line. -/
def readAwaited (fuel : Nat) : Read Unit :=
  match fuel with
  | 0 => pure ()
  | fuel + 1 => do
    let r ← get
    match r.awaited with
    | [] => pure ()
    | a :: more =>
      let (text, after) := documentLines a (r.rest.length + 1) r.rest
      let taken := (r.rest.take (r.rest.length - after.length)).count '\n'
      let isOpen := after.isEmpty && !((String.ofList (r.rest.take (r.rest.length - after.length))).splitOn "\n").any
        fun line => (if a.stripsTabs then line.toList.dropWhile (· == '\t') else line.toList) == a.delimiter
      let openDocuments := if isOpen then r.openDocuments ++ [(a.line, String.ofList a.delimiter)] else r.openDocuments
      let r := { r with openDocuments, lineStart := after }
      if a.isQuoted then
        set { r with
          rest := after, line := r.line + taken, awaited := more
          documents := r.documents ++ [(a.number, [Part.quoted (String.ofList text)])] }
      else
        set { r with rest := text, awaited := [], spliced := [] }
        let parts ← readDocument fuel []
        modify fun inner => { inner with
          spliced := r.spliced, rest := after, line := r.line + taken, awaited := more, lineStart := after
          documents := inner.documents ++ [(a.number, [.double parts.reverse])] }
      readAwaited fuel
termination_by structural fuel

/-- The next word or operator; `joins` passes over line breaks. -/
def readToken (fuel : Nat) (joins : Bool) : Read Token :=
  match fuel with
  | 0 => fail "script too long"
  | fuel + 1 => do
    skipBlanks ((← get).rest.length + 1)
    modify fun r => { r with tokenStart := r.rest, tokenLineStart := r.lineStart, tokenLine := r.line }
    let r ← get
    let isWide := r.dialect = .extended
    match r.rest with
    | [] =>
      readAwaited fuel
      return .finish
    | '\n' :: _ =>
      skip 1
      readAwaited fuel
      if joins then readToken fuel true else return .newline
    | '&' :: '&' :: _ => skip 2; return .sign "&&"
    | '|' :: '|' :: _ => skip 2; return .sign "||"
    | '|' :: '&' :: _ =>
      if isWide then
        skip 2
        return .sign "|&"
      else
        skip 1
        return .sign "|"
    | ';' :: ';' :: '&' :: _ =>
      if isWide then
        skip 3
        return .sign ";;&"
      else
        skip 2
        return .sign ";;"
    | ';' :: ';' :: _ => skip 2; return .sign ";;"
    | ';' :: '&' :: _ =>
      if isWide then
        skip 2
        return .sign ";&"
      else
        skip 1
        return .sign ";"
    | '&' :: '>' :: s =>
      if isWide then
        let sign := if s.head? == some '>' then "&>>" else "&>"
        skip sign.length
        return .redirect none sign
      else
        skip 1
        return .sign "&"
    | '&' :: _ => skip 1; return .sign "&"
    | '|' :: _ => skip 1; return .sign "|"
    | ';' :: _ => skip 1; return .sign ";"
    | '(' :: _ => skip 1; return .sign "("
    | ')' :: _ => skip 1; return .sign ")"
    | c :: s =>
      match redirectSign? r.dialect (c :: s) with
      | some sign =>
        skip sign.length
        return .redirect none sign
      | none =>
        let digits := if isWide then (c :: s).takeWhile Char.isDigit else [c]
        match digits.length > 0 && c.isDigit, redirectSign? r.dialect ((c :: s).drop digits.length) with
        | true, some sign =>
          skip (sign.length + digits.length)
          return .redirect (some (digits.foldl (fun n d => n * 10 + (d.toNat - 48)) 0)) sign
        | _, _ =>
          let parts ← readParts fuel false false []
          modify fun t => { t with
            tokenStart := r.tokenStart, tokenLineStart := r.tokenLineStart, tokenLine := r.tokenLine }
          return .word parts.reverse
termination_by structural fuel

/-- The next token, which stays there. -/
def peekToken (fuel : Nat) (joins : Bool) : Read (Token × Reader) :=
  match fuel with
  | 0 => fail "script too long"
  | fuel + 1 => do
    let before ← get
    let t ← readToken fuel joins
    let after ← get
    set before
    return (t, after)
termination_by structural fuel

/-- Puts the text of a name in its place where a command may start, as long as there is such a name. A name
stands for itself in its own text. -/
def replaceNames (fuel : Nat) (joins : Bool) : Read Unit :=
  match fuel with
  | 0 => fail "script too long"
  | fuel + 1 => do
    if (← get).aliases.isEmpty then return
    let (t, after) ← peekToken fuel joins
    let spliced := after.spliced.filter fun e => e.2.1 < after.tokenStart.length
    modify fun r => { r with spliced }
    match t with
    | .word [.plain name] =>
      if keywords.contains name || spliced.any fun e => e.1 == name then return
      match after.aliases.lookup name with
      | some text =>
        let endsBlank := text.endsWith " " || text.endsWith "\t"
        set { after with
          rest := text.toList ++ after.rest, spliced := (name, after.rest.length, endsBlank) :: spliced }
        replaceNames fuel joins
      | none => return
    | _ => return
termination_by structural fuel

/-- Puts the text of a name in its place after the text of another one that ends in a blank. -/
def replaceNext (fuel : Nat) : Read Unit :=
  match fuel with
  | 0 => fail "script too long"
  | fuel + 1 => do
    if (← get).spliced.isEmpty then return
    let (_, after) ← peekToken fuel false
    if after.spliced.any fun e => e.2.2 && after.tokenStart.length ≤ e.2.1 then replaceNames fuel false
    else modify fun r => { r with spliced := r.spliced.filter fun e => e.2.1 < after.tokenStart.length }
termination_by structural fuel

/-- The target of a redirection after its sign. -/
def readRedirect (fuel : Nat) (fd : Option Nat) (sign : String) : Read Redirect :=
  match fuel with
  | 0 => fail "script too long"
  | fuel + 1 => do
    match ← readToken fuel false with
    | .word w =>
      if sign = "<<" ∨ sign = "<<-" then
        let (delimiter, isQuoted) := plainText w
        let number := (← get).nextDocument
        modify fun r => { r with
          nextDocument := number + 1
          awaited := r.awaited ++ [⟨number, r.line, sign = "<<-", delimiter, isQuoted⟩] }
        return .document (fd.getD 0) number
      else return redirectOf sign fd w
    | t => unexpected t none false
termination_by structural fuel

/-- Redirections that follow a compound command. -/
def readRedirects (fuel : Nat) (found : List Redirect) : Read (List Redirect) :=
  match fuel with
  | 0 => fail "script too long"
  | fuel + 1 => do
    let (t, after) ← peekToken fuel false
    match t with
    | .redirect fd sign =>
      set after
      let r ← readRedirect fuel fd sign
      readRedirects fuel (found ++ [r])
    | _ => return found
termination_by structural fuel

/-- A list of commands. With mode 1 the list ends with the line, otherwise where a sign or a word ends
it; with mode 2 it may be empty. -/
def readList (fuel mode : Nat) : Read (Option Command) :=
  match fuel with
  | 0 => fail "script too long"
  | fuel + 1 => readListFrom fuel mode (mode == 2) none
termination_by structural fuel

/-- The rest of a list of commands; `may` tells that it may end here. -/
def readListFrom (fuel mode : Nat) (may : Bool) (before : Option Command) : Read (Option Command) :=
  match fuel with
  | 0 => fail "script too long"
  | fuel + 1 => do
    replaceNames fuel (mode != 1)
    let (t, after) ← peekToken fuel (mode != 1)
    match t with
    | .newline =>
      set after
      return before
    | .finish =>
      set after
      return before
    | t =>
      if may && mode != 1 && endsList t then return before
      let c ← readAndOr fuel (mode != 1)
      let joined (c : Command) : Option Command :=
        match before with
        | some b => some (.sequence b c)
        | none => some c
      let (t, after) ← peekToken fuel false
      match t with
      | .sign "&" =>
        set after
        readListFrom fuel mode true (joined c.aside)
      | .sign ";" =>
        set after
        readListFrom fuel mode true (joined c)
      | .newline =>
        if mode == 1 then
          set after
          return joined c
        else readListFrom fuel mode true (joined c)
      | .finish =>
        set after
        return joined c
      | t =>
        if mode == 1 then
          set after
          unexpected t none
        else return joined c
termination_by structural fuel

/-- Pipes joined by `&&` and `||`; `joins` passes over line breaks before the first one. -/
def readAndOr (fuel : Nat) (joins : Bool) : Read Command :=
  match fuel with
  | 0 => fail "script too long"
  | fuel + 1 => do
    let first ← readPipe fuel joins
    readAndOrFrom fuel first
termination_by structural fuel

/-- The rest of pipes joined by `&&` and `||`. -/
def readAndOrFrom (fuel : Nat) (first : Command) : Read Command :=
  match fuel with
  | 0 => fail "script too long"
  | fuel + 1 => do
    let (t, after) ← peekToken fuel false
    match t with
    | .sign "&&" =>
      set after
      let second ← readPipe fuel true
      readAndOrFrom fuel (.both first second)
    | .sign "||" =>
      set after
      let second ← readPipe fuel true
      readAndOrFrom fuel (.either first second)
    | _ => return first
termination_by structural fuel

/-- Commands joined by `|`; `joins` passes over line breaks before the first one. -/
def readPipe (fuel : Nat) (joins : Bool) : Read Command :=
  match fuel with
  | 0 => fail "script too long"
  | fuel + 1 => do
    replaceNames fuel joins
    let (t, after) ← peekToken fuel joins
    let isNot := match t with
      | .word w => keyword? w == some "!"
      | _ => false
    let isTimed : Bool := match t with
      | .word [.plain "time"] => decide (after.dialect = .extended)
      | _ => false
    let isEmpty (t : Token) : Bool := match t with
      | .newline | .finish | .sign ";" | .sign "&&" | .sign "||" | .sign ")" => true
      | _ => false
    if isNot then
      set after
      if after.dialect = .extended then
        let (t, _) ← peekToken fuel false
        if isEmpty t then return .negated (.simple after.tokenLine [] [] [])
        return .negated (← readPipe fuel false)
      let first ← readCommand fuel false
      let c ← readPipeFrom fuel [first]
      return .negated c
    else if isTimed then
      set after
      let (t, afterShort) ← peekToken fuel false
      let short := t matches .word [.plain "-p"]
      if short then set afterShort
      let (t, _) ← peekToken fuel false
      if isEmpty t then return .timed short (.simple after.tokenLine [] [] [])
      return .timed short (← readPipe fuel false)
    else
      let first ← readCommand fuel joins
      readPipeFrom fuel [first]
termination_by structural fuel

/-- The rest of commands joined by `|`. -/
def readPipeFrom (fuel : Nat) (commands : List Command) : Read Command :=
  match fuel with
  | 0 => fail "script too long"
  | fuel + 1 => do
    let (t, after) ← peekToken fuel false
    match t with
    | .sign "|" =>
      set after
      let c ← readCommand fuel true
      readPipeFrom fuel (commands ++ [c])
    | .sign "|&" =>
      set after
      let joined := match commands.getLast? with
        | some c => commands.dropLast ++ [.redirected after.tokenLine c [.copy 2 [.plain "1"]]]
        | none => []
      let c ← readCommand fuel true
      readPipeFrom fuel (joined ++ [c])
    | _ =>
      match commands with
      | [c] => return c
      | cs => return .pipe cs
termination_by structural fuel

/-- Takes a certain keyword, or refuses what stands there. -/
def takeKeyword (fuel : Nat) (joins : Bool) (k : String) : Read Unit :=
  match fuel with
  | 0 => fail "script too long"
  | fuel + 1 => do
    let t ← readToken fuel joins
    let found := match t with
      | .word w => keyword? w
      | _ => none
    if found = some k then pure () else unexpected t (some ("\"" ++ k ++ "\""))
termination_by structural fuel

/-- The body of a loop, between its words or, in the extended language, between braces. -/
def readRound (fuel : Nat) : Read Command :=
  match fuel with
  | 0 => fail "script too long"
  | fuel + 1 => do
    let (t, after) ← peekToken fuel true
    let isBrace : Bool := match t with
      | .word w => keyword? w == some "\x7b" && decide (after.dialect = .extended)
      | _ => false
    if isBrace then
      set after
      let body ← readBody fuel
      takeKeyword fuel true "\x7d"
      return body
    takeKeyword fuel true "do"
    let body ← readBody fuel
    takeKeyword fuel true "done"
    return body
termination_by structural fuel

/-- A loop that counts, after its first word. -/
def readCount (fuel line : Nat) : Read Command :=
  match fuel with
  | 0 => fail "script too long"
  | fuel + 1 => do
    let _ ← takeWhile fun c => c == ' ' || c == '\t'
    let r ← get
    set { r with tokenStart := r.rest, tokenLineStart := r.lineStart, tokenLine := r.line }
    skip 2
    let whole ← readArithmetic fuel 0 []
    let taken := r.rest.take (r.rest.length - (← get).rest.length)
    match splitAtSemicolons whole.reverse with
    | [start, test, step] =>
      let (t, after) ← peekToken fuel true
      if t matches .sign ";" then set after
      return .count line start test step (← readRound fuel)
    | _ =>
      throw {
        line := r.line
        message := "syntax error: arithmetic expression required"
        more := [(r.line, "syntax error: \x60" ++ String.ofList taken ++ "'")] }
termination_by structural fuel

/-- A list of commands that must not be empty. -/
def readBody (fuel : Nat) : Read Command :=
  match fuel with
  | 0 => fail "script too long"
  | fuel + 1 => do
    match ← readList fuel 0 with
    | some c => return c
    | none => return .simple (← get).line [] [] []
termination_by structural fuel

/-- The rest of a conditional command after its test's keyword. -/
def readBranch (fuel : Nat) : Read Command :=
  match fuel with
  | 0 => fail "script too long"
  | fuel + 1 => do
    let test ← readBody fuel
    takeKeyword fuel true "then"
    let yes ← readBody fuel
    let t ← readToken fuel true
    let found := match t with
      | .word w => keyword? w
      | _ => none
    match found with
    | some "elif" =>
      let no ← readBranch fuel
      return .branch test yes (some no)
    | some "else" =>
      let no ← readBody fuel
      takeKeyword fuel true "fi"
      return .branch test yes (some no)
    | some "fi" => return .branch test yes none
    | _ => unexpected t (some "\"fi\"")
termination_by structural fuel

/-- The words of a `for` command. -/
def readWords (fuel : Nat) (found : List Word) : Read (List Word) :=
  match fuel with
  | 0 => fail "script too long"
  | fuel + 1 => do
    match ← readToken fuel false with
    | .word w => readWords fuel (found ++ [w])
    | .newline => return found
    | .sign ";" => return found
    | t => unexpected t none false
termination_by structural fuel

/-- The patterns of an arm of a `case` command. -/
def readPatterns (fuel : Nat) (t : Token) (found : List Word) : Read (List Word) :=
  match fuel with
  | 0 => fail "script too long"
  | fuel + 1 => do
    match t with
    | .word w =>
      match ← readToken fuel false with
      | .sign "|" =>
        let t ← readToken fuel false
        readPatterns fuel t (found ++ [w])
      | .sign ")" => return found ++ [w]
      | t => unexpected t (some "\")\"") false
    | t => unexpected t (some "word") false
termination_by structural fuel

/-- The arms of a `case` command. -/
def readArms (fuel : Nat) (found : List (List Word × Option Command × ArmEnd)) :
    Read (List (List Word × Option Command × ArmEnd)) :=
  match fuel with
  | 0 => fail "script too long"
  | fuel + 1 => do
    let t ← readToken fuel true
    let isEnd := match t with
      | .word w => keyword? w == some "esac"
      | _ => false
    if isEnd then return found
    let t ← match t with
      | .sign "(" => readToken fuel false
      | t => pure t
    let patterns ← readPatterns fuel t []
    let body ← readList fuel 2
    let t ← readToken fuel true
    let isEnd := match t with
      | .word w => keyword? w == some "esac"
      | _ => false
    if isEnd then return found ++ [(patterns, body, .stops)]
    match t with
    | .sign ";;" => readArms fuel (found ++ [(patterns, body, .stops)])
    | .sign ";&" => readArms fuel (found ++ [(patterns, body, .falls)])
    | .sign ";;&" => readArms fuel (found ++ [(patterns, body, .tries)])
    | t => unexpected t (some "\";;\"")
termination_by structural fuel

/-- A command; `joins` passes over line breaks before it. -/
def readCommand (fuel : Nat) (joins : Bool) : Read Command :=
  match fuel with
  | 0 => fail "script too long"
  | fuel + 1 => do
    replaceNames fuel joins
    let (t, after) ← peekToken fuel joins
    let compound (c : Command) : Read Command := do
      let line := (← get).line
      match ← readRedirects fuel [] with
      | [] => return c
      | rs => return .redirected line c rs
    match t with
    | .sign "(" =>
      set after
      let inner := after.rest.drop 1
      if after.dialect = .extended && after.rest.head? == some '(' && closesTwice (inner.length + 1) 0 inner then
        skip 1
        let text ← readArithmetic fuel 0 []
        return ← compound (.calculate after.line text.reverse)
      let line := after.line
      let body ← readBody fuel
      match ← readToken fuel true with
      | .sign ")" => return .subshell line body (← readRedirects fuel [])
      | t => unexpected t (some "\")\"")
    | .redirect _ _ =>
      readSimple fuel joins after.line [] [] []
    | .word [.plain "[["] =>
      if after.dialect = .plain then readSimple fuel joins after.line [] [] []
      else
        set after
        let line := after.line
        let (test, t) ← readTest fuel
        match t with
        | .word [.plain "]]"] => compound (.condition line test)
        | .finish =>
          throw {
            line
            message := "unexpected EOF while looking for \x60]]'"
            more := [((← get).line, "syntax error: unexpected end of file")] }
        | t =>
          let shown ← shownToken t
          let text := if t matches .word _ then "" else ": unexpected token \x60" ++ shown ++ "'"
          failTest ("syntax error in conditional expression" ++ text) t
    | .word [.plain "function"] =>
      if after.dialect = .plain then readSimple fuel joins after.line [] [] []
      else
        set after
        let t ← readToken fuel false
        match t with
        | .word _ =>
          let name ← tokenText
          let (t, after) ← peekToken fuel false
          if t matches .sign "(" then
            set after
            let t ← readToken fuel false
            if !(t matches .sign ")") then unexpected t none
          let line := (← get).line
          return .define name line (← readDefinition fuel)
        | t => unexpected t none
    | .word w =>
      match keyword? w with
      | none => readSimple fuel joins after.line [] [] []
      | some "if" =>
        set after
        compound (← readBranch fuel)
      | some "while" =>
        set after
        let test ← readBody fuel
        takeKeyword fuel true "do"
        let body ← readBody fuel
        takeKeyword fuel true "done"
        compound (.loop after.line false test body)
      | some "until" =>
        set after
        let test ← readBody fuel
        takeKeyword fuel true "do"
        let body ← readBody fuel
        takeKeyword fuel true "done"
        compound (.loop after.line true test body)
      | some "for" =>
        set after
        if after.dialect = .extended && (after.rest.dropWhile fun c => c == ' ' || c == '\t').take 2 == ['(', '('] then
          return ← compound (← readCount fuel after.line)
        match ← readToken fuel false with
        | .word [.plain name] =>
          if after.dialect = .plain ∧ !isName name.toList then fail "Bad for loop variable"
          let (t, afterIn) ← peekToken fuel true
          let isIn := match t with
            | .word w => keyword? w == some "in"
            | _ => false
          let words : List Word ←
            if isIn then
              set afterIn
              readWords fuel []
            else
              if t matches .sign ";" then set afterIn
              pure [[Part.double [.parameter "@" .value]]]
          let body ← readRound fuel
          compound (.each after.line name words body)
        | t => if after.dialect = .extended then unexpected t none else fail "Bad for loop variable"
      | some "case" =>
        set after
        match ← readToken fuel false with
        | .word w =>
          takeKeyword fuel true "in"
          let arms ← readArms fuel []
          compound (.choose after.line w arms)
        | t => unexpected t (some "word") false
      | some "\x7b" =>
        set after
        let body ← readBody fuel
        takeKeyword fuel true "\x7d"
        compound body
      | some _ =>
        set after
        unexpected t none
    | t =>
      set after
      unexpected t none
termination_by structural fuel

/-- The body of a function, which is a compound command. -/
def readDefinition (fuel : Nat) : Read Command :=
  match fuel with
  | 0 => fail "script too long"
  | fuel + 1 => do
    let (t, after) ← peekToken fuel true
    let isCompound := match t with
      | .sign s => s == "("
      | .word w =>
        match keyword? w with
        | some k => ["if", "while", "until", "for", "case", "\x7b"].contains k
        | none => (match w with
          | [.plain s] => s == "[["
          | _ => false)
      | _ => false
    if !isCompound then
      set after
      unexpected t none
    readCommand fuel true
termination_by structural fuel

/-- The text of a token as a fault of a condition names it. -/
def shownToken (t : Token) : Read String :=
  match t with
  | .newline => return "newline"
  | _ => tokenText

/-- Refuses a condition at the last token. -/
def failTest {α : Type} (message : String) (t : Token) : Read α := do
  let r ← get
  let near ← match t with
    | .newline =>
      let line := r.tokenLineStart.take (r.tokenLineStart.length - r.tokenStart.length)
      let isBlank (c : Char) : Bool := c == ' ' || c == '\t'
      pure (String.ofList ((line.reverse.dropWhile isBlank).takeWhile fun c => !isBlank c).reverse)
    | _ => tokenText
  let messages := if message = "" then [] else [message]
  failNear (messages ++ ["syntax error near \x60" ++ near ++ "'"])

/-- A condition, and the token after it. -/
def readTest (fuel : Nat) : Read (Test × Token) :=
  match fuel with
  | 0 => fail "script too long"
  | fuel + 1 => do
    let (a, t) ← readTestRow fuel
    match t with
    | .sign "||" =>
      let (b, t) ← readTest fuel
      return (.either a b, t)
    | t => return (a, t)
termination_by structural fuel

/-- Conditions that must all hold, and the token after them. -/
def readTestRow (fuel : Nat) : Read (Test × Token) :=
  match fuel with
  | 0 => fail "script too long"
  | fuel + 1 => do
    let (a, t) ← readTestPart fuel
    match t with
    | .sign "&&" =>
      let (b, t) ← readTestRow fuel
      return (.both a b, t)
    | t => return (a, t)
termination_by structural fuel

/-- One part of a condition, and the token after it. -/
def readTestPart (fuel : Nat) : Read (Test × Token) :=
  match fuel with
  | 0 => fail "script too long"
  | fuel + 1 => do
    let t ← readToken fuel true
    let isWord (t : Token) : Bool := match t with
      | .word [.plain s] => s != "]]"
      | .word _ => true
      | _ => false
    match t with
    | .word [.plain "]]"] => failTest "" t
    | .sign "(" =>
      let (a, t) ← readTest fuel
      if t matches .sign ")" then return (a, ← readToken fuel true)
      let text ← shownToken t
      let known := if t matches .word [.plain "]]"] then true else !isWord t
      failTest (if known then "unexpected token \x60" ++ text ++ "', expected \x60)'" else "expected \x60)'") t
    | .word [.plain "!"] =>
      let (a, t) ← readTestPart fuel
      return (.not a, t)
    | .word w =>
      let operator := match w with
        | [.plain s] => if unaryTests.contains s then some s else none
        | _ => none
      match operator with
      | some op =>
        match ← readToken fuel false with
        | .word v =>
          if isWord (.word v) then return (.unary op v, ← readToken fuel true)
          else failTest "unexpected argument \x60]]' to conditional unary operator" (.word v)
        | t => failTest ("unexpected argument \x60" ++ (← shownToken t) ++ "' to conditional unary operator") t
      | none =>
        let t ← readToken fuel false
        let binary (op : String) : Read (Test × Token) := do
          let before := (← get).hasGroups
          modify fun r => { r with hasGroups := before || op == "=" || op == "==" || op == "!=" }
          let v ← if op = "=~" then readRegexWord fuel else readToken fuel false
          modify fun r => { r with hasGroups := before }
          match v with
          | .word v =>
            if isWord (.word v) then return (.binary op w v, ← readToken fuel true)
            else failTest "unexpected argument \x60]]' to conditional binary operator" (.word v)
          | t => failTest ("unexpected argument \x60" ++ (← shownToken t) ++ "' to conditional binary operator") t
        match t with
        | .word [.plain "]]"] | .sign "&&" | .sign "||" | .sign ")" => return (.word w, t)
        | .redirect none "<" => binary "<"
        | .redirect none ">" => binary ">"
        | .word [.plain op] =>
          if binaryTests.contains op ∨ op = "=~" then binary op
          else failTest "conditional binary operator expected" t
        | .word _ => failTest "conditional binary operator expected" t
        | t =>
          failTest ("unexpected token \x60" ++ (← shownToken t) ++ "', conditional binary operator expected") t
    | t => failTest ("unexpected token \x60" ++ (← shownToken t) ++ "' in conditional command") t
termination_by structural fuel

/-- The regular expression of a condition, in which parentheses and bars are characters. -/
def readRegexWord (fuel : Nat) : Read Token :=
  match fuel with
  | 0 => fail "script too long"
  | fuel + 1 => do
    skipBlanks ((← get).rest.length + 1)
    modify fun r => { r with tokenStart := r.rest, tokenLineStart := r.lineStart, tokenLine := r.line }
    match (← get).rest with
    | [] | '\n' :: _ => readToken fuel false
    | _ => return .word (← readRegexParts fuel 0 []).reverse
termination_by structural fuel

/-- The parts of a regular expression, the last one first, `depth` parentheses being open. -/
def readRegexParts (fuel depth : Nat) (parts : List Part) : Read (List Part) :=
  match fuel with
  | 0 => fail "script too long"
  | fuel + 1 => do
    let r ← get
    let plain (depth : Nat) (c : Char) : Read (List Part) := do
      skip 1
      readRegexParts fuel depth (addPart (.plain (String.singleton c)) parts)
    match r.rest with
    | [] => if depth > 0 then failOpen ')' r.tokenLine "" else return parts
    | '(' :: _ => plain (depth + 1) '('
    | ')' :: _ => if depth = 0 then return parts else plain (depth - 1) ')'
    | '|' :: _ => plain depth '|'
    | c :: _ =>
      if depth = 0 && endsWord c then return parts
      else if c == '\\' || c == '$' || c == '"' || c == '\'' || c.toNat == 96 then
        if c == '$' && (r.rest.tail.head?.all fun d => d == ')' || d == '|' || endsWord d) then plain depth c
        else
          let more ← readParts fuel false false []
          readRegexParts fuel depth (more.foldr addPart parts)
      else plain depth c
termination_by structural fuel

/-- An argument that sets a variable, whose text has a certain shape. -/
def readSetting (fuel : Nat) (name : List Char) (hasSubscript appends : Bool) : Read Assignment :=
  match fuel with
  | 0 => fail "script too long"
  | fuel + 1 => do
    skip name.length
    let index : Option Word ←
      if hasSubscript then
        skip 1
        let rest := (← get).rest
        match subscriptText (rest.length + 1) 0 rest with
        | some (text, after) =>
          let index ← readApart fuel text
          skip (rest.length - after.length)
          pure (some index)
        | none => pure none
      else pure none
    skip (if appends then 2 else 1)
    let name := String.ofList name
    if index.isNone && (← tryText "(") then
      return .items name appends (← readItems fuel [])
    return .value name index appends (← readParts fuel false false []).reverse
termination_by structural fuel

/-- The values between parentheses. -/
def readItems (fuel : Nat) (found : List (Option Word × Bool × Word)) :
    Read (List (Option Word × Bool × Word)) :=
  match fuel with
  | 0 => fail "script too long"
  | fuel + 1 => do
    let line := (← get).tokenLine
    skipBlanks ((← get).rest.length + 1)
    match (← get).rest with
    | '\n' :: _ =>
      skip 1
      readItems fuel found
    | ')' :: _ =>
      skip 1
      return found
    | [] =>
      throw { line, message := "unexpected EOF while looking for matching \x60)'", status := 1 }
    | '[' :: rest =>
      match subscriptText (rest.length + 1) 0 rest with
      | some (text, '=' :: _) =>
        let index ← readApart fuel text
        skip (text.length + 3)
        let w := (← readParts fuel false false []).reverse
        readItems fuel (found ++ [(some index, false, w)])
      | some (text, '+' :: '=' :: _) =>
        let index ← readApart fuel text
        skip (text.length + 4)
        let w := (← readParts fuel false false []).reverse
        readItems fuel (found ++ [(some index, true, w)])
      | _ => readItem fuel found
    | _ => readItem fuel found
termination_by structural fuel

/-- One value between parentheses and those after it. -/
def readItem (fuel : Nat) (found : List (Option Word × Bool × Word)) :
    Read (List (Option Word × Bool × Word)) :=
  match fuel with
  | 0 => fail "script too long"
  | fuel + 1 => do
    let t ← readToken fuel false
    match t with
    | .word w => readItems fuel (found ++ [(none, false, w)])
    | t => unexpected t none
termination_by structural fuel

/-- The words, assignments and redirections of a simple command. -/
def readSimple (fuel : Nat) (joins : Bool) (line : Nat) (assigned : List Assignment)
    (words : List Word) (redirects : List Redirect) : Read Command :=
  match fuel with
  | 0 => fail "script too long"
  | fuel + 1 => do
    if words.isEmpty then replaceNames fuel joins else replaceNext fuel
    let (t, after) ← peekToken fuel joins
    let declares := match words with
      | [] => true
      | [.plain name] :: _ => declarers.contains name
      | _ => false
    let shape := if after.dialect = .extended && declares && (t matches .word _) then
        assignmentShape? after.tokenStart
      else none
    match t with
    | .word w =>
      match shape with
      | some (name, hasSubscript, appends) =>
        set { after with rest := after.tokenStart, line := after.tokenLine, lineStart := after.tokenLineStart }
        let a ← readSetting fuel name hasSubscript appends
        if words.isEmpty then readSimple fuel false line (assigned ++ [a]) [] redirects
        else readSimple fuel false line assigned (words ++ [[.setting a]]) redirects
      | none =>
        set after
        match words, if after.dialect = .plain then assignment? w else none with
        | [], some (name, value) =>
          readSimple fuel false line (assigned ++ [.value name none false value]) [] redirects
        | ws, _ => readSimple fuel false line assigned (ws ++ [w]) redirects
    | .redirect fd sign =>
      set after
      let r ← readRedirect fuel fd sign
      readSimple fuel false line assigned words (redirects ++ [r])
    | .sign "(" =>
      match assigned, words, redirects with
      | [], [w], [] =>
        let before := (← get).tokenStart
        let written := before.take (before.length - (← get).rest.length)
        set after
        match ← readToken fuel false with
        | .sign ")" =>
          if after.dialect = .extended then
            let name := String.ofList (written.takeWhile fun c => c != ' ' && c != '\t')
            let line := (← get).line
            return .define name line (← readDefinition fuel)
          let (name, isQuoted) := plainText w
          if !isName name || isQuoted || specialBuiltins.contains (String.ofList name) then
            fail "Bad function name"
          let line := (← get).line
          let body ← readCommand fuel true
          return .define (String.ofList name) line body
        | t => unexpected t (some "\")\"") false
      | _, _, _ => return .simple line assigned words redirects
    | _ => return .simple line assigned words redirects
termination_by structural fuel

end

/-- The command of the next line; none if the script has ended. -/
def readLine (r : Reader) : Except ScriptFault (Option Program × Reader) :=
  if r.rest = [] then .ok (none, r)
  else
    let texts := (r.aliases.map fun e => e.2.length + 1).foldl (· + ·) 0
    let fuel := 16 * (r.rest.length + 16) * (1 + min texts 64)
    let fresh := { r with documents := [], openDocuments := [], depth := 0, stops := [], lineStart := r.rest }
    match (readList fuel 1).run fresh with
    | .ok (c, r) => .ok (some (.mk c r.documents), r)
    | .error e => .error e

end ClassLens.Shell
