import ClassLens.Tool.Records.Syntax

/-! # The signs of programs on records

* `Token`: a sign of a program.
* `Source`: what is left of a program, with the sign that was read last.
* `advance`: goes on to the next sign.

A line break ends what stands before it but for some signs, which need more after them; before a closing
brace an end is taken for written. -/

namespace ClassLens.Tool.Records

/-- A sign of a program. -/
inductive Token where
  | finish
  | newline
  /-- The end of an act, or one that is taken for written before a brace. -/
  | semicolon (written : Bool)
  | sign (s : String)
  | number (n : Float) (s : String)
  | text (s shown : String)
  | word (s : String)
  /-- The name of a variable, or of a function. -/
  | name (s : String)
  | routine (s : String)
  | builtin (s : String)

/-- The words with a meaning of their own. -/
def keywords : List String :=
  ["BEGIN", "END", "if", "else", "while", "for", "do", "break", "continue", "in", "delete", "next", "nextfile",
    "exit", "function", "func", "return", "print", "printf", "getline"]

/-- The functions that are there from the start, with the fewest and the most arguments. -/
def builtins : List (String × Nat × Nat) :=
  [("length", 0, 1), ("substr", 2, 3), ("index", 2, 2), ("split", 2, 3), ("sub", 2, 3), ("gsub", 2, 3),
    ("match", 2, 2), ("sprintf", 1, 255), ("sin", 1, 1), ("cos", 1, 1), ("atan2", 2, 2), ("exp", 1, 1),
    ("log", 1, 1), ("sqrt", 1, 1), ("int", 1, 1), ("rand", 0, 0), ("srand", 0, 1), ("tolower", 1, 1),
    ("toupper", 1, 1), ("system", 1, 1), ("close", 1, 1), ("fflush", 0, 1), ("systime", 0, 0),
    ("mktime", 1, 1), ("strftime", 0, 3)]

/-- A sign as a fault names it. -/
def Token.shown : Token → String
  | finish => "end of file"
  | newline => "end of line"
  | semicolon written => if written then ";" else "\x7d"
  | sign s | word s | name s | routine s | builtin s | number _ s => s
  | text _ shown => shown

/-- What is left of a program. -/
structure Source where
  rest : List Char
  line : Nat := 1
  token : Token := .newline
  /-- The sign before it. -/
  previous : Token := .newline
  /-- The line of the sign that was read last. -/
  tokenLine : Nat := 1
  parens : Nat := 0
  braces : Nat := 0
  vars : List String := []
  /-- Names that hold values and no groups, outside of functions. -/
  scalars : List String := []
  routines : List String := []
  /-- The function that is read, with its parameters. -/
  inside : Option (String × List String) := none
  loops : Nat := 0
  /-- Whether a record is at hand. -/
  hasRecord : Bool := false
  /-- Names that are used as groups, each within a function or outside of them. -/
  groups : List (Option String × String) := []
  /-- Names that are given to functions as arguments of certain numbers. -/
  passed : List ((Option String × String) × String × Nat) := []
  ranges : Nat := 0
  /-- How many arguments calls have, which is looked at in the end. -/
  calls : List (String × Nat × Nat) := []
  found : List (String × Routine) := []

/-- Reading of a program; a fault ends it with what is told of it. -/
abbrev Parse := StateT Source (Except (List String))

/-- Refuses a program at a line. -/
def failAt {α : Type} (line : Nat) (message : String) : Parse α :=
  throw ["line " ++ toString line ++ ": " ++ message]

/-- Refuses a program at the sign that was read last. -/
def refuse {α : Type} (message : String) : Parse α := do failAt (← get).tokenLine message

/-- Refuses the sign that was read last. -/
def unexpected {α : Type} : Parse α := do
  let s ← get
  let ends := match s.token with
    | .finish | .newline | .semicolon _ | .sign "\x7d" => true
    | _ => false
  let isEnd := s.token matches .finish
  if ends && s.parens > 0 then refuse ("missing ) near " ++ s.token.shown)
  else if isEnd && s.braces > 0 then refuse ("missing \x7d near " ++ s.token.shown)
  else refuse ("syntax error at or near " ++ s.token.shown)

/-- What follows line breaks, blanks and comments, and how many lines that takes. -/
def afterBreaks (lines : Bool) : Nat → List Char → Nat → List Char × Nat
  | 0, s, n => (s, n)
  | k + 1, s, n =>
    match s with
    | ' ' :: s | '\t' :: s | '\r' :: s => afterBreaks lines k s n
    | '\\' :: '\n' :: s | '\\' :: '\r' :: '\n' :: s => afterBreaks lines k s (n + 1)
    | '#' :: s => afterBreaks lines k (s.dropWhile (· != '\n')) n
    | '\n' :: rest => if lines then afterBreaks lines k rest (n + 1) else (s, n)
    | s => (s, n)

/-- Passes over blanks and comments, and with `lines` over line breaks. -/
def skipBlanks (lines : Bool) : Parse Unit := modify fun s =>
  let (rest, n) := afterBreaks lines (s.rest.length + 1) s.rest 0
  { s with rest, line := s.line + n }

/-- The text of a string up to its closing quote, what follows it, and whether there is one. -/
def stringBody : Nat → List Char → List Char → List Char × List Char × Bool
  | 0, s, found => (found.reverse, s, false)
  | _ + 1, [], found => (found.reverse, [], false)
  | n + 1, c :: s, found =>
    match c, s with
    | '"', s => (found.reverse, s, true)
    | '\n', s => (found.reverse, s, false)
    | '\\', '\n' :: s => stringBody n s found
    | '\\', d :: s => stringBody n s (d :: '\\' :: found)
    | c, s => stringBody n s (c :: found)

/-- A text with its escapes replaced. -/
def unescaped : Nat → List Char → List Char
  | 0, s => s
  | _ + 1, [] => []
  | n + 1, '\\' :: c :: s =>
    if c == '"' || c == '\\' then c :: unescaped n s
    else if "ntrfvab01234567".toList.contains c then
      let (d, rest) := escapedChar (c :: s)
      d :: unescaped n rest
    else '\\' :: c :: unescaped n s
  | n + 1, c :: s => c :: unescaped n s

/-- A text with its escapes replaced. -/
def unescape (s : String) : String := String.ofList (unescaped s.length s.toList)

/-- The inside of a pattern between slashes, what follows it, and whether it is closed. -/
def patternBody : Nat → Bool → List Char → List Char → List Char × List Char × Bool
  | 0, _, s, found => (found.reverse, s, false)
  | _ + 1, _, [], found => (found.reverse, [], false)
  | n + 1, inSet, c :: s, found =>
    match c, s with
    | '\n', s => (found.reverse, s, false)
    | '\\', '/' :: s => patternBody n inSet s ('/' :: found)
    | '\\', d :: s => patternBody n inSet s (d :: '\\' :: found)
    | '[', '^' :: ']' :: s => patternBody n true s (']' :: '^' :: '[' :: found)
    | '[', ']' :: s => patternBody n true s (']' :: '[' :: found)
    | '[', s => patternBody n true s ('[' :: found)
    | ']', s => patternBody n false s (']' :: found)
    | '/', s => if inSet then patternBody n inSet s ('/' :: found) else (found.reverse, s, true)
    | c, s => patternBody n inSet s (c :: found)

/-- The signs of more than one character. -/
def longSigns : List String :=
  ["&&", "||", "!~", "==", "<=", ">=", "!=", "++", "--", "+=", "-=", "*=", "/=", "%=", "^=", ">>"]

/-- A character of a name. -/
def isNameChar (c : Char) : Bool := c.isAlphanum || c == '_'

/-- Takes a sign. -/
def accept (t : Token) (rest : List Char) : Parse Unit := modify fun s => { s with token := t, rest }

/-- The sign that a word is. -/
def wordToken (s : Source) (word : String) (rest : List Char) : Token :=
  if keywords.contains word then .word (if word = "func" then "function" else word)
  else if builtins.any fun b => b.1 == word then .builtin word
  else if (match s.inside with
    | some (_, parameters) => parameters.contains word
    | none => false) then .name word
  else if s.routines.contains word then .routine word
  else if s.vars.contains word then .name word
  else if rest.head? == some '(' then .routine word else .name word

/-- Goes on to the next sign. -/
def advance : Parse Unit := do
  skipBlanks false
  let before := (← get).token
  modify fun s => { s with tokenLine := s.line, previous := before }
  let s ← get
  match s.rest with
  | [] => accept .finish []
  | '\n' :: rest =>
    set { s with line := s.line + 1 }
    accept .newline rest
    skipBlanks true
  | ';' :: rest =>
    accept (.semicolon true) rest
    skipBlanks true
  | '\x7b' :: rest =>
    set { s with braces := s.braces + 1 }
    accept (.sign "\x7b") rest
    skipBlanks true
  | '\x7d' :: rest =>
    if s.braces = 0 then
      let after := rest.dropWhile fun c => c == ' ' || c == '\t'
      let told := "line " ++ toString s.line ++ ": "
      throw ((told ++ "extra '\x7d'") :: if after.headD '\n' == '\n' then
        [told ++ "syntax error at or near end of line"] else [])
    let isEnded := match before with
      | .newline | .semicolon _ | .sign "\x7d" => true
      | _ => false
    if isEnded then
      set { s with braces := s.braces - 1 }
      accept (.sign "\x7d") rest
      if s.braces = 1 then
        skipBlanks false
        match (← get).rest with
        | ';' :: rest => modify fun s => { s with rest }
        | _ => pure ()
      skipBlanks true
    else accept (.semicolon false) s.rest
  | '(' :: rest =>
    set { s with parens := s.parens + 1 }
    accept (.sign "(") rest
  | ')' :: rest =>
    if s.parens = 0 then failAt s.line "extra ')'"
    set { s with parens := s.parens - 1 }
    accept (.sign ")") rest
  | '"' :: rest =>
    let (body, after, closed) := stringBody (rest.length + 1) rest []
    if !closed then
      failAt s.line ("runaway string constant \"" ++ String.ofList (body.take 10) ++ " ...")
    let lines := (rest.take (rest.length - after.length)).count '\n'
    set { s with line := s.line + lines }
    let body := String.ofList body
    accept (.text (unescape body) body) after
  | c :: rest =>
    match longSigns.find? fun t => t.toList.isPrefixOf s.rest with
    | some t =>
      accept (.sign t) (s.rest.drop t.length)
      if t = "&&" ∨ t = "||" then skipBlanks true
    | none =>
      if c.isDigit || (c == '.' && rest.head?.any Char.isDigit) then
        let (whole, part, after) := Shell.Floating.readDigits Char.isDigit s.rest
        let (_, after) := Shell.Floating.readExponent ['e', 'E'] after
        let taken := s.rest.take (s.rest.length - after.length)
        let after := if whole.isEmpty && part.isEmpty then rest else after
        accept (.number (readNumber taken).1 (String.ofList taken)) after
      else if c.isAlpha || c == '_' then
        let word := String.ofList (s.rest.takeWhile isNameChar)
        let after := s.rest.drop word.length
        accept (wordToken s word after) after
      else if ",=<>!~?:+-*/%^$[]|".toList.contains c then
        accept (.sign (String.singleton c)) rest
        if c == ',' then skipBlanks true
      else throw [toString s.line ++ ": unexpected character '" ++ String.singleton c ++ "'"]

/-- Whether a certain sign was read last. -/
def isAt (s : String) : Parse Bool := do
  match (← get).token with
  | .sign t => return t == s
  | _ => return false

/-- Whether a certain word was read last. -/
def isWord (s : String) : Parse Bool := do
  match (← get).token with
  | .word t => return t == s
  | _ => return false

/-- Passes over a certain sign if it was read last. -/
def trySign (s : String) : Parse Bool := do
  match (← get).token with
  | .sign t =>
    if t == s then
      advance
      return true
    return false
  | _ => return false

/-- Passes over a certain sign, or refuses what stands there. -/
def takeSign (s : String) : Parse Unit := do
  if !(← trySign s) then unexpected

end ClassLens.Tool.Records
