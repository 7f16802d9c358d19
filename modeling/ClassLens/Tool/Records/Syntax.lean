import ClassLens.Tool.Records.Value
import ClassLens.Tool.Regex

/-! # Programs on records

What a program on records says: rules, each with a condition and with what is done for the records that meet
it, and functions.  The regular expressions in it have an extended form, in which braces stand for themselves
and letters after a backslash for control characters.

* `Expr`, `Act`: what is computed, and what is done.
* `Program`: rules and functions.
* `readPattern`: the expression of a text, or what is wrong with it. -/

namespace ClassLens.Tool.Records

/-- An operation on two numbers. -/
inductive Operation where
  | add
  | sub
  | mul
  | div
  | rem
  | pow
  deriving DecidableEq

/-- A comparison of two values. -/
inductive Comparison where
  | less
  | atMost
  | same
  | other
  | more
  | atLeast
  deriving DecidableEq

mutual

/-- A place that holds a value. -/
inductive Place where
  | variable (name : String)
  | field (index : Expr)
  | item (group : String) (keys : List Expr)

/-- What is computed. -/
inductive Expr where
  | number (n : Float)
  | text (s : String)
  | pattern (s : String)
  | place (p : Place)
  | assign (p : Place) (e : Expr)
  | update (op : Operation) (p : Place) (e : Expr)
  /-- A number goes up or down; the value is the new one or the old one. -/
  | step (up new : Bool) (p : Place)
  | either (test yes no : Expr)
  | both (a b : Expr)
  | any (a b : Expr)
  | not (e : Expr)
  | minus (e : Expr)
  | plus (e : Expr)
  | operate (op : Operation) (a b : Expr)
  | compare (c : Comparison) (a b : Expr)
  | hits (negated : Bool) (a b : Expr)
  | join (a b : Expr)
  | contains (keys : List Expr) (group : String)
  | call (name : String) (args : List Expr)
  | builtin (name : String) (args : List Expr)
  /-- The next record: of the input, of a file, or of what a command writes. -/
  | nextRecord (p : Option Place)
  | nextOfFile (p : Option Place) (file : Expr)
  | nextOfCommand (p : Option Place) (command : Expr)

end

/-- Where an output leads. -/
inductive Target where
  | standard
  | file (appends : Bool) (name : Expr)
  | command (text : Expr)

/-- What is done. -/
inductive Act where
  | compute (e : Expr)
  | print (args : List Expr) (target : Target)
  | format (args : List Expr) (target : Target)
  | row (acts : List Act)
  | branch (test : Expr) (yes : Act) (no : Option Act)
  | while (test : Expr) (body : Act)
  | doWhile (body : Act) (test : Expr)
  | for (start : Option Act) (test : Option Expr) (step : Option Act) (body : Act)
  | each (name group : String) (body : Act)
  | next
  | nextFile
  | exit (e : Option Expr)
  | return (e : Option Expr)
  | break
  | continue
  | delete (group : String) (keys : List Expr)

/-- When a rule applies. -/
inductive Condition where
  | first
  | last
  | always
  | test (e : Expr)
  | range (number : Nat) (start stop : Expr)

/-- A function: its parameters, which of them are groups, and what it does. -/
structure Routine where
  parameters : List (String × Bool)
  body : Act

/-- A program, with the names that are groups outside of its functions. -/
structure Program where
  rules : List (Condition × Option Act)
  routines : List (String × Routine)
  groups : List String

/-! ### Regular expressions -/

open Shell (PatternItem)

/-- The character that a backslash and what follows it stand for, and what follows that. -/
def escapedChar (s : List Char) : Char × List Char :=
  match s with
  | 'n' :: s => ('\n', s)
  | 't' :: s => ('\t', s)
  | 'r' :: s => ('\r', s)
  | 'f' :: s => ('\x0c', s)
  | 'v' :: s => ('\x0b', s)
  | 'a' :: s => ('\x07', s)
  | 'b' :: s => ('\x08', s)
  | c :: s =>
    let isOctal (c : Char) : Bool := '0' ≤ c && c ≤ '7'
    if isOctal c then
      let ds := ((c :: s).take 3).takeWhile isOctal
      let n := ds.foldl (fun n c => n * 8 + (c.toNat - 48)) 0
      (Char.ofNat (n % 256), (c :: s).drop ds.length)
    else (c, s)
  | [] => ('\\', [])

/-- The inside of a set up to its closing bracket, and what follows it. -/
def readSet : Nat → Bool → List (Char × Char) → List String → List Char →
    Option (List (Char × Char) × List String × List Char)
  | 0, _, _, _, _ => none
  | _ + 1, _, _, _, [] => none
  | n + 1, isFirst, ranges, classes, s =>
    match s with
    | ']' :: rest =>
      if isFirst then readSet n false (ranges ++ [(']', ']')]) classes rest else some (ranges, classes, rest)
    | '[' :: ':' :: rest =>
      let name := rest.takeWhile Char.isAlpha
      match rest.drop name.length with
      | ':' :: ']' :: after => readSet n false ranges (classes ++ [String.ofList name]) after
      | _ => readSet n false (ranges ++ [('[', '[')]) classes (':' :: rest)
    | c :: rest =>
      let (low, after) := if c == '\\' then escapedChar rest else (c, rest)
      match after with
      | '-' :: d :: more =>
        if d == ']' then readSet n false (ranges ++ [(low, low)]) classes after
        else
          let (high, after) := if d == '\\' then escapedChar more else (d, more)
          readSet n false (ranges ++ [(low, high)]) classes after
      | _ => readSet n false (ranges ++ [(low, low)]) classes after
    | [] => none

/-- Where the reading of an expression stands. -/
structure PatternReader where
  rest : List Char
  groups : Nat := 0

mutual

/-- Reads alternatives; `depth` tells how many parentheses are open. -/
def readEither : Nat → Nat → PatternReader → Except String (Regex × PatternReader)
  | 0, _, _ => .error "resource exhaustion -- regular expression too large"
  | fuel + 1, depth, p => do
    let (first, p) ← readRow fuel depth .nothing p
    match p.rest with
    | '|' :: rest =>
      let (second, p) ← readEither fuel depth { p with rest }
      return (.either first second, p)
    | _ => return (first, p)

/-- Reads parts one after the other. -/
def readRow : Nat → Nat → Regex → PatternReader → Except String (Regex × PatternReader)
  | 0, _, _, _ => .error "resource exhaustion -- regular expression too large"
  | fuel + 1, depth, before, p => do
    let isEnd := match p.rest with
      | [] => true
      | '|' :: _ => true
      | ')' :: _ => depth > 0
      | _ => false
    if isEnd then return (before, p)
    let (part, p) ← readPart fuel depth p
    let (part, p) := repeated fuel part p
    readRow fuel depth (match before with
      | .nothing => part
      | before => .seq before part) p

/-- Reads one part. -/
def readPart : Nat → Nat → PatternReader → Except String (Regex × PatternReader)
  | 0, _, _ => .error "resource exhaustion -- regular expression too large"
  | fuel + 1, depth, p => do
    let one (i : PatternItem) (rest : List Char) : Except String (Regex × PatternReader) :=
      .ok (.one i, { p with rest })
    match p.rest with
    | '(' :: rest =>
      let n := p.groups + 1
      let (body, p) ← readEither fuel (depth + 1) { rest, groups := n }
      match p.rest with
      | ')' :: rest => return (.group n body, { p with rest })
      | _ => throw "missing ')'"
    | '^' :: rest => return (.lineStart, { p with rest })
    | '$' :: rest => return (.lineEnd, { p with rest })
    | '.' :: rest => one .any rest
    | '[' :: '^' :: rest =>
      match readSet (rest.length + 1) true [] [] rest with
      | some (ranges, classes, rest) => one (.among true ranges classes) rest
      | none => throw "bad class -- [], [^] or ["
    | '[' :: rest =>
      match readSet (rest.length + 1) true [] [] rest with
      | some (ranges, classes, rest) => one (.among false ranges classes) rest
      | none => throw "bad class -- [], [^] or ["
    | '\\' :: rest =>
      let (c, rest) := escapedChar rest
      one (.one c) rest
    | c :: rest => if c == '*' || c == '+' || c == '?' then throw "missing operand" else one (.one c) rest
    | [] => return (.nothing, p)

/-- A part with the repetitions that follow it. -/
def repeated : Nat → Regex → PatternReader → Regex × PatternReader
  | 0, r, p => (r, p)
  | fuel + 1, r, p =>
    match p.rest with
    | '*' :: rest => repeated fuel (.many 0 none r) { p with rest }
    | '+' :: rest => repeated fuel (.many 1 none r) { p with rest }
    | '?' :: rest => repeated fuel (.many 0 (some 1) r) { p with rest }
    | _ => (r, p)

end

/-- The expression of a text, or what is wrong with it. -/
def readPattern (s : String) : Except String Regex :=
  (readEither (8 * s.length + 16) 0 { rest := s.toList }).map Prod.fst

end ClassLens.Tool.Records
