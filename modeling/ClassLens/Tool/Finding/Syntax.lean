import ClassLens.Tool.Dates
import ClassLens.Tool.Facts
import ClassLens.Tool.Regex.Reader

/-! # Conditions on files

The conditions by which files are looked for, and what is done with those that are found.

* `Step`: a single condition or action.
* `Expression.build`: the expression that steps and signs between them make. -/

namespace ClassLens.Tool.Finding

open Shell

/-- A number that values are compared with: they are to be the same, more or less. -/
structure Bound where
  sign : Ordering := .eq
  number : Nat

/-- Whether a value is as a bound says. -/
def Bound.holds (b : Bound) (n : Nat) : Bool := compare n b.number == b.sign

/-- The bound that a text is. -/
def Bound.read? (s : String) : Option Bound :=
  match s.toList with
  | '+' :: cs => (natOf? (String.ofList cs)).map fun n => ⟨.gt, n⟩
  | '-' :: cs => (natOf? (String.ofList cs)).map fun n => ⟨.lt, n⟩
  | _ => (natOf? s).map fun n => ⟨.eq, n⟩

/-- Which bits of a mode are asked for. -/
inductive Bits where
  | exactly
  | all
  | any

/-- What stands between a per cent sign and its letter. -/
structure Directive where
  flags : List Char := []
  width : Nat := 0
  precision : Option Nat := none

/-- A piece of a format. -/
inductive Piece where
  | text (s : String)
  | fact (d : Directive) (letter : Char)
  /-- A part of one of the times of a file. -/
  | time (d : Directive) (letter : Char)
  /-- The end of all that is written. -/
  | stop

/-- How a program is run on what is found. -/
structure Launching where
  /-- The number of the step. -/
  number : Nat
  words : List String
  /-- Whether it gets many paths at once. -/
  many : Bool := false
  /-- Whether it is run in the directory of the file. -/
  inside : Bool := false
  asks : Bool := false

/-- A single condition or action. Where there is a path of a file, what is written goes there. -/
inductive Step where
  | constant (value : Bool)
  | name (folds : Bool) (pattern : String)
  | path (folds : Bool) (pattern : String)
  | linkName (folds : Bool) (pattern : String)
  | regex (folds : Bool) (r : Regex)
  | kind (letters : List Char) (through : Bool)
  | size (bound : Bound) (unit : Nat)
  | empty
  | mode (bits : Bits) (value : Nat)
  | newer (time : Int)
  /-- The age, in units of so many seconds. -/
  | age (bound : Bound) (unit : Nat)
  | links (bound : Bound)
  | inode (bound : Bound)
  | same (place : Location)
  /-- Something is there at the end of all links, and may be run if that is asked for. -/
  | reachable (runs : Bool)
  | print (stop : String) (file : Option String)
  | format (pieces : List Piece) (file : Option String)
  | list (file : Option String)
  | delete
  | prune
  | quit
  | launch (l : Launching)

/-- A step or a sign between steps, with its spelling. -/
inductive Token where
  | step (s : Step)
  | opening
  | closing
  | not (spelling : String)
  | and (spelling : String)
  | or (spelling : String)
  | comma

/-- A condition made of steps. -/
inductive Expression where
  | step (s : Step)
  | not (e : Expression)
  | and (a b : Expression)
  | or (a b : Expression)
  /-- Both are looked at, and the second one decides. -/
  | then_ (a b : Expression)

namespace Expression

/-- How tight a sign between conditions binds, with its spelling and what it makes. -/
def operator? : Token → Option (Nat × String × (Expression → Expression → Expression))
  | .and s => some (3, s, .and)
  | .or s => some (2, s, .or)
  | .comma => some (1, ",", .then_)
  | _ => none

mutual

/-- The expression at the start of tokens; `before` is the spelling of the sign before it, or none for a
parenthesis. -/
def operand : Nat → Option String → List Token → Except String (Expression × List Token)
  | 0, _, _ => .error "invalid expression"
  | n + 1, before, tokens =>
    match tokens with
    | [] => .error ("expected an expression after " ++ quoted (before.getD "("))
    | .step s :: rest => .ok (.step s, rest)
    | .not s :: rest =>
      match operand n (some s) rest with
      | .ok (e, rest) => .ok (.not e, rest)
      | .error e => .error e
    | .opening :: rest =>
      match rest with
      | [] =>
        .error ("invalid expression; expected to find a ')' but didn't see one. " ++
          "Perhaps you need an extra predicate after '('")
      | .closing :: _ => .error "invalid expression; empty parentheses are not allowed."
      | rest =>
        match chain n 0 none rest with
        | .ok (e, .closing :: rest) => .ok (e, rest)
        | .ok _ => .error "invalid expression; I was expecting to find a ')' somewhere but did not see one."
        | .error e => .error e
    | .closing :: _ =>
      match before with
      | some s => .error ("expected an expression between " ++ quoted s ++ " and ')'")
      | none => .error "invalid expression; you have too many ')'"
    | token :: _ =>
      let spelling := ((operator? token).map fun o => o.2.1).getD ""
      .error ("invalid expression; you have used a binary operator " ++ quoted spelling ++ " with nothing before it.")

/-- An expression with the signs that bind tighter than some strength. -/
def chain : Nat → Nat → Option String → List Token → Except String (Expression × List Token)
  | 0, _, _, _ => .error "invalid expression"
  | n + 1, strength, before, tokens =>
    match operand n before tokens with
    | .error e => .error e
    | .ok (e, rest) => continue_ n strength e rest

/-- An expression whose start is read. -/
def continue_ : Nat → Nat → Expression → List Token → Except String (Expression × List Token)
  | 0, _, _, _ => .error "invalid expression"
  | n + 1, strength, e, tokens =>
    match tokens with
    | [] => .ok (e, [])
    | .closing :: _ => .ok (e, tokens)
    | token :: rest =>
      -- where no sign stands, both conditions are to hold
      let (own, spelling, make, rest) : Nat × String × (Expression → Expression → Expression) × List Token :=
        match operator? token with
        | some (own, spelling, make) => (own, spelling, make, rest)
        | none => (3, "-a", .and, token :: rest)
      if own ≤ strength then .ok (e, tokens)
      else
        match chain n own (some spelling) rest with
        | .ok (b, rest) => continue_ n strength (make e b) rest
        | .error e => .error e

end

/-- The expression that tokens make. -/
def build (tokens : List Token) : Except String Expression :=
  match chain (4 * tokens.length + 8) 0 none tokens with
  | .ok (e, []) => .ok e
  | .ok _ => .error "you have too many ')'"
  | .error e => .error e

end Expression

/-- Whether a step does something, so that nothing more is done with what is found. -/
def Step.acts : Step → Bool
  | .print .. | .format .. | .list _ | .delete | .launch _ => true
  | _ => false

/-- An expression as the extended form reads it, from the form in which only some signs need a backslash. -/
def spelledOut : Nat → List Char → List Char
  | 0, _ => []
  | _ + 1, [] => []
  | n + 1, '\\' :: c :: cs =>
    if c == '(' || c == ')' || c == '|' then c :: spelledOut n cs else '\\' :: c :: spelledOut n cs
  | n + 1, '[' :: cs =>
    let lead := match cs with
      | '^' :: ']' :: _ => 2
      | '^' :: _ => 1
      | ']' :: _ => 1
      | _ => 0
    let inner := (cs.drop lead).takeWhile (· != ']')
    let size := lead + inner.length + 1
    '[' :: cs.take size ++ spelledOut n (cs.drop size)
  | n + 1, c :: cs =>
    if "()|\x7b\x7d".toList.contains c then '\\' :: c :: spelledOut n cs else c :: spelledOut n cs

/-- The forms of expressions by their names, and whether all signs are written without backslashes. -/
def regexForms : List (String × Option Regex.Style) :=
  [("findutils-default", none), ("ed", some Regex.basic), ("emacs", none), ("gnu-awk", some Regex.extended),
    ("grep", some Regex.basicSearch), ("posix-awk", some Regex.extended), ("awk", some Regex.extended),
    ("posix-basic", some Regex.basic), ("posix-egrep", some Regex.extendedSearch), ("egrep", some Regex.extendedSearch),
    ("posix-extended", some Regex.extended), ("posix-minimal-basic", some Regex.basic), ("sed", some Regex.basic)]

/-- The expression of a text in a form. -/
def regexOf (form : Option Regex.Style) (text : String) : Except String Regex :=
  let found := match form with
    | some style => Regex.parse style text.toList
    | none => Regex.parse Regex.extended (spelledOut (2 * text.length + 1) text.toList)
  found.map Prod.fst

/-! ### Formats -/

/-- The letters that tell of a file. -/
def factLetters : List Char := "abcdDfFgGhHiklmMnpPsStuUyYZ".toList

/-- The pieces of a format, with what is to be warned of. -/
def readFormat : Nat → List Char → Except String (List Piece × List String)
  | 0, _ => .ok ([], [])
  | _ + 1, [] => .ok ([], [])
  | n + 1, '\\' :: s =>
    let after (text : String) (warnings : List String) (rest : List Char) : Except String (List Piece × List String) :=
      (readFormat n rest).map fun (pieces, more) => (.text text :: pieces, warnings ++ more)
    match s with
    | [] => .ok ([.text "\\"], ["escape \x60\\' followed by nothing at all"])
    | 'c' :: _ => .ok ([.stop], [])
    | c :: cs =>
      let isOctal (c : Char) : Bool := '0' ≤ c && c ≤ '7'
      if isOctal c then
        let digits := (s.take 3).takeWhile isOctal
        let value := digits.foldl (fun n c => n * 8 + (c.toNat - 48)) 0 % 256
        after (String.singleton (Char.ofNat value)) [] (s.drop digits.length)
      else
        match ("abfnrtv\\".toList.zip ['\x07', '\x08', '\x0c', '\n', '\r', '\t', '\x0b', '\\']).lookup c with
        | some value => after (String.singleton value) [] cs
        | none =>
          let text := String.ofList ['\\', c]
          after text ["unrecognized escape \x60" ++ text ++ "'"] cs
  | n + 1, '%' :: s =>
    let flags := s.takeWhile fun c => "-+ #0".toList.contains c
    let rest := s.drop flags.length
    let width := rest.takeWhile Char.isDigit
    let rest := rest.drop width.length
    let value (cs : List Char) : Nat := cs.foldl (fun n c => n * 10 + (c.toNat - 48)) 0
    let (precision, rest) : Option (List Char) × List Char := match rest with
      | '.' :: more => (some (more.takeWhile Char.isDigit), more.dropWhile Char.isDigit)
      | rest => (none, rest)
    let d : Directive := {
      flags
      width := value width
      precision := precision.map value }
    let raw := '%' :: flags ++ width ++ (match precision with
      | some digits => '.' :: digits
      | none => [])
    let after (piece : Piece) (warnings : List String) (rest : List Char) : Except String (List Piece × List String) :=
      (readFormat n rest).map fun (pieces, more) => (piece :: pieces, warnings ++ more)
    match rest with
    | [] => .error "error: % at end of format string"
    | '%' :: rest => after (.text "%") [] rest
    | c :: rest =>
      if "ABCT".toList.contains c then
        match rest with
        | [] => .error ("error: " ++ String.ofList (raw ++ [c]) ++ " at end of format string")
        | letter :: rest => after (.time d letter) [] rest
      else if factLetters.contains c then after (.fact d c) [] rest
      else
        let text := String.ofList (raw ++ [c])
        after (.text text) ["unrecognized format directive \x60%" ++ String.singleton c ++ "'"] rest
  | n + 1, c :: s =>
    let plain := (c :: s).takeWhile fun c => c != '%' && c != '\\'
    (readFormat n ((c :: s).drop plain.length)).map fun (pieces, more) =>
      (.text (String.ofList plain) :: pieces, more)

end ClassLens.Tool.Finding
