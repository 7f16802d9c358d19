import ClassLens.Shell.Test
import ClassLens.Shell.Format
import ClassLens.Tool.Basic
import ClassLens.Tool.Regex.Reader

/-! # Programs that compute values

`seq`, `expr`, `basename`, `dirname` and the programs with the names of builtin commands: what they write
comes from their arguments.

* `Expression.value`: the value of the words of `expr`. -/

namespace ClassLens.Tool

open Shell

/-! ### Numbers in a row -/

/-- A decimal number: whether it is negative, its digits as a whole number, and how many are places. -/
structure Decimal where
  value : Int
  places : Nat

/-- The number of a text. -/
def Decimal.ofText? (s : String) : Option Decimal :=
  let (negative, body) := match s.toList with
    | '-' :: cs => (true, cs)
    | '+' :: cs => (false, cs)
    | cs => (false, cs)
  let whole := body.takeWhile Char.isDigit
  let rest := body.drop whole.length
  let (part, rest) := match rest with
    | '.' :: cs => (cs.takeWhile Char.isDigit, cs.dropWhile Char.isDigit)
    | rest => ([], rest)
  let exponent : Option Int := match rest with
    | [] => some 0
    | 'e' :: cs | 'E' :: cs =>
      let ds := if cs.head? = some '+' then cs.tail else cs
      ((String.ofList ds).toInt?).map fun e => max (-1000) (min e 1000)
    | _ => none
  match exponent with
  | some e =>
    if whole.isEmpty && part.isEmpty then none
    else
      let n : Nat := (whole ++ part).foldl (fun n c => n * 10 + (c.toNat - 48)) 0
      let places := (part.length : Int) - e
      let n := n * Nat.pow 10 (-places).toNat
      some ⟨if negative then -n else n, places.toNat⟩
  | none => none

/-- A number with so many places. -/
def Decimal.scaled (d : Decimal) (places : Nat) : Int := d.value * Nat.pow 10 (places - d.places)

/-- A scaled number as a text, filled up with zeros to a width. -/
def scaledText (places width : Nat) (n : Int) : String :=
  let ds := toString n.natAbs
  let ds := String.ofList (List.replicate (places + 1 - ds.length) '0') ++ ds
  let body := if places = 0 then ds
    else (ds.take (ds.length - places)).toString ++ "." ++ (ds.drop (ds.length - places)).toString
  let sign := if n < 0 then "-" else ""
  sign ++ String.ofList (List.replicate (width - body.length - sign.length) '0') ++ body

/-- The numbers from one to another in steps. -/
def row (stop step : Int) : Nat → Int → List Int
  | 0, _ => []
  | n + 1, x =>
    if (step > 0 && x > stop) || (step < 0 && x < stop) then [] else x :: row stop step n (x + step)

/-- Writes numbers in a row. -/
def seq : Tool := fun self args =>
  let isNumber (a : String) : Bool := (Decimal.ofText? a).isSome
  let options := args.takeWhile fun a => !isNumber a
  let numbers := args.drop options.length
  let o : Options := {
    flags := ['w']
    valued := ['s', 'f']
    names := [("equal-width", 'w'), ("separator", 's'), ("format", 'f')] }
  let options := match options.getLast?, numbers with
    | some last, n :: rest => if last = "-s" ∨ last = "-f" then (options ++ [n], rest) else (options, numbers)
    | _, _ => (options, numbers)
  o.readFirst self options.1 1 fun g => do
    let operands := g.operands ++ options.2
    match operands.find? fun a => !isNumber a with
    | some bad => usage self ("invalid floating point argument: " ++ quoted bad) 1
    | none =>
      let ds := operands.filterMap Decimal.ofText?
      match ds with
      | [] => usage self "missing operand" 1
      | _ :: _ :: _ :: _ :: _ => usage self ("extra operand " ++ quoted ((operands[3]?).getD "")) 1
      | _ =>
        let first : Decimal := if ds.length = 1 then ⟨1, 0⟩ else ds.headD ⟨1, 0⟩
        let step : Decimal := if ds.length = 3 then (ds[1]?).getD ⟨1, 0⟩ else ⟨1, 0⟩
        let last := ds.getLast?.getD ⟨0, 0⟩
        if step.value = 0 then
          usage self ("invalid Zero increment value: " ++ quoted ((operands[1]?).getD "")) 1
        else
          let shown := max first.places step.places
          let places := max shown last.places
          let all := row (last.scaled places) (step.scaled places) 1000000 (first.scaled places)
          let cut (n : Int) : Int := n / Nat.pow 10 (places - shown)
          let plain := all.map fun n => scaledText shown 0 (cut n)
          let width := if g.has 'w' then plain.foldl (fun n s => max n s.length) 0 else 0
          let texts := match g.value? 'f' with
            | some f => plain.map fun s => (printFormat .program f [s]).output
            | none => all.map fun n => scaledText shown width (cut n)
          if !texts.isEmpty then
            say (((g.value? 's').getD "\n").intercalate texts ++ "\n")
          return 0

/-! ### Expressions -/

namespace Expression

/-- Why an expression has no value. -/
inductive Fault where
  | wrongUse (message : String)
  | wrongValue (message : String)

/-- Whether a value counts as false. -/
def isFalse (s : String) : Bool :=
  s = "" || (match s.toList with
    | '-' :: cs => !cs.isEmpty && cs.all (· == '0')
    | cs => cs.all (· == '0'))

/-- The number of a value. -/
def number (s : String) : Except Fault Int :=
  match s.toList with
  | '-' :: cs => if !cs.isEmpty && cs.all Char.isDigit then
      .ok (-((String.ofList cs).toNat?.getD 0 : Nat)) else bad
  | cs => if !cs.isEmpty && cs.all Char.isDigit then .ok (s.toNat?.getD 0 : Nat) else bad
where
  /-- The fault of a value that is no number. -/
  bad : Except Fault Int := .error (.wrongValue "non-integer argument")

/-- Binary operators by how tightly they bind. -/
def levels : List (List String) :=
  [["|"], ["&"], ["<", "<=", "=", "==", "!=", ">=", ">"], ["+", "-"], ["*", "/", "%"], [":"]]

/-- What a pattern matches at the start of a text: its first group, or how many characters. -/
def matched (text pattern : String) : Except Fault String :=
  match Regex.parse { Regex.basic with refusesBareClass := false } pattern.toList with
  | .error e => .error (.wrongValue e)
  | .ok (r, groups) =>
    let cs := text.toList
    match r.matchAt false cs { before := [], after := cs, pos := 0 } with
    | none => .ok (if groups > 0 then "" else "0")
    | some hit =>
      if groups > 0 then
        match hit.groups.find? fun g => g.1 == 1 with
        | some g => .ok (String.ofList ((cs.drop g.2.1).take (g.2.2 - g.2.1)))
        | none => .ok ""
      else .ok (toString hit.stop)

/-- The value of an operator. -/
def apply (op a b : String) : Except Fault String :=
  let order : Ordering :=
    match number a, number b with
    | .ok x, .ok y => compare x y
    | _, _ => compare a b
  let truth (b : Bool) : Except Fault String := .ok (if b then "1" else "0")
  match op with
  | "|" => .ok (if !isFalse a then a else if !isFalse b then b else "0")
  | "&" => .ok (if isFalse a || isFalse b then "0" else a)
  | "<" => truth (order == .lt)
  | "<=" => truth (order != .gt)
  | "=" | "==" => truth (order == .eq)
  | "!=" => truth (order != .eq)
  | ">=" => truth (order != .lt)
  | ">" => truth (order == .gt)
  | ":" => matched a b
  | op =>
    match number a, number b with
    | .ok x, .ok y =>
      match op with
      | "+" => .ok (toString (x + y))
      | "-" => .ok (toString (x - y))
      | "*" => .ok (toString (x * y))
      | op =>
        if y = 0 then .error (.wrongValue "division by zero")
        else .ok (toString (if op = "/" then Int.tdiv x y else Int.tmod x y))
    | .error e, _ | _, .error e => .error e

mutual

/-- The value of operators of a level and those that bind more tightly, and the words that follow. -/
def binary (fuel : Nat) (before : String) (ls : List (List String)) (words : List String) :
    Except Fault (String × List String) :=
  match fuel with
  | 0 => .error (.wrongUse "syntax error")
  | fuel + 1 =>
    match ls with
    | [] => single fuel before words
    | level :: tighter =>
      match binary fuel before tighter words with
      | .error e => .error e
      | .ok (value, rest) => binaryFrom fuel level tighter value rest

/-- The rest of a row of operators of one level. -/
def binaryFrom (fuel : Nat) (level : List String) (tighter : List (List String)) (value : String)
    (words : List String) : Except Fault (String × List String) :=
  match fuel with
  | 0 => .error (.wrongUse "syntax error")
  | fuel + 1 =>
    match words with
    | op :: rest =>
      if level.contains op then
        match binary fuel op tighter rest with
        | .error e => .error e
        | .ok (second, rest) =>
          match apply op value second with
          | .error e => .error e
          | .ok value => binaryFrom fuel level tighter value rest
      else .ok (value, words)
    | [] => .ok (value, [])

/-- The value of a word, of an expression in brackets, or of a function of texts. -/
def single (fuel : Nat) (before : String) (words : List String) : Except Fault (String × List String) :=
  match fuel with
  | 0 => .error (.wrongUse "syntax error")
  | fuel + 1 =>
    let arg (before : String) (ws : List String) : Except Fault (String × List String) :=
      single fuel before ws
    match words with
    | [] => .error (.wrongUse (if before = "" then "missing operand"
        else "syntax error: missing argument after '" ++ before ++ "'"))
    | "(" :: rest =>
      match binary fuel "(" levels rest with
      | .error e => .error e
      | .ok (value, ")" :: rest) => .ok (value, rest)
      | .ok (_, word :: _) => .error (.wrongUse ("syntax error: expecting ')' instead of '" ++ word ++ "'"))
      | .ok (_, []) => .error (.wrongUse ("syntax error: expecting ')' after '" ++
          (words.getLast?).getD "" ++ "'"))
    | ")" :: _ => .error (.wrongUse "syntax error: unexpected ')'")
    | "+" :: word :: rest => .ok (word, rest)
    | ["+"] => .error (.wrongUse "syntax error: missing argument after '+'")
    | "length" :: rest =>
      (arg "length" rest).map fun (a, rest) => (toString a.length, rest)
    | "match" :: rest =>
      match arg "match" rest with
      | .error e => .error e
      | .ok (a, rest) =>
        match arg a rest with
        | .error e => .error e
        | .ok (b, rest) => (matched a b).map fun v => (v, rest)
    | "index" :: rest =>
      match arg "index" rest with
      | .error e => .error e
      | .ok (a, rest) =>
        (arg a rest).map fun (b, rest) =>
          (toString (((a.toList.findIdx? b.toList.contains).map (· + 1)).getD 0), rest)
    | "substr" :: rest =>
      match arg "substr" rest with
      | .error e => .error e
      | .ok (a, rest) =>
        match arg a rest with
        | .error e => .error e
        | .ok (b, rest) =>
          (arg b rest).map fun (c, rest) =>
            match number b, number c with
            | .ok i, .ok n =>
              (if i ≤ 0 ∨ n ≤ 0 then "" else ((a.drop (i.toNat - 1)).take n.toNat).toString, rest)
            | _, _ => ("", rest)
    | word :: rest => .ok (word, rest)

end

/-- The value of words. -/
def value (words : List String) : Except Fault String :=
  match binary (32 * words.length + 64) "" levels words with
  | .error e => .error e
  | .ok (v, []) => .ok v
  | .ok (_, word :: _) => .error (.wrongUse ("syntax error: unexpected argument '" ++ word ++ "'"))

end Expression

/-- Writes the value of an expression. -/
def expr : Tool := fun self args => do
  let words := if args.head? == some "--" then args.tail else args
  match Expression.value words with
  | .ok v =>
    say (v ++ "\n")
    return if Expression.isFalse v then 1 else 0
  | .error (.wrongValue e) =>
    complain self e
    return 2
  | .error (.wrongUse e) =>
    if e = "missing operand" then usage self e 2
    else
      complain self e
      return 2

/-! ### Paths -/

/-- A path without the slashes at its end. -/
def dropSlashes (s : String) : String :=
  let kept := (s.toList.reverse.dropWhile (· == '/')).reverse
  if kept.isEmpty && !s.isEmpty then "/" else String.ofList kept

/-- Writes the last pieces of paths. -/
def basename : Tool := fun self args =>
  let o : Options := {
    flags := ['a', 'z']
    valued := ['s']
    names := [("multiple", 'a'), ("suffix", 's')] }
  o.readFirst self args 1 fun g => do
    let name (path suffix : String) : String :=
      let s := dropSlashes path
      let last := if s = "/" then s else (s.splitOn "/").getLast?.getD s
      if suffix ≠ "" ∧ last.endsWith suffix ∧ last ≠ suffix then (last.dropEnd suffix.length).toString
      else last
    match g.operands with
    | [] => usage self "missing operand" 1
    | paths =>
      if g.has 'a' || g.has 's' then
        for p in paths do say (name p ((g.value? 's').getD "") ++ "\n")
        return 0
      else
        match paths with
        | _ :: _ :: extra :: _ => usage self ("extra operand " ++ quoted extra) 1
        | path :: rest =>
          say (name path (rest.headD "") ++ "\n")
          return 0
        | [] => return 0

/-- Writes paths without their last pieces. -/
def dirname : Tool := fun self args =>
  ({ flags := ['z'] } : Options).read self args 1 fun g => do
    match g.operands with
    | [] => usage self "missing operand" 1
    | paths =>
      for p in paths do
        let s := dropSlashes p
        let dir := if s = "/" then "/"
          else
            let pieces := s.splitOn "/"
            if pieces.length = 1 then "."
            else
              let kept := dropSlashes ("/".intercalate pieces.dropLast)
              if kept = "" then "/" else kept
        say (dir ++ "\n")
      return 0

/-! ### Programs that are also builtin commands -/

/-- Writes its arguments, with escapes only where that is asked for. -/
def echo : Tool := fun _ args => do
  let isOption (a : String) : Bool :=
    match a.toList with
    | '-' :: c :: cs => (c :: cs).all fun c => c == 'n' || c == 'e' || c == 'E'
    | _ => false
  let options := args.takeWhile isOption
  let letters := options.flatMap String.toList
  let text := " ".intercalate (args.drop options.length)
  let escapes := (letters.filter fun c => c == 'e' || c == 'E').getLast? == some 'e'
  let stop := if letters.contains 'n' then "" else "\n"
  if escapes then
    let (cs, ended) := unescape .echo (text.length + 1) text.toList
    say (String.ofList cs ++ (if ended matches .whole then stop else ""))
  else say (text ++ stop)
  return 0

/-- Writes its arguments by a format. -/
def printf : Tool := fun self args => do
  match if args.head? == some "--" then args.tail else args with
  | [] => usage self "missing operand" 1
  | format :: args =>
    let done := printFormat .program format args
    let mut written := 0
    for (place, message) in done.messages do
      say ((done.output.drop written).take (place - written)).toString
      written := place
      complain self message
    say (done.output.drop written).toString
    if !done.args.isEmpty && !done.isOver then
      complain self ("warning: ignoring excess arguments, starting with " ++ quoted (done.args.headD ""))
    return if done.isFaulty then 1 else 0

/-- Whether a condition holds; its faults are told under the name of the program. -/
def condition : Tool := fun self args => do
  modifyShell fun s => { s with name := self, builtin := none }
  match ← attempt (Condition.run (if self.endsWith "[" then "[" else "test") args) with
  | .ok n => return n
  | .error _ => return 2

/-! ### Small programs -/

/-- Writes a line without end, until nobody reads any more or its time is over. -/
def yes : Tool := fun self args => do
  let isPlain := args.head? == some "--"
  let args := if isPlain then args.tail else args
  if let some bad := if isPlain then none else args.find? fun a => a.startsWith "-" && a.length > 1 then
    if bad.startsWith "--" then return ← usage self ("unrecognized option '" ++ bad ++ "'") 1
    return ← usage self ("invalid option -- '" ++ ((bad.drop 1).take 1).toString ++ "'") 1
  let line := (if args.isEmpty then "y" else " ".intercalate args) ++ "\n"
  say (String.join (List.replicate (65536 / line.length + 1) line))
  pass none 16
  throw (.killed 13)

/-- Writes a line that is always the same. -/
def always (line : String) : Tool := fun _ _ => do
  say (line ++ "\n")
  return 0

/-- Writes who runs the program. -/
def idOf : Tool := fun _ args => do
  let letters := (args.filter fun a => a.startsWith "-").flatMap String.toList
  if letters.contains 'n' then say "root\n"
  else if letters.any fun c => c == 'u' || c == 'g' || c == 'G' then say "0\n"
  else say "uid=0(root) gid=0(root) groups=0(root)\n"
  return 0

/-- Writes the name of the system. -/
def uname : Tool := fun _ args => do
  let letters := args.flatMap fun a => a.toList.filter (· != '-')
  let shown := if letters.isEmpty then ["Linux"]
    else letters.filterMap fun c => match c with
      | 's' => some "Linux"
      | 'm' | 'p' | 'i' => some "x86_64"
      | 'o' => some "GNU/Linux"
      | _ => none
  say (" ".intercalate shown ++ "\n")
  return 0

/-- Writes the directory. -/
def pwd : Tool := fun _ _ => do
  say (ofBytes (Path.ofPieces true (← shell).directory).bytes ++ "\n")
  return 0

/-- Writes the values of variables. -/
def printenv : Tool := fun _ args => do
  let vars := (← shell).exported
  match args with
  | [] =>
    for (name, value) in vars do say (name ++ "=" ++ value ++ "\n")
    return 0
  | names =>
    let found ← names.mapM fun name => do
      match vars.find? fun v => v.1 == name with
      | some v =>
        say (v.2 ++ "\n")
        return true
      | none => return false
    return if found.all id then 0 else 1

end ClassLens.Tool
