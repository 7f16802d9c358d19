import ClassLens.Shell.Extended.Session
import ClassLens.Shell.Test
import ClassLens.Tool.Regex.Reader

/-! # Conditions of the extended language

What `test` says of its words, which counts them first, and what a condition between double brackets says,
whose words are neither split nor taken for names of files.

* `Judging.test`: the command `test`, and `[` with its closing bracket.
* `Judging.holds`: whether a condition between double brackets holds. -/

namespace ClassLens.Shell.Judging

/-- Whether a word is an operator that takes two operands. -/
def isBinary (s : String) : Bool := binaryTests.contains s

/-- Whether a word is an operator that takes one operand. -/
def isUnary (s : String) : Bool := unaryTests.contains s

/-- Whether a condition with one operand holds. -/
def holdsUnary (op word : String) : Run Bool := do
  let s ← shell
  match op with
  | "-v" =>
    let (name, sub) := splitSubscript word
    match sub with
    | none => return (s.parameter? name).isSome
    | some "@" | some "*" => return !(s.elements name).isEmpty
    | some t =>
      match ← slotOf name t with
      | some slot => return (s.element? name slot).isSome
      | none => return false
  | "-o" =>
    return match wideOptionNames.find? fun e => e.2 == word with
      | some (letter, _) => s.options.contains letter
      | none => false
  | "-R" => return ((s.vars.get? word).map Variable.refers).getD false
  | "-t" => return false
  | "-a" => Condition.holdsUnary "-e" word
  | "-N" => return false
  | "-r" | "-w" => Condition.holdsUnary "-e" word
  | op => Condition.holdsUnary op word

/-- The number that an operand of a comparison is. -/
def numberAt (s : String) : Run Int := do
  let limit : Int := Nat.pow 2 63
  match decimalOf? s with
  | some n => if -limit ≤ n ∧ n < limit then return n else refuse (s ++ ": integer expression expected")
  | none => refuse (s ++ ": integer expression expected")

/-- Whether two numbers compare as an operator says. -/
def compares (op : String) (a b : Int) : Bool :=
  match op with
  | "-eq" => a = b
  | "-ne" => a ≠ b
  | "-ge" => a ≥ b
  | "-gt" => a > b
  | "-le" => a ≤ b
  | _ => a < b

/-- Whether a condition of `test` with two operands holds. -/
def holdsBinary (left op right : String) : Run Bool := do
  match op with
  | "==" => return left = right
  | "-eq" | "-ne" | "-ge" | "-gt" | "-le" | "-lt" =>
    let a ← numberAt left
    let b ← numberAt right
    return compares op a b
  | op => Condition.holdsBinary left op right

mutual

/-- Conditions joined by `-o`, and the words after them. -/
def disjunction (fuel : Nat) (words : List String) : Run (Bool × List String) :=
  match fuel with
  | 0 => refuse "too many arguments"
  | fuel + 1 => do
    let (a, rest) ← conjunction fuel words
    match rest with
    | "-o" :: rest =>
      let (b, rest) ← disjunction fuel rest
      return (a || b, rest)
    | rest => return (a, rest)

/-- Conditions joined by `-a`, and the words after them. -/
def conjunction (fuel : Nat) (words : List String) : Run (Bool × List String) :=
  match fuel with
  | 0 => refuse "too many arguments"
  | fuel + 1 => do
    let (a, rest) ← term fuel words
    match rest with
    | "-a" :: rest =>
      let (b, rest) ← conjunction fuel rest
      return (a && b, rest)
    | rest => return (a, rest)

/-- One condition, and the words after it. -/
def term (fuel : Nat) (words : List String) : Run (Bool × List String) :=
  match fuel with
  | 0 => refuse "too many arguments"
  | fuel + 1 => do
    match words with
    | [] => refuse "argument expected"
    | "!" :: rest =>
      let (a, rest) ← term fuel rest
      return (!a, rest)
    | "(" :: rest =>
      let (a, rest) ← disjunction fuel rest
      match rest with
      | ")" :: rest => return (a, rest)
      | [] => refuse "\x60)' expected"
      | word :: _ => refuse ("\x60)' expected, found " ++ word)
    | word :: op :: right :: rest =>
      if isBinary op then return (← holdsBinary word op right, rest)
      else if isUnary word then return (← holdsUnary word op, right :: rest)
      else return (word ≠ "", op :: right :: rest)
    | [word, operand] =>
      if isUnary word then return (← holdsUnary word operand, [])
      else return (word ≠ "", [operand])
    | [word] => return (word ≠ "", [])

end

/-- Whether the condition of some words holds that are not counted. -/
def whole (words : List String) : Run Bool := do
  let (b, rest) ← disjunction (4 * words.length + 8) words
  match rest with
  | [] => return b
  | word :: _ => refuse (if word.startsWith "-" then "syntax error: \x60" ++ word ++ "' unexpected"
    else "too many arguments")

/-- Whether the condition of two words holds. -/
def two (a b : String) : Run Bool := do
  if a = "!" then return b = ""
  else if isUnary a then holdsUnary a b
  else refuse (a ++ ": unary operator expected")

/-- Whether the condition of three words holds. -/
def three (a op b : String) : Run Bool := do
  if isBinary op then holdsBinary a op b
  else if op = "-a" then return a ≠ "" && b ≠ ""
  else if op = "-o" then return a ≠ "" || b ≠ ""
  else if a = "!" then return !(← two op b)
  else if a = "(" ∧ b = ")" then return op ≠ ""
  else refuse (op ++ ": binary operator expected")

/-- Whether the condition of some words holds. -/
def judge : List String → Run Bool
  | [] => return false
  | [a] => return a ≠ ""
  | [a, b] => two a b
  | [a, b, c] => three a b c
  | [a, b, c, d] => do
    if a = "!" then return !(← three b c d)
    else if a = "(" ∧ d = ")" then two b c
    else whole [a, b, c, d]
  | words => whole words

/-- The command `test`, and `[` with its closing bracket. -/
def test (name : String) (args : List String) : Run Nat := do
  let body : Run Nat := do
    let words ← if name ≠ "[" then pure args
      else if args.getLast? == some "]" then pure args.dropLast
      else refuse "missing \x60]'"
    return if ← judge words then 0 else 1
  match ← attempt body with
  | .ok n => return n
  | .error .fault => return 2
  | .error e => throw e

/-! ### Between double brackets -/

/-- The text of a regular expression: quoted characters stand for themselves. -/
def regexText (ms : List Marked) : List Char :=
  ms.flatMap fun (c, isQuoted) =>
    if isQuoted && "\\^$.|?*+()[]\x7b\x7d".toList.contains c then ['\\', c] else [c]

/-- Whether a text matches a regular expression; what its groups have matched is kept. -/
def matchesRegex (text : String) (ms : List Marked) : Run (Option Bool) := do
  let s ← shell
  match Tool.Regex.parse Tool.Regex.extended (regexText ms) with
  | .error _ => return none
  | .ok (r, count) =>
    let whole := text.toList
    match Tool.Regex.find r (s.features.contains "nocasematch") whole 0 with
    | none =>
      storeAll "BASH_REMATCH" []
      return some false
    | some hit =>
      let cut (start stop : Nat) : String := String.ofList ((whole.drop start).take (stop - start))
      let groups := (List.range count).map fun i =>
        match hit.groups.find? fun g => g.1 == i + 1 with
        | some (_, start, stop) => cut start stop
        | none => ""
      storeAll "BASH_REMATCH" (cut hit.start hit.stop :: groups)
      return some true

/-- A pattern as it is shown before it is used. -/
def shownPattern (ms : List Marked) : String :=
  String.ofList (ms.flatMap fun (c, isQuoted) => if isQuoted then ['\\', c] else [c])

/-- Shows a condition before it is judged. -/
def traceTest (negated : Bool) (parts : List String) : Run Unit :=
  trace (["[["] ++ (if negated then ["!"] else []) ++ parts ++ ["]]"])

/-- A word of a condition as it is shown. -/
def shownWord (s : String) : String := if s = "" then "''" else s

/-- Whether a condition holds; none where it makes no sense. A denied one is shown as such. -/
def holds (output : List Program → Run String) (negated : Bool) : Test → Run (Option Bool)
  | .word w => do
    let text ← expandText output w
    traceTest negated ["-n", shownWord text]
    return some (text ≠ "")
  | .not t => return (← holds output (!negated) t).map (!·)
  | .both a b => do
    match ← holds output false a with
    | some true => holds output false b
    | r => return r
  | .either a b => do
    match ← holds output false a with
    | some false => holds output false b
    | r => return r
  | .unary op w => do
    let text ← expandText output w
    traceTest negated [op, shownWord text]
    return some (← holdsUnary op text)
  | .binary op left right => do
    let a ← expandText output left
    if ["=", "==", "!=", "=~"].contains op then
      let ms ← expandPattern output right
      let shown := shownPattern ms
      traceTest negated [shownWord a, op, shownWord shown]
      if op = "=~" then return ← matchesRegex a ms
      let foldsCase := (← shell).features.contains "nocasematch"
      return some (Reshaping.acceptor true foldsCase ms a.toList != (op = "!="))
    else
      let b ← expandText output right
      traceTest negated [shownWord a, op, shownWord b]
      if ["-eq", "-ne", "-ge", "-gt", "-le", "-lt"].contains op then
        let m ← calculate a
        let n ← calculate b
        return some (compares op m n)
      else
        match op with
        | "<" => return some (a < b)
        | ">" => return some (b < a)
        | op => return some (← Condition.holdsBinary a op b)

end ClassLens.Shell.Judging
