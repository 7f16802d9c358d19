import ClassLens.Shell.Expansion

/-! # Conditions

What `test` and `[` say of their operands. With three operands the middle one decides; with more the
operators bind as in a sum of products, and `!` stands before one of them.

* `Condition.holds`: whether a condition holds.

The words stay where they are while they are read: an operand that looks like an operator is one only
where no operator follows it. -/

namespace ClassLens.Shell

/-- A decimal number with a sign and blanks around it. -/
def decimalOf? (s : String) : Option Int :=
  let isBlank (c : Char) : Bool := c == ' ' || (9 ≤ c.toNat && c.toNat ≤ 13)
  let s := ((s.toList.dropWhile isBlank).reverse.dropWhile isBlank).reverse
  let (negative, ds) := match s with
    | '-' :: ds => (true, ds)
    | '+' :: ds => (false, ds)
    | ds => (false, ds)
  if ds.isEmpty || !ds.all Char.isDigit then none
  else
    let n : Nat := ds.foldl (fun n c => n * 10 + (c.toNat - 48)) 0
    some (if negative then -n else n)

namespace Condition

/-- How an operator takes its operands. -/
inductive Kind where
  | unary
  | binary
  | sign
  deriving DecidableEq

/-- The kind of an operator. -/
def kind? (s : String) : Option Kind :=
  if ["-r", "-w", "-x", "-e", "-f", "-d", "-c", "-b", "-p", "-u", "-g", "-k", "-s", "-t", "-z", "-n",
      "-h", "-L", "-O", "-G", "-S"].contains s then some .unary
  else if ["=", "!=", "<", ">", "-eq", "-ne", "-ge", "-gt", "-le", "-lt", "-nt", "-ot", "-ef"].contains s
    then some .binary
  else if ["!", "-a", "-o", "(", ")"].contains s then some .sign
  else none

/-- The operator at the start of some words. -/
def operator? : List String → Option (String × Kind)
  | [] => none
  | s :: rest =>
    match kind? s with
    | some .unary =>
      match rest with
      | [] => none
      | next :: more =>
        if !more.isEmpty && kind? next == some .binary then none else some (s, .unary)
    | some k => if s = "(" ∧ rest = [] then none else some (s, k)
    | none => none

/-- Refuses a condition, naming a word of it. -/
def refuseAt {α : Type} (word message : String) : Run α :=
  refuse (if word = "" then message else word ++ ": " ++ message)

/-- The number that an operand is. -/
def numberAt (s : String) : Run Int := do
  match decimalOf? s with
  | some n => return n
  | none => refuse ("Illegal number: " ++ s)

/-- Whether a condition with one operand holds. -/
def holdsUnary (op word : String) : Run Bool := do
  let t ← tree
  let path : Path := ⟨toBytes word⟩
  match op with
  | "-z" => return word.isEmpty
  | "-n" => return !word.isEmpty
  | "-t" =>
    let _ ← numberAt word
    return false
  | "-h" | "-L" => return t.isLink path
  | _ =>
    if let some _ := ← (descriptorOf? word).bindM channelOf then return ["-e", "-r", "-w", "-p"].contains op
    match t.nodeOf? path with
    | none => return false
    | some node =>
      match op, node with
      | "-f", .file .. => return true
      | "-d", .directory => return true
      | "-c", .sink | "-c", .zeros => return true
      | "-s", .file content _ => return !content.isEmpty
      | "-s", .directory => return true
      | "-x", .file _ runs => return runs
      | "-x", .directory => return true
      | "-u", _ | "-g", _ | "-k", _ =>
        let bit := if op = "-u" then 0o4000 else if op = "-g" then 0o2000 else 0o1000
        return ((t.locate path).toOption.map fun here => t.modeAt here &&& bit) == some bit
      | op, _ => return ["-e", "-r", "-w", "-O", "-G"].contains op

/-- Whether a condition with two operands holds. -/
def holdsBinary (left op right : String) : Run Bool := do
  match op with
  | "=" => return left = right
  | "!=" => return left ≠ right
  | "<" => return left < right
  | ">" => return right < left
  | "-nt" | "-ot" =>
    let t ← tree
    let isNewer (a b : String) : Bool :=
      match t.locate ⟨toBytes a⟩, t.locate ⟨toBytes b⟩ with
      | .ok a, .ok b => t.isOlder b a
      | .ok _, .error _ => true
      | .error _, _ => false
    return if op = "-nt" then isNewer left right else isNewer right left
  | "-ef" =>
    let t ← tree
    return match t.locate ⟨toBytes left⟩, t.locate ⟨toBytes right⟩ with
      | .ok a, .ok b => a = b
      | _, _ => false
  | op =>
    let a ← numberAt left
    let b ← numberAt right
    return match op with
      | "-eq" => a = b
      | "-ne" => a ≠ b
      | "-ge" => a ≥ b
      | "-gt" => a > b
      | "-le" => a ≤ b
      | _ => a < b

mutual

/-- A condition of parts joined by `-o`, and the words from the last one that was taken on. -/
def alternatives (fuel : Nat) (words : List String) : Run (Bool × List String) :=
  match fuel with
  | 0 => throw .fault
  | fuel + 1 => do
    let (first, rest) ← factors fuel words
    match operator? rest.tail with
    | some ("-o", _) =>
      let (second, rest) ← alternatives fuel (rest.drop 2)
      return (first || second, rest)
    | _ => return (first, rest)

/-- A condition of parts joined by `-a`. -/
def factors (fuel : Nat) (words : List String) : Run (Bool × List String) :=
  match fuel with
  | 0 => throw .fault
  | fuel + 1 => do
    let (first, rest) ← negations fuel words
    match operator? rest.tail with
    | some ("-a", _) =>
      let (second, rest) ← factors fuel (rest.drop 2)
      return (first && second, rest)
    | _ => return (first, rest)

/-- A condition that may have `!` before it. -/
def negations (fuel : Nat) (words : List String) : Run (Bool × List String) :=
  match fuel with
  | 0 => throw .fault
  | fuel + 1 => do
    match operator? words with
    | some ("!", _) =>
      let after := if words.tail.isEmpty then words else words.tail
      if words.tail.isEmpty then return (true, after)
      let (b, rest) ← negations fuel after
      return (!b, rest)
    | _ => primary fuel words

/-- A condition of one operator or one word. -/
def primary (fuel : Nat) (words : List String) : Run (Bool × List String) :=
  match fuel with
  | 0 => throw .fault
  | fuel + 1 => do
    match words with
    | [] => return (false, [])
    | word :: rest =>
      match operator? words with
      | some ("(", _) =>
        if operator? rest matches some (")", _) then return (false, rest)
        let (b, rest) ← alternatives fuel rest
        if operator? rest.tail matches some (")", _) then return (b, rest.tail)
        refuse "closing paren expected"
      | some (op, .unary) =>
        match rest with
        | operand :: _ => return (← holdsUnary op operand, rest)
        | [] => refuseAt op "argument expected"
      | _ =>
        match operator? rest with
        | some (op, .binary) =>
          match rest.tail with
          | right :: _ => return (← holdsBinary word op right, rest.tail)
          | [] => refuseAt op "argument expected"
        | _ => return (!word.isEmpty, words)

end

/-- Whether the condition of some words holds as it stands. -/
def holdsPlain (words : List String) : Run Bool := do
  let (b, rest) ← alternatives (16 * words.length + 16) words
  match rest with
  | word :: _ :: _ => refuseAt word "unexpected operator"
  | _ => return b

/-- Whether the condition of some words holds. With three or four words a `!` at the start denies the
rest, and more than one of them no more than one. -/
def holds : List String → Run Bool
  | [] => return false
  | [a, op, b] =>
    if kind? op = some .binary then holdsBinary a op b
    else if a = "(" ∧ b = ")" then holdsPlain [op]
    else if a = "!" then return !(← holdsPlain [op, b])
    else holdsPlain [a, op, b]
  | ["(", b, c, ")"] => holdsPlain [b, c]
  | ["!", b, op, c] => do
    if kind? op = some .binary then return !(← holdsBinary b op c)
    else if b = "(" ∧ c = ")" then return !(← holdsPlain [op])
    else if b = "!" then return !(← holdsPlain [op, c])
    else return !(← holdsPlain [b, op, c])
  | words => holdsPlain words

/-- The command `test`, and `[` with its closing bracket. -/
def run (name : String) (args : List String) : Run Nat := do
  let words ←
    if name = "[" then
      if ((args.getLast?.getD "").toList.head?) = some ']' then pure args.dropLast
      else refuse "missing ]"
    else pure args
  return if ← holds words then 0 else 1

end Condition

end ClassLens.Shell
