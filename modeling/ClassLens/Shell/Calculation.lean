import ClassLens.Shell.Arithmetic
import ClassLens.Shell.Items

/-! # Calculations of the extended language

Expressions of whole numbers of 64 bits that read and set variables while they are worked out: the values of
variables are expressions themselves, and both may have subscripts.

* `calculate`: the value of an expression.
* `slotOf`: the place that a subscript names. -/

namespace ClassLens.Shell

/-- A sign of an expression. -/
inductive Mark where
  | finish
  | number
  | name
  /-- Signs after and before a variable that count it up or down. -/
  | after (up : Bool)
  | before (up : Bool)
  /-- An operation joined with an assignment. -/
  | update (operation : String)
  | sign (s : String)
  deriving DecidableEq

/-- What a name in an expression stands for. -/
structure Holder where
  name : String
  subscript : Option (List Char) := none

/-- Where a calculation stands. -/
structure Calculating where
  /-- The expression as it is told with a fault. -/
  whole : List Char
  rest : List Char
  /-- The expression from the last sign on. -/
  last : List Char := []
  current : Mark := .finish
  previous : Mark := .finish
  value : Int := 0
  holder : Option Holder := none
  /-- Whether nothing is to be read, set or divided. -/
  isIdle : Bool := false

/-- A part of a calculation; a fault ends it with what is told. -/
abbrev Calculation := ExceptT String (StateT Calculating Run)

namespace Calculation

/-- A fault in an expression at its last sign. -/
def fail {α : Type} (message : String) : Calculation α := do
  let c ← get
  let isBlank (d : Char) : Bool := d == ' ' || d == '\t'
  throw (String.ofList (c.whole.dropWhile isBlank) ++ ": " ++ message ++ " (error token is \"" ++
    String.ofList c.last ++ "\")")

/-- A character that may stand between signs. -/
def isBlank (c : Char) : Bool := c == ' ' || c == '\t' || c == '\n' || c == '\x0d'

/-- A character of a name. -/
def isNameChar (c : Char) : Bool := c.isAlphanum || c == '_'

/-- The signs of two characters. -/
def pairs : List String := ["==", "!=", ">=", "<=", "<<", ">>", "&&", "||", "**"]

/-- The signs of one character. -/
def singles : List Char := "=><+-*/%!()&|^~?:,".toList

/-- The value of a digit. -/
def digitOf (base : Int) (c : Char) : Int :=
  if c.isDigit then c.toNat - 48
  else if 'a' ≤ c ∧ c ≤ 'z' then c.toNat - 87
  else if 'A' ≤ c ∧ c ≤ 'Z' then (if base ≤ 36 then c.toNat - 55 else c.toNat - 29)
  else if c = '@' then 62 else 63

/-- The number that some characters are, or what is wrong with it. -/
def constant (s : List Char) : Except String Int :=
  let (base, s, hasBase) : Int × List Char × Bool := match s with
    | '0' :: x :: rest => if x == 'x' || x == 'X' then (16, rest, true) else (8, x :: rest, true)
    | s => (10, s, false)
  let rec go (base value : Int) (hasBase : Bool) : List Char → Except String Int
    | [] => .ok value
    | '#' :: rest =>
      if hasBase then .error "invalid number"
      else if value < 2 ∨ value > 64 then .error "invalid arithmetic base"
      else if rest.isEmpty then .error "invalid integer constant"
      else go value 0 true rest
    | c :: rest =>
      let d := digitOf base c
      if d ≥ base then .error "value too great for base"
      else go base (Arithmetic.wrap (value * base + d)) hasBase rest
  go base 0 hasBase s

/-- The characters up to the bracket that closes a subscript. -/
def bracketed : Nat → List Char → Option (List Char × List Char)
  | _, [] => none
  | depth, ']' :: s => if depth = 0 then some ([], s) else (bracketed (depth - 1) s).map fun (t, r) => (']' :: t, r)
  | depth, '[' :: s => (bracketed (depth + 1) s).map fun (t, r) => ('[' :: t, r)
  | depth, c :: s => (bracketed depth s).map fun (t, r) => (c :: t, r)

/-- An operation on two numbers. -/
def operate (op : String) (a b : Int) : Int :=
  match Arithmetic.apply op a b with
  | .ok n => n
  | .error _ => 0

/-- A power, which wraps around. -/
def power (a : Int) : Nat → Int
  | 0 => 1
  | n + 1 =>
    let half := power a ((n + 1) / 2)
    let square := Arithmetic.wrap (half * half)
    if (n + 1) % 2 = 1 then Arithmetic.wrap (square * a) else square
termination_by n => n
decreasing_by omega

/-- The levels of operators of two operands, those that bind the least first. -/
def levels : List (List String) :=
  [["|"], ["^"], ["&"], ["==", "!="], ["<=", ">=", "<", ">"], ["<<", ">>"], ["+", "-"], ["*", "/", "%"]]

mutual

/-- Reads the next sign. -/
def advance (fuel : Nat) : Calculation Unit :=
  match fuel with
  | 0 => fail "expression recursion level exceeded"
  | fuel + 1 => do
    let c ← get
    let s := c.rest.dropWhile isBlank
    match s with
    | [] => set { c with previous := c.current, current := .finish, rest := [] }
    | d :: more =>
      set { c with last := s }
      let accept (m : Mark) (rest : List Char) : Calculation Unit :=
        modify fun c => { c with previous := c.current, current := m, rest }
      if d.isAlpha || d == '_' then
        let name := s.takeWhile isNameChar
        let after := s.drop name.length
        let (subscript, after) ← match after with
          | '[' :: inner =>
            match bracketed 0 inner with
            | some (text, rest) => pure (some text, rest)
            | none => fail "bad array subscript"
          | _ => pure (none, after)
        let holder : Holder := { name := String.ofList name, subscript }
        let next := after.dropWhile isBlank
        let isSet := next.head? == some '=' && (next.drop 1).head? != some '='
        let isCounted := match c.current with
          | .before _ => true
          | _ => false
        let value ← if (isSet && !isCounted) || c.isIdle then pure 0 else valueOf fuel holder
        modify fun c => { c with holder := some holder, value }
        accept .name after
      else if d.isDigit then
        let word := s.takeWhile fun e => e.isAlphanum || e == '#' || e == '@' || e == '_'
        match constant word with
        | .ok n =>
          modify fun c => { c with value := n }
          accept .number (s.drop word.length)
        | .error e =>
          modify fun c => { c with
            last := word, whole := c.whole.take (c.whole.length - (s.drop word.length).length) }
          fail e
      else
        let two := String.ofList (s.take 2)
        let third := s[2]?
        if (two == "<<" || two == ">>") && third == some '=' then accept (.update two) (s.drop 3)
        else if pairs.contains two then accept (.sign two) (s.drop 2)
        else if two == "++" || two == "--" then
          let up := two == "++"
          let hasName := ((s.drop 2).dropWhile isBlank).head?.any fun e => e.isAlpha || e == '_'
          let wasCounted : Bool := match c.previous with
            | .before _ => true
            | _ => false
          if c.current = .name then accept (.after up) (s.drop 2)
          else if c.current = .number ∧ wasCounted = true then fail (two ++ ": assignment requires lvalue")
          else if hasName then accept (.before up) (s.drop 2)
          else accept (.sign (String.singleton d)) more
        else if more.head? == some '=' && "*/%+-&^|".toList.contains d then
          accept (.update (String.singleton d)) (s.drop 2)
        else if singles.contains d then accept (.sign (String.singleton d)) more
        else
          let wantsOperand : Bool := match c.current with
            | .sign ")" => false
            | .finish | .sign _ | .update _ | .before _ => true
            | _ => false
          if wantsOperand then fail "syntax error: operand expected"
          else fail "syntax error: invalid arithmetic operator"

/-- The place of a value that a name with a subscript stands for. -/
def placeOf (fuel : Nat) (h : Holder) : Calculation (Option Slot) :=
  match fuel with
  | 0 => fail "expression recursion level exceeded"
  | fuel + 1 => do
    match h.subscript with
    | none => return none
    | some text =>
      let s ← shell
      if s.isKeyed h.name then return some (.key (String.ofList text))
      let n ← inner fuel (String.ofList text)
      let n := if n < 0 then n + s.nextIndex h.name else n
      if n < 0 then throw (h.name ++ "[" ++ String.ofList text ++ "]: bad array subscript")
      return some (.number n.toNat)

/-- The number that a name stands for. -/
def valueOf (fuel : Nat) (h : Holder) : Calculation Int :=
  match fuel with
  | 0 => fail "expression recursion level exceeded"
  | fuel + 1 => do
    let place ← placeOf fuel h
    let s ← shell
    let value := match place with
      | none => s.text? h.name
      | some slot => s.element? h.name slot
    match value with
    | none =>
      if s.options.contains 'u' then
        let shown := h.name ++ (match h.subscript with
          | some text => "[" ++ String.ofList text ++ "]"
          | none => "")
        unbound shown
      return 0
    | some text => inner fuel text

/-- The value of an expression within another one. -/
def inner (fuel : Nat) (text : String) : Calculation Int :=
  match fuel with
  | 0 => fail "expression recursion level exceeded"
  | fuel + 1 => do
    let outer ← get
    let cs := text.toList
    if cs.all isBlank then return 0
    set ({ whole := cs, rest := cs } : Calculating)
    advance fuel
    let n ← commas fuel
    if (← get).current ≠ .finish then fail "syntax error in expression"
    set outer
    return n

/-- Sets what a name stands for. -/
def setHolder (fuel : Nat) (h : Holder) (n : Int) : Calculation Unit :=
  match fuel with
  | 0 => fail "expression recursion level exceeded"
  | fuel + 1 => do
    if !(← get).isIdle then
      match ← placeOf fuel h with
      | none => assign h.name (toString n)
      | some slot => store h.name slot (toString n)

/-- Expressions between commas. -/
def commas (fuel : Nat) : Calculation Int :=
  match fuel with
  | 0 => fail "expression recursion level exceeded"
  | fuel + 1 => do
    let n ← assignment fuel
    if (← get).current = .sign "," then
      advance fuel
      commas fuel
    else return n

/-- An assignment or what may stand in its place. -/
def assignment (fuel : Nat) : Calculation Int :=
  match fuel with
  | 0 => fail "expression recursion level exceeded"
  | fuel + 1 => do
    let old ← choice fuel
    let c ← get
    let operation : Option (Option String) := match c.current with
      | .sign "=" => some none
      | .update op => some (some op)
      | _ => none
    match operation with
    | none => return old
    | some op =>
      if c.previous ≠ .name then fail "attempted assignment to non-variable"
      match c.holder with
      | none => fail "syntax error in variable assignment"
      | some h =>
        advance fuel
        let right ← assignment fuel
        let n ← match op with
          | none => pure right
          | some op =>
            if (op == "/" || op == "%") && right == 0 then
              if (← get).isIdle then pure old else fail "division by 0"
            else pure (operate op old right)
        setHolder fuel h n
        modify fun c => { c with holder := none }
        return n

/-- Runs a part of a calculation in which nothing is set. -/
def idleIf (fuel : Nat) (idle : Bool) (body : Calculation Int) : Calculation Int :=
  match fuel with
  | 0 => fail "expression recursion level exceeded"
  | _ + 1 => do
    let before := (← get).isIdle
    modify fun c => { c with isIdle := before || idle }
    let n ← body
    modify fun c => { c with isIdle := before }
    return n

/-- A choice between two expressions, or what may stand in its place. -/
def choice (fuel : Nat) : Calculation Int :=
  match fuel with
  | 0 => fail "expression recursion level exceeded"
  | fuel + 1 => do
    let test ← disjunction fuel
    if (← get).current = .sign "?" then
      let yes ← idleIf fuel (test == 0) do
        advance fuel
        let m := (← get).current
        if m = .finish ∨ m = .sign ":" then fail "expression expected"
        commas fuel
      if (← get).current ≠ .sign ":" then fail "\x60:' expected for conditional expression"
      let no ← idleIf fuel (test != 0) do
        advance fuel
        if (← get).current = .finish then fail "expression expected"
        choice fuel
      modify fun c => { c with previous := .number }
      return if test != 0 then yes else no
    return test

/-- Expressions of which one must hold. -/
def disjunction (fuel : Nat) : Calculation Int :=
  match fuel with
  | 0 => fail "expression recursion level exceeded"
  | fuel + 1 => do
    let first ← conjunction fuel
    moreOf fuel first
where
  /-- The expressions after a first one. -/
  moreOf (fuel : Nat) (left : Int) : Calculation Int :=
    match fuel with
    | 0 => fail "expression recursion level exceeded"
    | fuel + 1 => do
      if (← get).current = .sign "||" then
        let right ← idleIf fuel (left != 0) do
          advance fuel
          conjunction fuel
        modify fun c => { c with previous := .number }
        moreOf fuel (Arithmetic.truth (left != 0 || right != 0))
      else return left

/-- Expressions that must all hold. -/
def conjunction (fuel : Nat) : Calculation Int :=
  match fuel with
  | 0 => fail "expression recursion level exceeded"
  | fuel + 1 => do
    let first ← level fuel levels
    moreBoth fuel first

/-- The expressions after a first one. -/
def moreBoth (fuel : Nat) (left : Int) : Calculation Int :=
  match fuel with
  | 0 => fail "expression recursion level exceeded"
  | fuel + 1 => do
    if (← get).current = .sign "&&" then
      let right ← idleIf fuel (left == 0) do
        advance fuel
        level fuel levels
      modify fun c => { c with previous := .number }
      moreBoth fuel (Arithmetic.truth (left != 0 && right != 0))
    else return left

/-- Expressions joined by operators of a level or of tighter ones. -/
def level (fuel : Nat) (ops : List (List String)) : Calculation Int :=
  match fuel with
  | 0 => fail "expression recursion level exceeded"
  | fuel + 1 => do
    match ops with
    | [] => powers fuel
    | here :: tighter =>
      let left ← level fuel tighter
      moreLevel fuel here tighter left

/-- What follows a first operand of a level. -/
def moreLevel (fuel : Nat) (here : List String) (tighter : List (List String)) (left : Int) : Calculation Int :=
  match fuel with
  | 0 => fail "expression recursion level exceeded"
  | fuel + 1 => do
    match (← get).current with
    | .sign op =>
      if !here.contains op then return left
      let start := (← get).rest
      advance fuel
      let right ← level fuel tighter
      if (op == "/" || op == "%") && right == 0 then
        if (← get).isIdle then moreLevel fuel here tighter left
        else
          modify fun c => { c with last := start.dropWhile fun d => d == ' ' || d == '\t' }
          fail "division by 0"
      else
        modify fun c => { c with previous := .number }
        moreLevel fuel here tighter (operate op left right)
    | _ => return left

/-- Powers, which are taken from the right. -/
def powers (fuel : Nat) : Calculation Int :=
  match fuel with
  | 0 => fail "expression recursion level exceeded"
  | fuel + 1 => do
    let base ← signed fuel
    if (← get).current = .sign "**" then
      advance fuel
      let exponent ← powers fuel
      modify fun c => { c with previous := .number }
      if exponent < 0 then fail "exponent less than 0"
      return power base exponent.toNat
    return base

/-- An operand with signs before it. -/
def signed (fuel : Nat) : Calculation Int :=
  match fuel with
  | 0 => fail "expression recursion level exceeded"
  | fuel + 1 => do
    let apply (f : Int → Int) : Calculation Int := do
      advance fuel
      let n ← signed fuel
      modify fun c => { c with previous := .number }
      return f n
    match (← get).current with
    | .sign "!" => apply fun n => Arithmetic.truth (n == 0)
    | .sign "~" => apply fun n => -n - 1
    | .sign "-" => apply fun n => Arithmetic.wrap (-n)
    | .sign "+" => apply id
    | _ => operand fuel

/-- A number, a variable or an expression in parentheses. -/
def operand (fuel : Nat) : Calculation Int :=
  match fuel with
  | 0 => fail "expression recursion level exceeded"
  | fuel + 1 => do
    let c ← get
    match c.current with
    | .before up =>
      modify fun c => { c with previous := c.current }
      advance fuel
      let c ← get
      match c.current, c.holder with
      | .name, some h =>
        let n := Arithmetic.wrap (c.value + (if up then 1 else -1))
        setHolder fuel h n
        modify fun c => { c with current := .number }
        advance fuel
        return n
      | _, _ => fail "identifier expected after pre-increment or pre-decrement"
    | .sign "(" =>
      advance fuel
      let n ← commas fuel
      if (← get).current ≠ .sign ")" then fail "missing \x60)'"
      advance fuel
      return n
    | .number =>
      let n := c.value
      advance fuel
      return n
    | .name =>
      let n := c.value
      advance fuel
      match (← get).current, c.holder with
      | .after up, some h =>
        setHolder fuel h (Arithmetic.wrap (n + (if up then 1 else -1)))
        modify fun c => { c with current := .number }
        advance fuel
        return n
      | _, holder =>
        modify fun c => { c with holder }
        return n
    | _ => fail "syntax error: operand expected"

end

end Calculation

/-- How many steps into one another a calculation may take. -/
def Calculation.deepest : Nat := 20000

/-- The value of an expression; a blank one is zero. -/
def calculate (text : String) : Run Int := do
  let start : Calculating := { whole := [], rest := [] }
  match ← (Calculation.inner Calculation.deepest text).run.run start with
  | (.ok n, _) => return n
  | (.error message, _) => refuse message

/-- The place that a subscript names in a variable; negative numbers count from its end. A fault in a
subscript ends a script that is an argument. -/
def slotOf (name subscript : String) : Run (Option Slot) := do
  let s ← shell
  if s.isKeyed name then return some (.key subscript)
  let n ← match ← attempt (calculate subscript) with
    | .ok n => pure n
    | .error .fault => throw (if s.isArgument then .exit 1 else .fault)
    | .error e => throw e
  let n := if n < 0 then n + s.nextIndex name else n
  return if n < 0 then none else some (.number n.toNat)

end ClassLens.Shell
