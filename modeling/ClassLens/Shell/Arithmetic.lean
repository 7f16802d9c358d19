import ClassLens.Shell.Command

/-! # Arithmetic

The expressions of `$((...))`: whole numbers of 64 bits, which wrap around, with the operators of C.

* `evaluate value text`: the value of an expression, the variables that it assigns, or its fault. -/

namespace ClassLens.Shell.Arithmetic

/-- What an evaluation has done so far. -/
structure Work where
  rest : List Char
  /-- The variables that were assigned, the last one first. -/
  assigned : List (String × Int) := []

/-- An evaluation. -/
abbrev Eval := StateT Work (Except String)

/-- A number of 64 bits. -/
def wrap (n : Int) : Int := Int.bmod n (Nat.pow 2 64)

/-- The digits of a base at the start of a text as a number, and what follows them. -/
def digits (base : Nat) : Int → List Char → Int × List Char
  | n, [] => (n, [])
  | n, c :: cs =>
    let d := if c.isDigit then c.toNat - 48
      else if 'a' ≤ c ∧ c ≤ 'z' then c.toNat - 87
      else if 'A' ≤ c ∧ c ≤ 'Z' then c.toNat - 55 else 99
    if d < base then digits base (n * base + d) cs else (n, c :: cs)

/-- The greatest number of 64 bits. -/
def top : Int := Int.ofNat (Nat.pow 2 63) - 1

/-- The number at the start of a text, in base ten, eight or sixteen, and what follows it. -/
def wholeNumber (s : List Char) : Int × List Char :=
  match s with
  | '0' :: x :: c :: cs =>
    if (x = 'x' ∨ x = 'X') ∧ (digits 16 0 [c]).2 = [] then digits 16 0 (c :: cs)
    else digits 8 0 s
  | '0' :: _ => digits 8 0 s
  | _ => digits 10 0 s

/-- The number at the start of a text, at most the greatest one, and what follows it. -/
def number (s : List Char) : Int × List Char :=
  let (n, rest) := wholeNumber s
  (min n top, rest)

/-- The number that a whole text is, with blanks and a sign. -/
def ofText? (s : String) : Option Int :=
  let s := s.toList.dropWhile fun c => c == ' ' || (9 ≤ c.toNat && c.toNat ≤ 13)
  let (negative, s) := match s with
    | '-' :: s => (true, s)
    | '+' :: s => (false, s)
    | s => (false, s)
  match s with
  | c :: _ =>
    if c.isDigit then
      let (n, rest) := number s
      if rest.all (fun c => c == ' ' || (9 ≤ c.toNat && c.toNat ≤ 13)) then
        some (if negative then -n else n) else none
    else none
  | [] => none

/-- Passes over blanks. -/
def blanks : Eval Unit := modify fun w =>
  { w with rest := w.rest.dropWhile fun c => c == ' ' || c == '\t' || c == '\n' }

/-- Binary operators by how tightly they bind, each level with the longer ones first. -/
def levels : List (List String) :=
  [["||"], ["&&"], ["|"], ["^"], ["&"], ["==", "!="], ["<=", ">=", "<", ">"], ["<<", ">>"],
    ["+", "-"], ["*", "/", "%"]]

/-- The operator of a level at the start of a text; a longer operator is not taken for a shorter one. -/
def operator? (level : List String) (s : List Char) : Option String :=
  level.find? fun op =>
    op.toList.isPrefixOf s &&
      (let after := (s.drop op.length).head?
       !(op != "==" && op != "!=" && op != "<=" && op != ">=" && op != "||" && op != "&&" &&
          after == some '=') &&
       !((op == "|" || op == "&" || op == "<" || op == ">") && after == op.toList.head?))

/-- The truth of a comparison as a number. -/
def truth (b : Bool) : Int := if b then 1 else 0

/-- The bits of a number of 64 bits. -/
def bits (n : Int) : BitVec 64 := BitVec.ofInt 64 n

/-- The value of an operation. -/
def apply (op : String) (a b : Int) : Except String Int :=
  match op with
  | "|" => .ok (bits a ||| bits b).toInt
  | "^" => .ok (bits a ^^^ bits b).toInt
  | "&" => .ok (bits a &&& bits b).toInt
  | "==" => .ok (truth (a = b))
  | "!=" => .ok (truth (a ≠ b))
  | "<=" => .ok (truth (a ≤ b))
  | ">=" => .ok (truth (b ≤ a))
  | "<" => .ok (truth (a < b))
  | ">" => .ok (truth (b < a))
  | "<<" => .ok (bits a <<< (b % 64).toNat).toInt
  | ">>" => .ok ((bits a).sshiftRight (b % 64).toNat).toInt
  | "+" => .ok (wrap (a + b))
  | "-" => .ok (wrap (a - b))
  | "*" => .ok (wrap (a * b))
  | "/" => if b = 0 then .error "division by zero" else .ok (wrap (Int.tdiv a b))
  | "%" => if b = 0 then .error "division by zero" else .ok (wrap (Int.tmod a b))
  | _ => .ok b

/-- The value of a variable: that it was assigned, or else the one it had. -/
def lookup (value : String → Except String Int) (name : String) : Eval Int := do
  match (← get).assigned.find? fun e => e.1 == name with
  | some e => return e.2
  | none =>
    match value name with
    | .ok n => return n
    | .error e => throw e

mutual

/-- An assignment or a conditional expression. Where `live` does not hold nothing is divided or
assigned. -/
def expression (value : String → Except String Int) (fuel : Nat) (live : Bool) : Eval Int :=
  match fuel with
  | 0 => throw "expression too long"
  | fuel + 1 => do
    blanks
    let start ← get
    let name := start.rest.takeWhile fun c => c.isAlphanum || c == '_'
    let after := (start.rest.drop name.length).dropWhile fun c => c == ' ' || c == '\t'
    let isVariable := name.head?.any fun c => !c.isDigit
    let sign := if isVariable then
        ["<<=", ">>=", "+=", "-=", "*=", "/=", "%=", "&=", "|=", "^=", "="].find? fun op =>
          op.toList.isPrefixOf after && !(op == "=" && after[1]? == some '=')
      else none
    match sign with
    | some op =>
      set { start with rest := after.drop op.length }
      let right ← expression value fuel live
      let name := String.ofList name
      let new ←
        if op = "=" then pure right
        else if live then
          let old ← lookup value name
          match apply (op.dropEnd 1).toString old right with
          | .ok n => pure n
          | .error e => throw e
        else pure 0
      if live then modify fun w => { w with assigned := (name, new) :: w.assigned }
      return new
    | none =>
      conditional value fuel live

/-- A conditional expression. -/
def conditional (value : String → Except String Int) (fuel : Nat) (live : Bool) : Eval Int :=
  match fuel with
  | 0 => throw "expression too long"
  | fuel + 1 => do
    let test ← level value fuel live levels
    blanks
    match (← get).rest with
    | '?' :: rest =>
      modify fun w => { w with rest := rest }
      let yes ← expression value fuel (live && test != 0)
      blanks
      match (← get).rest with
      | ':' :: rest =>
        modify fun w => { w with rest := rest }
        let no ← conditional value fuel (live && test == 0)
        return if test != 0 then yes else no
      | _ => throw "expecting ':'"
    | _ => return test

/-- An expression of binary operators from a level on. -/
def level (value : String → Except String Int) (fuel : Nat) (live : Bool) (ops : List (List String)) :
    Eval Int :=
  match fuel with
  | 0 => throw "expression too long"
  | fuel + 1 => do
    match ops with
    | [] => unary value fuel live
    | op :: tighter =>
      let left ← level value fuel live tighter
      levelFrom value fuel live op tighter left

/-- The rest of an expression of one level, after its first operand. -/
def levelFrom (value : String → Except String Int) (fuel : Nat) (live : Bool) (ops : List String)
    (tighter : List (List String)) (left : Int) : Eval Int :=
  match fuel with
  | 0 => throw "expression too long"
  | fuel + 1 => do
    blanks
    match operator? ops (← get).rest with
    | none => return left
    | some op =>
      modify fun w => { w with rest := w.rest.drop op.length }
      if op = "||" then
        let right ← level value fuel (live && left == 0) tighter
        levelFrom value fuel live ops tighter (truth (left != 0 || right != 0))
      else if op = "&&" then
        let right ← level value fuel (live && left != 0) tighter
        levelFrom value fuel live ops tighter (truth (left != 0 && right != 0))
      else
        let right ← level value fuel live tighter
        if !live then levelFrom value fuel live ops tighter 0
        else
          match apply op left right with
          | .ok n => levelFrom value fuel live ops tighter n
          | .error e => throw e

/-- A number, a variable, an expression in parentheses, or one with a sign before it. -/
def unary (value : String → Except String Int) (fuel : Nat) (live : Bool) : Eval Int :=
  match fuel with
  | 0 => throw "expression too long"
  | fuel + 1 => do
    blanks
    let w ← get
    match w.rest with
    | '-' :: rest =>
      set { w with rest := rest }
      return wrap (-(← unary value fuel live))
    | '+' :: rest =>
      set { w with rest := rest }
      unary value fuel live
    | '!' :: rest =>
      set { w with rest := rest }
      return truth ((← unary value fuel live) == 0)
    | '~' :: rest =>
      set { w with rest := rest }
      return -(← unary value fuel live) - 1
    | '(' :: rest =>
      set { w with rest := rest }
      let n ← expression value fuel live
      blanks
      match (← get).rest with
      | ')' :: rest =>
        modify fun w => { w with rest := rest }
        return n
      | _ => throw "expecting ')'"
    | c :: _ =>
      if c.isDigit then
        let (n, rest) := number w.rest
        set { w with rest := rest }
        return n
      else if c.isAlpha || c == '_' then
        let name := w.rest.takeWhile fun c => c.isAlphanum || c == '_'
        set { w with rest := w.rest.drop name.length }
        if live then lookup value (String.ofList name) else return 0
      else throw "expecting primary"
    | [] => throw "expecting primary"

end

/-- The value of an expression and the variables that it assigns, the last one first. -/
def evaluate (value : String → Except String Int) (text : String) :
    Except String (Int × List (String × Int)) :=
  let whole : Eval Int := do
    let n ← expression value (20 * (text.length + 4)) true
    blanks
    if (← get).rest.isEmpty then return n else throw "expecting EOF"
  match whole.run { rest := text.toList } with
  | .ok (n, w) => .ok (n, w.assigned)
  | .error e => .error e

end ClassLens.Shell.Arithmetic
