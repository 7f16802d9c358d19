import ClassLens.Tool.Records.Lexer

/-! # Reading programs on records

* `readProgram`: the program of a text, or what is wrong with it. -/

namespace ClassLens.Tool.Records

/-- Where an expression stands: before a word that asks for the keys of a group, or in an act that writes,
where signs tell where the output leads. -/
structure Setting where
  noIn : Bool := false
  writes : Bool := false

/-- How tightly a sign between two expressions binds. -/
def powerOf (x : Setting) (previous t : Token) : Option Nat :=
  let isAfterStep := match previous with
    | .sign s => s == "++" || s == "--"
    | _ => false
  match t with
  | .word "in" => if x.noIn then none else some 5
  | .sign s =>
    match s with
    | "?" => some 2
    | "||" => some 3
    | "&&" => some 4
    | "~" | "!~" => some 6
    | "<" | "<=" | "==" | "!=" => some 7
    | ">" | ">=" => if x.writes then none else some 7
    | "+" | "-" => some 10
    | "/" => some (if isAfterStep then 8 else 11)
    | "*" | "%" => some 11
    | "|" => if x.writes then none else some 13
    | "^" => some 14
    | "(" | "$" | "!" | "++" | "--" => some 8
    | _ => none
  | .word "getline" | .number .. | .text .. | .name _ | .routine _ | .builtin _ => some 8
  | _ => none

/-- The operation of a sign. -/
def operationOf? (s : String) : Option Operation :=
  match s with
  | "+" | "+=" => some .add
  | "-" | "-=" => some .sub
  | "*" | "*=" => some .mul
  | "/" | "/=" => some .div
  | "%" | "%=" => some .rem
  | "^" | "^=" => some .pow
  | _ => none

/-- The comparison of a sign. -/
def comparisonOf? (s : String) : Option Comparison :=
  match s with
  | "<" => some .less
  | "<=" => some .atMost
  | "==" => some .same
  | "!=" => some .other
  | ">" => some .more
  | ">=" => some .atLeast
  | _ => none

/-- Takes note of a variable. -/
def noteVariable (name : String) : Parse Unit := modify fun s =>
  if s.vars.contains name then s else { s with vars := name :: s.vars }

/-- A name with the function whose parameter it is. -/
def Source.scoped (s : Source) (name : String) : Option String × String :=
  match s.inside with
  | some (f, parameters) => (if parameters.contains name then some f else none, name)
  | none => (none, name)

/-- Takes note of a group. -/
def noteGroup (name : String) : Parse Unit := do
  let s ← get
  if (s.scoped name).1.isNone && s.scalars.contains name then
    refuse ("illegal reference to variable " ++ name)
  noteVariable name
  modify fun s => { s with groups := s.scoped name :: s.groups }

/-- Takes note of a variable that holds a value. -/
def noteValue (name : String) : Parse Unit := do
  let s ← get
  let place := s.scoped name
  if s.groups.contains place then
    refuse ("illegal reference to " ++ (if place.1.isSome then "local " else "") ++ "array " ++ name)
  noteVariable name
  if place.1.isNone then modify fun s => { s with scalars := name :: s.scalars }

/-- The place that an expression is. -/
def placeOf? : Expr → Option Place
  | .place p => some p
  | _ => none

/-- Whether an expression sets a place. -/
def isAssignment : Expr → Bool
  | .assign .. | .update .. => true
  | _ => false

/-- The name of a variable that is the next sign. -/
def takeName : Parse String := do
  match (← get).token with
  | .name s =>
    advance
    return s
  | _ => unexpected

/-- Checks the expression of a pattern. -/
def checkPattern (s : String) : Parse Unit := do
  match readPattern s with
  | .ok _ => pure ()
  | .error e => refuse ("regular expression compile failed (" ++ e ++ ")\n" ++ s)

/-- Checks the pattern of an expression that is a text. -/
def checkConstant : Expr → Parse Unit
  | .text s => checkPattern s
  | _ => pure ()

mutual

/-- An expression whose signs bind at least so tightly. -/
def readExpr (fuel : Nat) (x : Setting) (power : Nat) : Parse Expr :=
  match fuel with
  | 0 => refuse "program too long"
  | fuel + 1 => do
    let isPlace := match (← get).token with
      | .name _ | .sign "$" => true
      | _ => false
    let first ← readOperand fuel x power
    if isPlace && isAssignment first then return first
    readMore fuel x power 20 first
termination_by structural fuel

/-- What follows a first operand, signs between two bounds. -/
def readMore (fuel : Nat) (x : Setting) (power most : Nat) (left : Expr) : Parse Expr :=
  match fuel with
  | 0 => refuse "program too long"
  | fuel + 1 => do
    let t := (← get).token
    match powerOf x (← get).previous t with
    | none => return left
    | some p =>
      if p < power || p > most then return left
      match t with
      | .word "in" =>
        advance
        let name ← takeName
        noteGroup name
        readMore fuel x power 7 (.contains [left] name)
      | .sign "?" =>
        advance
        let yes ← readExpr fuel x 1
        takeSign ":"
        let no ← readExpr fuel x 2
        readMore fuel x power 20 (.either left yes no)
      | .sign "||" =>
        advance
        let right ← readExpr fuel x 4
        readMore fuel x power 20 (.any left right)
      | .sign "&&" =>
        advance
        let right ← readExpr fuel x 5
        readMore fuel x power 20 (.both left right)
      | .sign "|" =>
        advance
        if !(← isWord "getline") then unexpected
        advance
        let place ← readTarget fuel
        readMore fuel x power 20 (.nextOfCommand place left)
      | .sign s =>
        if s = "~" ∨ s = "!~" then
          advance
          let right ← readExpr fuel x 7
          checkConstant right
          readMore fuel x power 20 (.hits (s = "!~") left right)
        else if p = 8 then
          let right ← readExpr fuel x 9
          readMore fuel x power 20 (.join left right)
        else
          advance
          match comparisonOf? s, operationOf? s with
          | some c, _ =>
            let right ← readExpr fuel x 8
            readMore fuel x power 20 (.compare c left right)
          | _, some op =>
            let right ← readExpr fuel x (if op = .pow then p else p + 1)
            readMore fuel x power 20 (.operate op left right)
          | _, _ => unexpected
      | _ =>
        let right ← readExpr fuel x 9
        readMore fuel x power 20 (.join left right)
termination_by structural fuel

/-- The place after a word for reading, if there is one. -/
def readTarget (fuel : Nat) : Parse (Option Place) :=
  match fuel with
  | 0 => refuse "program too long"
  | fuel + 1 => do
    match (← get).token with
    | .name _ | .sign "$" => return placeOf? (← readPlace fuel)
    | _ => return none
termination_by structural fuel

/-- A variable, an item of a group or a field. -/
def readPlace (fuel : Nat) : Parse Expr :=
  match fuel with
  | 0 => refuse "program too long"
  | fuel + 1 => do
    match (← get).token with
    | .name name =>
      advance
      if ← isAt "[" then
        advance
        noteGroup name
        let keys ← readList fuel {} []
        takeSign "]"
        return .place (.item name keys)
      if (← isAt ",") || (← isAt ")") then noteVariable name else noteValue name
      return .place (.variable name)
    | .sign "$" =>
      advance
      match (← get).token with
      | .sign "++" | .sign "--" | .sign "-" | .sign "+" | .sign "!" =>
        return .place (.field (← readOperand fuel {} 15))
      | .name "NF" =>
        let count ← readSimple fuel
        match (← get).token with
        | .sign "++" =>
          advance
          return .place (.field (.step true false (.variable "NF")))
        | .sign "--" =>
          advance
          return .place (.field (.step false false (.variable "NF")))
        | _ => return .place (.field count)
      | _ => return .place (.field (← readSimple fuel))
    | _ => unexpected
termination_by structural fuel

/-- An operand without signs around it. -/
def readSimple (fuel : Nat) : Parse Expr :=
  match fuel with
  | 0 => refuse "program too long"
  | fuel + 1 => do
    let t := (← get).token
    match t with
    | .number n _ =>
      advance
      return .number n
    | .text s _ =>
      advance
      return .text s
    | .name _ | .sign "$" => readPlace fuel
    | .sign "(" =>
      advance
      let items ← readList fuel {} []
      takeSign ")"
      match items with
      | [e] => return e
      | keys =>
        if !(← isWord "in") then unexpected
        advance
        let name ← takeName
        noteGroup name
        return .contains keys name
    | .routine name =>
      let line := (← get).tokenLine
      advance
      takeSign "("
      let args ← if ← isAt ")" then pure [] else readList fuel {} []
      takeSign ")"
      modify fun s => { s with
        calls := s.calls ++ [(name, args.length, line)]
        routines := if s.routines.contains name then s.routines else name :: s.routines
        passed := s.passed ++ (args.zipIdx.filterMap fun (e, i) =>
          match e with
          | .place (.variable v) => some (s.scoped v, name, i)
          | _ => none) }
      return .call name args
    | .builtin name =>
      let line := (← get).tokenLine
      advance
      if name = "length" && !(← isAt "(") then return .builtin name []
      takeSign "("
      let args ← if ← isAt ")" then pure []
        else if name = "length" then pure [← readExpr fuel {} 1]
        else readList fuel {} []
      if !(← isAt ")") then unexpected
      let (least, most) := (builtins.lookup name).getD (0, 0)
      if name = "split" && args.length < 2 then unexpected
      if args.length < least || args.length > most then
        failAt line ("wrong number of arguments in call to " ++ name)
      takeSign ")"
      match name, args with
      | "split", _ :: .place (.variable group) :: rest =>
        noteGroup group
        match rest with
        | [.text s] => if s.length > 1 then checkPattern s
        | _ => pure ()
      | "split", _ => unexpected
      | "sub", e :: _ | "gsub", e :: _ | "match", _ :: e :: _ => checkConstant e
      | _, _ => pure ()
      return .builtin name args
    | .sign s =>
      if s = "/" ∨ s = "/=" then
        let source ← get
        let start := if s = "/=" then '=' :: source.rest else source.rest
        let (body, after, closed) := patternBody (start.length + 1) false start []
        if !closed then
          refuse ("runaway regular expression /" ++ String.ofList (body.take 10) ++ " ...")
        let body := String.ofList body
        checkPattern body
        set { source with rest := after }
        advance
        return .pattern body
      else unexpected
    | .word "getline" =>
      advance
      let place ← readTarget fuel
      if ← isAt "<" then
        advance
        let file ← readExpr fuel {} 14
        return .nextOfFile place file
      return .nextRecord place
    | _ => unexpected
termination_by structural fuel

/-- An operand with the signs before and after it; an assignment where it may stand. -/
def readOperand (fuel : Nat) (x : Setting) (power : Nat) : Parse Expr :=
  match fuel with
  | 0 => refuse "program too long"
  | fuel + 1 => do
    match (← get).token with
    | .sign "!" =>
      advance
      return .not (← readExpr fuel x 12)
    | .sign "-" =>
      advance
      return .minus (← readExpr fuel x 12)
    | .sign "+" =>
      advance
      return .plus (← readExpr fuel x 12)
    | .sign "++" =>
      advance
      match placeOf? (← readPlace fuel) with
      | some p => return .step true true p
      | none => unexpected
    | .sign "--" =>
      advance
      match placeOf? (← readPlace fuel) with
      | some p => return .step false true p
      | none => unexpected
    | t =>
      let e ← readSimple fuel
      let isPlace := match t with
        | .name _ | .sign "$" => true
        | _ => false
      match isPlace, placeOf? e with
      | true, some p =>
        match (← get).token with
        | .sign "++" =>
          advance
          return .step true false p
        | .sign "--" =>
          advance
          return .step false false p
        | .sign "=" =>
          if power > 8 then return e
          advance
          return .assign p (← readExpr fuel x 1)
        | .sign s =>
          if power > 8 || s.length < 2 || !s.endsWith "=" then return e
          match operationOf? s with
          | some op =>
            advance
            return .update op p (← readExpr fuel x 1)
          | none => return e
        | _ => return e
      | _, _ => return e
termination_by structural fuel

/-- Expressions between commas. -/
def readList (fuel : Nat) (x : Setting) (found : List Expr) : Parse (List Expr) :=
  match fuel with
  | 0 => refuse "program too long"
  | fuel + 1 => do
    let e ← readExpr fuel x 1
    if ← trySign "," then readList fuel x (found ++ [e]) else return found ++ [e]
termination_by structural fuel

end

/-- Whether an act ends here. -/
def atEnd : Parse Bool := do
  match (← get).token with
  | .newline | .semicolon _ | .finish => return true
  | .sign "\x7d" => return true
  | _ => return false

/-- Whether an output may be led elsewhere here. -/
def atTarget : Parse Bool := do
  match (← get).token with
  | .sign s => return s == ">" || s == ">>" || s == "|" || s == ">="
  | _ => return false

/-- Passes over line breaks. -/
def skipNewlines : Parse Unit := do
  if (← get).token matches .newline then advance

/-- The end of an act. -/
def takeEnd : Parse Unit := do
  match (← get).token with
  | .newline | .semicolon _ => advance
  | _ => unexpected

/-- What is written. -/
def readWritten (fuel : Nat) : Parse (List Expr) := do
  if (← atEnd) || (← atTarget) then return []
  let start ← get
  let plain : Parse (List Expr) := readList fuel { writes := true } []
  if ← isAt "(" then
    let grouped : Parse (Option (List Expr)) := do
      advance
      let items ← readList fuel {} []
      if !(← isAt ")") then unexpected
      advance
      return if (← atEnd) || (← atTarget) then some items else none
    match ← grouped with
    | some items => return items
    | none =>
      set start
      plain
  else plain

/-- Where it leads. -/
def readDirection (fuel : Nat) : Parse Target := do
  match (← get).token with
  | .sign ">=" => refuse "syntax error at or near ="
  | .sign ">" =>
    advance
    return .file false (← readExpr fuel {} 1)
  | .sign ">>" =>
    advance
    return .file true (← readExpr fuel {} 1)
  | .sign "|" =>
    advance
    return .command (← readExpr fuel {} 1)
  | _ => return .standard

mutual

/-- An act with its end. -/
def readAct (fuel : Nat) : Parse Act :=
  match fuel with
  | 0 => refuse "program too long"
  | fuel + 1 => do
    let inLoop (body : Parse Act) : Parse Act := do
      modify fun s => { s with loops := s.loops + 1 }
      let act ← body
      modify fun s => { s with loops := s.loops - 1 }
      return act
    let optional : Parse (Option Expr) := do
      if ← atEnd then return none else return some (← readExpr fuel {} 1)
    match (← get).token with
    | .sign "\x7b" => readBlock fuel
    | .semicolon _ | .newline =>
      advance
      return .row []
    | .word word =>
      if word = "getline" then
        let e ← readExpr fuel {} 1
        takeEnd
        return .compute e
      advance
      match word with
      | "print" =>
        let args ← readWritten fuel
        let target ← readDirection fuel
        takeEnd
        return .print args target
      | "printf" =>
        let args ← readWritten fuel
        if args.isEmpty then refuse "no arguments in call to printf"
        let target ← readDirection fuel
        takeEnd
        return .format args target
      | "if" =>
        takeSign "("
        let test ← readExpr fuel {} 1
        takeSign ")"
        skipNewlines
        let yes ← readAct fuel
        if ← isWord "else" then
          advance
          skipNewlines
          return .branch test yes (some (← readAct fuel))
        return .branch test yes none
      | "while" =>
        takeSign "("
        let test ← readExpr fuel {} 1
        takeSign ")"
        if (← get).token matches .semicolon _ then
          advance
          return .while test (.row [])
        skipNewlines
        return .while test (← inLoop (readAct fuel))
      | "do" =>
        skipNewlines
        let body ← inLoop (readAct fuel)
        if !(← isWord "while") then unexpected
        advance
        takeSign "("
        let test ← readExpr fuel {} 1
        takeSign ")"
        takeEnd
        return .doWhile body test
      | "for" =>
        takeSign "("
        let start ← get
        match start.token with
        | .name name =>
          advance
          if ← isWord "in" then
            advance
            let group ← takeName
            if ← isAt ")" then
              noteVariable name
              noteGroup group
              advance
              skipNewlines
              return .each name group (← inLoop (readAct fuel))
            else unexpected
          set start
          readFor fuel
        | _ => readFor fuel
      | "next" =>
        if !(← get).hasRecord then refuse "improper use of next"
        takeEnd
        return .next
      | "nextfile" =>
        if !(← get).hasRecord then refuse "improper use of nextfile"
        takeEnd
        return .nextFile
      | "exit" =>
        let e ← optional
        takeEnd
        return .exit e
      | "return" =>
        if (← get).inside.isNone then refuse "return outside function body"
        let e ← optional
        takeEnd
        return .return e
      | "break" =>
        if (← get).loops = 0 then refuse "break statement outside of loop"
        takeEnd
        return .break
      | "continue" =>
        if (← get).loops = 0 then refuse "continue statement outside of loop"
        takeEnd
        return .continue
      | "delete" =>
        let name ← takeName
        noteGroup name
        let keys ← if ← isAt "[" then
            advance
            let keys ← readList fuel {} []
            takeSign "]"
            pure keys
          else pure []
        takeEnd
        return .delete name keys
      | w =>
        modify fun s => { s with token := .word w }
        unexpected
    | _ =>
      let e ← readExpr fuel {} 1
      takeEnd
      return .compute e
termination_by structural fuel

/-- A loop after its parenthesis that counts. -/
def readFor (fuel : Nat) : Parse Act :=
  match fuel with
  | 0 => refuse "program too long"
  | fuel + 1 => do
    let semicolon : Parse Unit := do
      match (← get).token with
      | .semicolon true => advance
      | _ => unexpected
    let isSemicolon : Parse Bool := do
      match (← get).token with
      | .semicolon true => return true
      | _ => return false
    let start ← if ← isSemicolon then pure none else pure (some (Act.compute (← readExpr fuel {} 1)))
    semicolon
    let test ← if ← isSemicolon then pure none else pure (some (← readExpr fuel {} 1))
    semicolon
    let step ← if ← isAt ")" then pure none else pure (some (Act.compute (← readExpr fuel {} 1)))
    takeSign ")"
    if (← get).token matches .semicolon _ then
      advance
      return .for start test step (.row [])
    skipNewlines
    modify fun s => { s with loops := s.loops + 1 }
    let body ← readAct fuel
    modify fun s => { s with loops := s.loops - 1 }
    return .for start test step body
termination_by structural fuel

/-- Acts between braces. -/
def readBlock (fuel : Nat) : Parse Act :=
  match fuel with
  | 0 => refuse "program too long"
  | fuel + 1 => do
    takeSign "\x7b"
    let acts ← readActs fuel []
    takeSign "\x7d"
    return .row acts
termination_by structural fuel

/-- Acts up to a closing brace. -/
def readActs (fuel : Nat) (found : List Act) : Parse (List Act) :=
  match fuel with
  | 0 => refuse "program too long"
  | fuel + 1 => do
    if ← isAt "\x7d" then return found.reverse
    let act ← readAct fuel
    readActs fuel (act :: found)
termination_by structural fuel

end

/-- The parameters of a function up to the closing parenthesis. -/
def readParameters : Nat → List String → Parse (List String)
  | 0, _ => refuse "program too long"
  | n + 1, found => do
    match (← get).token with
    | .name s | .routine s =>
      advance
      if ← trySign "," then readParameters n (found ++ [s]) else return found ++ [s]
    | _ => unexpected

/-- A function after its word. -/
def readRoutine (fuel : Nat) : Parse Unit := do
  let name ← match (← get).token with
    | .name s | .routine s => pure s
    | _ => unexpected
  if (← get).found.any fun r => r.1 == name then refuse ("redefinition of " ++ name)
  modify fun s => { s with routines := name :: s.routines }
  advance
  takeSign "("
  let parameters ← if ← isAt ")" then pure [] else readParameters fuel []
  takeSign ")"
  skipNewlines
  modify fun s => { s with inside := some (name, parameters), hasRecord := false }
  let body ← readBlock fuel
  modify fun s => { s with
    inside := none
    found := s.found ++ [(name, { parameters := parameters.map (·, false), body })] }

/-- The rules and functions up to the end. -/
def readRules (fuel : Nat) (found : List (Condition × Option Act)) : Parse (List (Condition × Option Act)) :=
  match fuel with
  | 0 => refuse "program too long"
  | fuel + 1 => do
    let block (c : Condition) (hasRecord : Bool) : Parse (Condition × Option Act) := do
      modify fun s => { s with hasRecord }
      return (c, some (← readBlock fuel))
    match (← get).token with
    | .finish => return found.reverse
    | .newline =>
      advance
      readRules fuel found
    | .word "function" =>
      advance
      readRoutine fuel
      readRules fuel found
    | .word "BEGIN" =>
      advance
      let r ← block .first false
      readRules fuel (r :: found)
    | .word "END" =>
      advance
      let r ← block .last false
      readRules fuel (r :: found)
    | .sign "\x7b" =>
      let r ← block .always true
      readRules fuel (r :: found)
    | _ =>
      let start ← readExpr fuel {} 1
      let condition : Condition ← if ← trySign "," then
          let stop ← readExpr fuel {} 1
          modify fun s => { s with ranges := s.ranges + 1 }
          pure (.range (← get).ranges start stop)
        else pure (.test start)
      if ← isAt "\x7b" then
        let r ← block condition true
        readRules fuel (r :: found)
      else
        takeEnd
        readRules fuel ((condition, none) :: found)

/-- Names that are groups, since they are given to functions as such. -/
def spread (routines : List (String × Routine)) (passed : List ((Option String × String) × String × Nat)) :
    Nat → List (Option String × String) → List (Option String × String)
  | 0, groups => groups
  | n + 1, groups =>
    let more := passed.filterMap fun (name, callee, i) =>
      match (routines.lookup callee).bind fun r => r.parameters[i]? with
      | some (parameter, _) =>
        if groups.contains (some callee, parameter) && !groups.contains name then some name else none
      | none => none
    if more.isEmpty then groups else spread routines passed n (more.eraseDups ++ groups)

/-- The program of a text, or what is wrong with it. -/
def readProgram (text : String) : Except (List String) Program :=
  let cs := text.toList ++ (if text.endsWith "\n" then [] else ['\n'])
  let fuel := 64 * (cs.length + 8)
  let whole : Parse Program := do
    skipBlanks true
    advance
    let rules ← readRules fuel []
    let s ← get
    for (name, count, line) in s.calls do
      match s.found.lookup name with
      | none => failAt s.line ("function " ++ name ++ " never defined")
      | some r =>
        if count > r.parameters.length then failAt line ("too many arguments in call to " ++ name)
    let groups := spread s.found s.passed (s.passed.length + 1) s.groups
    let routines := s.found.map fun (name, r) =>
      (name, { r with parameters := r.parameters.map fun (p, _) => (p, groups.contains (some name, p)) })
    let names := groups.filterMap fun (f, name) => if f.isNone then some name else none
    return { rules, routines, groups := names.eraseDups }
  (whole.run { rest := cs }).map Prod.fst

end ClassLens.Tool.Records
