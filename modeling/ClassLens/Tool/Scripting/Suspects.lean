import ClassLens.Tool.Scripting.Machine
import ClassLens.Tool.Scripting.Sorting

/-! # What cautions say of values

A caution about a value that is not there names the variable that holds it, as far as that can be told from
the expression: for sure if the operation has just one operand that may be meant, and otherwise if the value
is found in the variable's cell.

* `suspect?`: the name of what is meant.
* `lookAt`, `lookOver`: cautions about an operand, and about all operands of an operation. -/

namespace ClassLens.Tool.Scripting

/-- Where a value comes from that is not there. -/
structure Origin where
  /-- Its cell. -/
  cell : Option Nat := none
  /-- The variable of the last match that it is. -/
  ofHit : Option String := none
  /-- Whether it may be any value, and not just one that was never there. -/
  isLoose : Bool := false

/-- The variables that the last match sets. -/
def isOfHit (name : String) : Bool :=
  match name.toList with
  | c :: _ => (c.isDigit && name != "0") || c == '&' || c == '+'
  | [] => false

/-- The place that an index means. -/
def placeAt (size : Nat) (i : Int) : Option Nat :=
  if 0 ≤ i then some i.toNat else if 0 ≤ (size : Int) + i then some ((size : Int) + i).toNat else none

mutual

/-- The list that an expression means, without making one. -/
def peekList? : Nat → Expr → Exec (Option Nat)
  | 0, _ => return none
  | fuel + 1, e => do
    match e with
    | .variable .many name => return some (← placeOf .many name)
    | .target .many e =>
      match ← peekValue? fuel e with
      | some (.list n) => return some n
      | _ => return none
    | _ => return none

/-- The table that an expression means, without making one. -/
def peekTable? : Nat → Expr → Exec (Option Nat)
  | 0, _ => return none
  | fuel + 1, e => do
    match e with
    | .variable .keyed name => return some (← placeOf .keyed name)
    | .target .keyed e =>
      match ← peekValue? fuel e with
      | some (.table n) => return some n
      | _ => return none
    | _ => return none

/-- The value of a constant or a variable. -/
def peekValue? : Nat → Expr → Exec (Option Value)
  | 0, _ => return none
  | fuel + 1, e => do
    match e with
    | .constant v => return some v
    | .unary "-" (.constant v) => return some (.number v.toNumeric.neg)
    | .row [e] => peekValue? fuel e
    | .lastIndex list =>
      match ← peekList? fuel list with
      | some n => return some (.ofInt ((← listCells n).size - 1 : Int))
      | none => return none
    | .variable .many _ | .target .many _ =>
      match ← peekList? fuel e with
      | some n => return some (.ofNat (← listCells n).size)
      | none => return none
    | .blend parts =>
      let texts ← parts.mapM fun e => do return (← peekValue? fuel e).map Value.toText
      return if texts.all Option.isSome then some (.text (String.join (texts.filterMap id))) else none
    | .binary op a b =>
      match ← peekValue? fuel a, ← peekValue? fuel b with
      | some v, some w =>
        match op with
        | "+" => return some (.number (v.toNumeric.add w.toNumeric))
        | "-" => return some (.number (v.toNumeric.sub w.toNumeric))
        | "*" => return some (.number (v.toNumeric.mul w.toNumeric))
        | "." => return some (.text (v.toText ++ w.toText))
        | _ => return none
      | _, _ => return none
    | e =>
      match ← peekCell? fuel e with
      | some n => return some (← cellValue n)
      | none => return none

/-- The cell that an expression means, without making one. -/
def peekCell? : Nat → Expr → Exec (Option Nat)
  | 0, _ => return none
  | fuel + 1, e => do
    match e with
    | .variable .one name => if isOfHit name then return none else return some (← placeOf .one name)
    | .fresh [some (.one, name)] _ _ => return some (← placeOf .one name)
    | .target .one (.reference e) => peekCell? fuel e
    | .target .one e =>
      match ← peekValue? fuel e with
      | some (.cell n) => return some n
      | _ => return none
    | .item list index =>
      match ← peekList? fuel list, ← peekValue? fuel index with
      | some n, some i =>
        let cells ← listCells n
        return (placeAt cells.size i.toInt).bind fun i => cells[i]?
      | _, _ => return none
    | .entry table key =>
      match ← peekTable? fuel table, ← peekValue? fuel key with
      | some n, some k => return (← tableOf n).get? k.toText
      | _, _ => return none
    | .assign place _ | .updateJoin _ place _ | .update _ place _ | .step _ true place => peekCell? fuel place
    | .row [e] | .kept e => peekCell? fuel e
    | _ => return none

end

/-- How deep expressions are looked at. -/
def peekDepth : Nat := 30

/-- Where the value of an expression comes from. -/
def originOf (e : Expr) : Exec Origin := do
  match e with
  | .variable .one name =>
    if isOfHit name then return { ofHit := some name } else return { cell := ← peekCell? peekDepth e }
  | e => return { cell := ← peekCell? peekDepth e }

/-- The name of an entry of a named list or table. -/
def partName (shape : Shape) (name key : String) : String :=
  match shape with
  | .keyed => "$" ++ name ++ "\x7b" ++ key ++ "\x7d"
  | _ => "$" ++ name ++ "[" ++ key ++ "]"

/-- The entry of a named list or table that is a cell. -/
def partOfCell? (shape : Shape) (name : String) (cell : Option Nat) : Exec (Option String) := do
  match cell with
  | none => return none
  | some n =>
    if (← get).gaps.contains n then return none
    match shape with
    | .keyed =>
      let t ← tableOf (← placeOf .keyed name)
      return (t.entries.find? fun e => e.2 == n).map fun e => partName shape name (shownText e.1)
    | _ =>
      let cells ← listCells (← placeOf .many name)
      return ((List.range cells.size).find? fun i => cells[i]? == some n).map fun i =>
        partName shape name (toString i)

/-- The name of what an index means in a named list or table. -/
def partSuspect? (shape : Shape) (name : String) (index : Expr) (isMatched : Bool) (o : Origin) :
    Exec (Option String) := do
  let shown (v : Value) : String := if shape = .keyed then shownText v.toText else toString v.toInt
  let within : Option String := some ("within " ++ shape.sign ++ name)
  let cellAt (v : Value) : Exec (Option Nat) := do
    if shape = .keyed then return (← tableOf (← placeOf .keyed name)).get? v.toText
    else
      let cells ← listCells (← placeOf .many name)
      return (placeAt cells.size v.toInt).bind fun i => cells[i]?
  let isConstant : Bool := match index with
    | .constant _ | .unary "-" (.constant _) => true
    | _ => false
  if isConstant then
    let v := (← peekValue? peekDepth index).getD .undefined
    if isMatched && (o.cell.isNone || (← cellAt v) ≠ o.cell) then return none
    else return some (partName shape name (shown v))
  else
    match ← partOfCell? shape name o.cell with
    | some found => return some found
    | none =>
      let missing : Option String ← match index with
        | .variable .one _ =>
          let v := (← peekValue? peekDepth index).getD .undefined
          if (← cellAt v).isNone then pure (some (partName shape name (shown v))) else pure none
        | _ => pure none
      match missing with
      | some found => return some found
      | none => return if isMatched then none else within

/-- The parts of an operation that may be meant. -/
def operandsOf : Expr → List Expr
  | .binary _ a b | .join _ a b => [a, b]
  | .unary _ e | .step _ _ e => [e]
  | .blend parts => parts
  | .either test yes no => [test, yes, no]
  | .update _ place value | .updateJoin _ place value => [place, value]
  | .call name args => if name.startsWith "->" || name = "undef" then [] else args
  | .row es => es
  | .items list (.row es) => list :: es
  | .items list e => [list, e]
  | .entries table (.row es) => table :: es
  | .entries table e => [table, e]
  | .target .one (.reference e) => [e]
  | _ => []

/-- Whether an operand cannot be meant. -/
def isConstantPart (e : Expr) : Bool :=
  match e with
  | .constant v => v.isDefined
  | _ => false

/-- The name that `look` finds in one of some operands. Only where one alone can be meant is it found without
a match. -/
def among (look : Bool → Expr → Exec (Option String)) (isMatched : Bool) (es : List Expr) :
    Exec (Option String) := do
  match es.filter fun e => !isConstantPart e with
  | [] => return none
  | [e] => look isMatched e
  | es =>
    let found ← es.mapM (look true)
    return found.findSome? id

/-- The name of what is meant by a value that is not there: `e` gave it. If it `isMatched`, the value has to be
found where the name leads. -/
def suspect? : Nat → Bool → Origin → Expr → Exec (Option String)
  | 0, _, _, _ => return none
  | fuel + 1, isMatched, o, e => do
    if isMatched && o.cell.isNone && o.ofHit.isNone && !o.isLoose then return none
    match e with
    | .variable .one name | .fresh [some (.one, name)] _ _ =>
      let shown : String := "$" ++ (if name.startsWith "::" then (name.drop 2).toString else name)
      if !isMatched then return some shown
      else if isOfHit name then return if o.ofHit == some name then some shown else none
      else if (o.cell.isSome && some (← placeOf .one name) == o.cell) then return some shown
      else return none
    | .kept e | .row [e] => suspect? fuel isMatched o e
    | .assign place value => among (suspect? fuel · o ·) isMatched [value, place]
    | .item (.variable .many name) index => partSuspect? .many name index isMatched o
    | .entry (.variable .keyed name) key => partSuspect? .keyed name key isMatched o
    | .variable shape name =>
      match ← partOfCell? shape name o.cell with
      | some found => return some found
      | none => return if isMatched then none else some ("within " ++ shape.sign ++ name)
    | .call "shift" [] | .call "pop" [] =>
      if (← get).calls = 0 then suspect? fuel isMatched o (.variable .many "ARGV") else return none
    | e => among (suspect? fuel · o ·) isMatched (operandsOf e)

/-- The name of what is meant by one of the operands of an operation. -/
def suspectAmong? (isMatched : Bool) (o : Origin) (es : List Expr) : Exec (Option String) :=
  among (suspect? peekDepth · o ·) isMatched es

/-- A caution about a value that is not there. -/
def cautionMissing (operation : String) (isMatched : Bool) (o : Origin) (candidates : List Expr) : Exec Unit := do
  if (← get).heeds "uninitialized" then
    let name ← suspectAmong? isMatched o candidates
    caution "uninitialized" ("Use of uninitialized value" ++ (name.map (" " ++ ·)).getD "" ++ " in " ++ operation) false

/-- A caution about a text that is no number. One is enough for what a cell holds. -/
def cautionNumber (operation : String) (o : Origin) (s : String) : Exec Unit := do
  let m ← get
  if m.heeds "numeric" && !isNumeric s && !o.cell.any m.judged.contains then
    match o.cell with
    | some n => modify fun m => { m with judged := n :: m.judged }
    | none => pure ()
    caution "numeric" ("Argument \"" ++ shownArgument s ++ "\" isn't numeric in " ++ operation) false

/-- Cautions about an operand of an operation: a number is wanted, or a text. -/
def lookAt (operation : String) (wantsNumber isMatched : Bool) (candidates : List Expr) (o : Origin) (v : Value) :
    Exec Unit := do
  match v with
  | .undefined => cautionMissing operation isMatched o candidates
  | .text s => if wantsNumber then cautionNumber operation o s
  | _ => pure ()

/-- Whether a value is a reason for a caution where a number is wanted or a text. -/
def isDoubtful (wantsNumber : Bool) (v : Value) : Bool :=
  match v with
  | .undefined => true
  | .text s => wantsNumber && !isNumeric s
  | _ => false

/-- Whether cautions may be given at all. -/
def Machine.isCareful (m : Machine) : Bool := m.cautions.isSome || m.isLoud

/-- Cautions about the operands of an operator. -/
def lookOver (op : String) (a b : Expr) (v w : Value) : Exec Unit := do
  if (← get).isCareful && (isDoubtful true v || isDoubtful true w) then
    let name := operationName op
    let isBitwise := op = "&" || op = "|" || op = "^"
    let areTexts : Bool := isBitwise && (v matches .text _) && (w matches .text _)
    let wantsNumber := !textOperators.contains op && !areTexts && op ≠ "xor"
    let look (e : Expr) (v : Value) (wantsNumber : Bool) : Exec Unit := do
      let o : Origin ← if op = "x" && !wantsNumber then pure {} else originOf e
      if isDoubtful wantsNumber v then lookAt name wantsNumber false [a, b] o v
    if op = "xor" then pure ()
    else if leftOperators.contains op then
      look a v wantsNumber
      look b w wantsNumber
    else
      look b w wantsNumber
      look a v (wantsNumber && op ≠ "x")

/-- A caution about how often something is repeated. -/
def lookAtCount (n : Value) : Exec Unit := do
  if n.toInt < 0 then caution "numeric" "Negative repeat count does nothing" false

/-- Cautions about texts that are put together. -/
def lookOverTexts (operation : String) (candidates : List Expr) (es : List Expr) (vs : List Value) : Exec Unit := do
  if (← get).isCareful && vs.any fun v => !v.isDefined then
    for (e, v) in es.zip vs do
      if !v.isDefined then cautionMissing operation false (← originOf e) candidates

/-- Cautions about the only operand of an operation. -/
def lookAtOne (operation : String) (wantsNumber : Bool) (e : Expr) (v : Value) : Exec Unit := do
  if (← get).isCareful && isDoubtful wantsNumber v then
    lookAt operation wantsNumber false [e] (← originOf e) v

/-- Cautions about the sign before an operand, which a name may get. -/
def lookAtSign (e : Expr) (v : Value) : Exec Unit := do
  let isName : Bool := match v with
    | .text s => s.toList.head?.any fun c => startsWord c || c == '-' || c == '+'
    | _ => false
  if !isName then lookAtOne "negation (-)" true e v

/-- Cautions about what is counted up. -/
def lookAtStep (new : Bool) (place : Expr) (v : Value) : Exec Unit := do
  match v with
  | .text s =>
    if s ≠ "" && !countsLetters s then
      lookAtOne (if new then "preincrement (++)" else "postincrement (++)") true place v
  | _ => pure ()

/-- Whether an expression is a variable of a block. -/
def isOfBlock (e : Expr) : Exec Bool := do
  match e with
  | .fresh .. => return true
  | .variable .one name => return ((← get).scope.lookup ("$" ++ name)).isSome
  | _ => return false

/-- Cautions about the values that an operator makes a new one of, to be put where the first one was. -/
def lookOverUpdate (op : String) (place value : Expr) (old v : Value) : Exec Unit := do
  if op = "." then
    let isOfParts : Bool := value matches .blend (_ :: _ :: _) | .binary "." _ _
    if !isOfParts && !v.isDefined then
      let isOwn ← isOfBlock place
      lookOverTexts (operationName ".") (if isOwn then [value] else [place, value]) [value] [v]
  else
    let mayBeMissing := ["+", "-", "|", "^"].contains op
    lookOver op place value (if mayBeMissing && !old.isDefined then .ofNat 0 else old) v

/-- Cautions about the first number and the last one of a row. -/
def lookOverRange (operation : String) (a b : Expr) (v w : Value) : Exec Unit := do
  if (← get).isCareful && (isDoubtful true v || isDoubtful true w) then
    let isText : Bool := match v with
      | .text s => !v.looksLikeNumber && s ≠ ""
      | _ => false
    lookAtOne operation (!isText) a v
    lookAtOne operation (!isText) b w

/-- Cautions about the index of a list or the key of a table. -/
def lookAtIndex (shape : Shape) (index : Expr) (v : Value) : Exec Unit := do
  match v with
  | .undefined => lookAtOne (if shape = .keyed then "hash element" else "array element") false index v
  | .text _ =>
    let isVariable : Bool := index matches .variable .one _
    if shape ≠ .keyed then lookAtOne (if isVariable then "array or hash lookup" else "array element") true index v
  | _ => pure ()

/-- Cautions about items, of which texts are wanted or numbers; `es` are the expressions that gave them. -/
def lookOverItems (operation : String) (wantsNumber isMatched isLoose : Bool) (es : List Expr) (items : List Item) :
    Exec Unit := do
  if (← get).isCareful then
    for item in items do
      let v ← item.read
      if isDoubtful wantsNumber v then
        let cell : Option Nat := match item with
          | .cell n => some n
          | .value _ => none
        let ofHit := match es with
          | [.variable .one name] => if isOfHit name then some name else none
          | _ => none
        lookAt operation wantsNumber isMatched es { cell, ofHit, isLoose } v

/-- The conversions of a format, in order: a letter for each value that is used. Also what is wrong with it. -/
def conversionsOf (operation : String) : Nat → List Char → List Char × List String
  | 0, _ => ([], [])
  | _ + 1, [] => ([], [])
  | fuel + 1, '%' :: '%' :: s => conversionsOf operation fuel s
  | fuel + 1, '%' :: s =>
    let flags := s.takeWhile "+-0 #v".toList.contains
    let body := s.drop flags.length
    let width := body.takeWhile fun c => c.isDigit || c == '.' || c == '*' || c == '$'
    let body := body.drop width.length
    let size := body.takeWhile "hlqLVzt".toList.contains
    let body := body.drop size.length
    let stars := width.filter (· == '*')
    let raw (n : Nat) : String := "\"%" ++ String.ofList (s.take n) ++ "\""
    let length := flags.length + width.length + size.length
    match body with
    | c :: rest =>
      if "csdiuoxXeEfFgGaAbBDUOvpn".toList.contains c then
        let (cs, faults) := conversionsOf operation fuel rest
        (stars ++ c :: cs, faults)
      else
        let (cs, faults) := conversionsOf operation fuel rest
        (cs, ("Invalid conversion in " ++ operation ++ ": " ++ raw (length + 1)) :: faults)
    | [] =>
      ([], ["Invalid conversion in " ++ operation ++ ": " ++ (if length = 0 then "end of string" else raw length)])
  | fuel + 1, _ :: s => conversionsOf operation fuel s

/-- Cautions about the values for a format. -/
def lookOverFormat (operation : String) (es : List Expr) (items : List Item) : Exec Unit := do
  if (← get).isCareful then
    match items with
    | [] => return ()
    | format :: rest =>
      let s := (← format.read).toText
      let (letters, faults) := conversionsOf operation (s.length + 1) s.toList
      let isChosen := s.toList.contains '$'
      for (c, item) in letters.zip rest do
        lookOverItems operation (c != 's') false true es [item]
      for fault in faults do caution "printf" fault false
      if !isChosen then
        for _ in letters.drop rest.length do caution "missing" ("Missing argument in " ++ operation) false
        if rest.length > letters.length && faults.isEmpty then
          caution "redundant" ("Redundant argument in " ++ operation) false

/-- The item that the value of an expression is. -/
def itemFrom (e : Expr) (v : Value) : Exec Item := do
  match (← originOf e).cell with
  | some n => return .cell n
  | none => return .value v

/-- The order in which values are put without a function of the script. -/
def plainSorting? : Option Expr → Option (Bool × Bool)
  | none => some (false, false)
  | some order => plainOrder? order

/-- Items put in order as numbers or as texts, with cautions about them. -/
def sortedPlainly (areNumbers isBackward : Bool) (es : List Expr) (items : List Item) : Exec (List Value) := do
  let vs ← readAll items
  let isDoubted := (← get).isCareful && items.length > 1 && vs.any (isDoubtful areNumbers)
  if !isDoubted then
    let sorted : Id (Array Value) := sortValues (fun v w => pure (compareValues areNumbers isBackward v w)) vs.toArray
    return sorted.run.toList
  else
    lookOverItems "sort" areNumbers true false es items
    let compared (x y : Item × Value) : Exec Ordering := do
      for (item, v) in [x, y] do
        if !v.isDefined then lookOverItems "sort" areNumbers true false es [item]
      return compareValues areNumbers isBackward x.2 y.2
    let sorted ← sortValues compared (items.zip vs).toArray
    return sorted.toList.map Prod.snd

/-- Cautions about texts that lose their ends. -/
def lookOverCut (name : String) (es : List Expr) (items : List Item) : Exec Unit :=
  match es with
  | [.assign ..] => lookOverItems name false false false [] items
  | [.variable .one x] => lookOverItems ("scalar " ++ name) false false false [.variable .one x] items
  | es => lookOverItems name false false false es items

/-- Cautions about where a part of a list starts and how long it is. -/
def lookOverBounds (operation : String) (es : List Expr) (bounds : List Value) : Exec Unit := do
  if (← get).isCareful then
    for (e, v) in (es.zip bounds).take 2 do lookAtOne operation true e v

/-- Cautions about a text of which a part is taken. -/
def lookOverPart (es : List Expr) (bounds : List Value) (e : Expr) (v : Value) : Exec Unit := do
  if (← get).isCareful then
    for (e, v) in ((es.zip bounds).take 2).reverse do lookAtOne "substr" true e v
    lookAtOne "substr" false e v

/-- A caution about a loop that is left from within a function. -/
def lookAtLeaving {α : Type} (what : String) (r : Except Stop α) : Exec Unit :=
  let word : Option String := match r with
    | .error (.last _) => some "last"
    | .error (.next _) => some "next"
    | .error (.redo _) => some "redo"
    | _ => none
  match word with
  | some word => caution "exiting" ("Exiting " ++ what ++ " via " ++ word) false
  | none => return ()

/-- The first character of some that is no digit and joins no digits. -/
def strayIn (isDigit : Char → Bool) : List Char → Option Char
  | [] => none
  | '_' :: c :: rest => if isDigit c then strayIn isDigit rest else some '_'
  | c :: rest => if isDigit c then strayIn isDigit rest else some c

/-- A caution about a text that `hex` or `oct` reads as a number. -/
def lookAtDigits (name s : String) : Exec Unit := do
  let cs := s.toList.dropWhile Records.isSpace
  let body := match cs with
    | '0' :: rest => if rest.head?.any "xXbBoO".toList.contains then rest else cs
    | cs => cs
  let stray (kind : String) (isDigit : Char → Bool) (cs : List Char) : Option String :=
    (strayIn isDigit cs).map fun c => "Illegal " ++ kind ++ " digit '" ++ String.singleton c ++ "' ignored"
  let found := match body with
    | 'x' :: rest | 'X' :: rest => stray "hexadecimal" Shell.isHex rest
    | 'b' :: rest | 'B' :: rest =>
      if name = "hex" then stray "hexadecimal" Shell.isHex body else stray "binary" (fun c => c == '0' || c == '1') rest
    | cs =>
      let rest := if cs.head?.any "oO".toList.contains then cs.tail else cs
      if name = "hex" then stray "hexadecimal" Shell.isHex cs
      else if (strayIn Shell.isOctal rest).any fun c => c == '8' || c == '9' then stray "octal" Shell.isOctal rest
      else none
  found.forM fun message => caution "digit" message false

/-- Cautions about the arguments of a function. -/
def lookOverCall (name : String) (es : List Expr) (items : List Item) : Exec Unit := do
  let texts (count : Nat) : Exec Unit := lookOverItems (operationName name) false false false es (items.take count)
  let numbers : Exec Unit := lookOverItems name true false false es items
  match name with
  | "lc" | "uc" | "lcfirst" | "ucfirst" | "fc" | "quotemeta" | "ord" => texts 1
  | "hex" | "oct" =>
    texts 1
    lookAtDigits name ((← items.head?.mapM Item.read).getD .undefined).toText
  | "chr" =>
    numbers
    let n := (← items.head?.mapM Item.read).map Value.toInt
    if n.any (· < 0) then caution "utf8" ("Invalid negative number (" ++ toString (n.getD 0) ++ ") in chr") false
  | "abs" | "int" | "sqrt" | "sin" | "cos" | "exp" | "log" | "sleep" | "atan2" => numbers
  | "join" | "pack" | "unpack" => texts items.length
  | "index" | "rindex" => texts 2
  | "sprintf" => lookOverFormat name es items
  | "sum" | "sum0" | "max" | "min" | "product" => lookOverItems "subroutine entry" true false false es items
  | _ => return ()

/-- Cautions about the keys and values that a table gets. -/
def lookOverPairs (operation : String) (es : List Expr) (items : List Item) : Exec Unit := do
  if (← get).isCareful then
    let isNamed := operation = "list assignment"
    if items.length % 2 = 1 then
      let v ← match items with
        | [item] => item.read
        | _ => pure .undefined
      let isReference : Bool := match v with
        | .list _ | .table _ => true
        | _ => false
      if isNamed && isReference then caution "misc" "Reference found where even-sized list expected" false
      else caution "misc" ("Odd number of elements in " ++ (if isNamed then "hash assignment" else "anonymous hash")) false
    let rec keys : List Item → List Item
      | key :: _ :: rest => key :: keys rest
      | rest => rest
    lookOverItems operation false false false es (keys items)

/-- A caution about a file that is not open, or not for what is done with it. -/
def lookAtHandle (operation name : String) (isInput : Bool) : Exec Unit := do
  let m ← get
  let shown := (name.takeWhile (· != '#')).toString
  match m.handles.get? name with
  | some h =>
    if h.isOutput && isInput then caution "io" ("Filehandle " ++ shown ++ " opened only for output") false
    else if !h.isOutput && !isInput then caution "io" ("Filehandle " ++ shown ++ " opened only for input") false
  | none =>
    if name = "ARGV" then pure ()
    else if name = "STDIN" then
      if !isInput then caution "io" "Filehandle STDIN opened only for input" false
    else if name.startsWith "$" || m.known.contains name then
      caution "closed" (operation ++ "() on closed filehandle " ++ shown) false
    else caution "unopened" (operation ++ "() on unopened filehandle " ++ shown) false

/-- A caution about functions that call one another very often. -/
def lookAtDepth (n : Nat) : Exec Unit := do
  let m ← get
  if m.calls ≥ 99 && m.heeds "recursion" && (m.frames.filter fun f => f.code == some n).length = 99 then
    match m.routines.entries.find? fun e => e.2 == n with
    | some (name, _) =>
      caution "recursion" ("Deep recursion on subroutine \"" ++ (if name.toList.contains ':' then name else "main::" ++ name) ++
        "\"") false
    | none => caution "recursion" "Deep recursion on anonymous subroutine" false

end ClassLens.Tool.Scripting
