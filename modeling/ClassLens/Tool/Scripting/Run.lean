import ClassLens.Tool.Scripting.Functions
import ClassLens.Tool.Scripting.Handles
import ClassLens.Tool.Scripting.Lists

/-! # Running scripts

* `scalarOf`, `itemsOf`: an expression as one value, and as many.
* `cellOf`, `listPlace`, `tablePlace`: the place in the memory that an expression means.
* `runActs`, `runBlock`: what acts do.
* `runScript`: a whole script.

Scripts are run with fuel, as they may never end. -/

namespace ClassLens.Tool.Scripting

open Shell (tell)

/-- The values of variables that the run itself sets. -/
def special? (name : String) : Exec (Option Value) := do
  let m ← get
  let ofHit (f : Hit → Value) : Exec (Option Value) := return some ((m.hit.map f).getD .undefined)
  match name with
  | "&" => ofHit fun h => .text h.whole
  | "\x60" => ofHit fun h => .text (between h.text 0 h.start)
  | "'" => ofHit fun h => .text (between h.text h.stop h.text.size)
  | "+" =>
    ofHit fun h =>
      match ((List.range h.groups).reverse.map fun i => h.group (i + 1)).find? Value.isDefined with
      | some v => v
      | none => .undefined
  | "!" => return some (.fault m.fault)
  | "." =>
    match m.lastHandle.bind m.handles.get? with
    | some h => return some (.ofNat h.count)
    | none => return some .undefined
  | "$" => return some (.ofNat (← Shell.shell).process)
  | "^O" => return some (.text "linux")
  | "^X" => return some (.text "/usr/bin/perl")
  | "^V" => return some (.text "v5.36.0")
  | "]" => return some (.text "5.036000")
  | "<" | ">" => return some (.ofInt 0)
  | "(" | ")" => return some (.text "0 0")
  | "^T" => return some (.ofInt 0)
  | "^W" => return some (.ofInt 0)
  | name =>
    match name.toList with
    | c :: cs =>
      if c.isDigit && name ≠ "0" then
        let n := Shell.digitValue 10 (c :: cs)
        return some ((m.hit.map fun h => h.group n).getD .undefined)
      else return none
    | [] => return none

/-- What a row is, where one value is wanted: its last one. -/
def lastOf (vs : List Value) : Value := vs.getLastD .undefined

/-- Whether a loop is meant by a label. -/
def isMeant (label own : String) : Bool := label = "" || label == own

/-- A function by its name. -/
def routine? (name : String) : Exec (Option Nat) :=
  return (← get).routines.get? (if name.startsWith "main::" then (name.drop 6).toString else name)

/-- The class that a value belongs to, or that it names. -/
def classOf (v : Value) : Exec (Option String) := do
  match v with
  | .text s => return some s
  | v => return (← get).classes.lookup v.address

/-- The method of a class, or of the classes that it builds on. -/
def method? (name : String) : Nat → String → Exec (Option Nat)
  | 0, _ => return none
  | fuel + 1, space => do
    match (← get).routines.get? (if space = "main" then name else space ++ "::" ++ name) with
    | some n => return some n
    | none =>
      inheritedMethod? (method? name fuel) space

/-- Makes the functions known that acts define, within blocks too. -/
def announce : Nat → List Act → Exec Unit
  | 0, _ => return ()
  | _ + 1, [] => return ()
  | fuel + 1, act :: acts => do
    match act with
    | .define name body =>
      let n := (← get).codes.size
      modify fun m => { m with codes := m.codes.push { body, isNamed := true } }
      if name = "END" then modify fun m => { m with endings := n :: m.endings }
      else if name = "BEGIN" then modify fun m => { m with beginnings := m.beginnings ++ [n] }
      else modify fun m => { m with routines := m.routines.insert name n }
    | .block _ body => announce fuel body
    | _ => pure ()
    announce fuel acts

/-- Puts back what was kept since there were so many. -/
def putBack (count : Nat) : Nat → Exec Unit
  | 0 => return ()
  | fuel + 1 => do
    let m ← get
    if m.kept.length ≤ count then return ()
    else
      match m.kept with
      | k :: rest =>
        set { m with kept := rest }
        match k with
        | .cell n v => putCell n v
        | .list n cells => putList n cells
        | .table n t => putTable n t
        putBack count fuel
      | [] => return ()

/-- A value of a list that is sorted, put where its order looks for it. -/
def setPair (a b : Value) : Exec Unit := do
  setGlobal "a" a
  setGlobal "b" b

/-- Tells what is no fault. -/
def warn (message : String) : Exec Unit := do
  flush "STDERR"
  tell (if (← get).encodes "STDERR" then Shell.ofText message else toOutput message)

/-- The words of a fault: they say where it stands if they do not end their line. -/
def faultText (vs : List Value) (nothing : String) : Exec String := do
  let s := String.join (vs.map Value.toText)
  let fault := (← global "@").toText
  let s := if s ≠ "" then s
    else if fault = "" then nothing
    else fault ++ (if nothing = "Died" then "\t...propagated" else "\t...caught")
  if s.endsWith "\n" then return s else return s ++ (← whereabouts)

/-- Whether all values of a row are put under texts. -/
def isTable : Expr → Bool
  | .variable .keyed _ | .target .keyed _ | .fresh [some (.keyed, _)] _ _ => true
  | .kept e => isTable e
  | _ => false

/-- The expressions whose texts an expression puts together. -/
def partsOf : Expr → List Expr
  | .binary "." a b =>
    let first : Bool := a matches .blend _ | .binary "." _ _
    (if first then partsOf a else [a]) ++ [b]
  | .blend parts => parts
  | e => [e]

/-- Whether an expression is just a variable or a constant. -/
def isPlainValue : Expr → Bool
  | .constant _ | .variable .. | .item .. | .entry .. => true
  | .blend [e] => isPlainValue e
  | _ => false

/-- Whether there is just one act that does something. -/
def isShort (acts : List Act) : Bool := (acts.filter fun a => !(a matches .heed _)).length ≤ 1

/-- What a command writes. -/
def outputOf (text : String) : Exec String := do
  let channel ← Shell.makeChannel (.ofText "")
  let status ← runCommand [text] none (some channel)
  setGlobal "?" (if status = 65535 then .ofInt (-1) else .ofNat status)
  Shell.drain channel

/-- Does something until a fault ends it; the fault is put where the script looks for it. -/
def guardedBy (fuel : Nat) (wants : Option Bool) (body : Exec (List Value)) : Exec (List Value) :=
  match fuel with
  | 0 => throw .exhausted
  | _ + 1 => do
    let m ← get
    let restore : Exec Unit := modify fun x => { x with
      scope := m.scope
      depth := m.depth
      calls := m.calls
      frames := m.frames
      wants := m.wants
      arguments := m.arguments
      source := m.source }
    modify fun x => { x with
      wants
      frames := { code := none, line := m.line, wants } :: x.frames }
    let r ← tryTo body
    modify fun x => { x with cautions := m.cautions }
    lookAtLeaving "eval" r
    restore
    match r with
    | .ok vs | .error (.return vs) =>
      setGlobal "@" (.text "")
      return vs
    | .error (.die v) =>
      setGlobal "@" v
      return if wants == some true then [] else [.undefined]
    | .error stop => throw stop

mutual

/-- The value of an expression. -/
def scalarOf (fuel : Nat) (e : Expr) : Exec Value :=
  match fuel with
  | 0 => throw .exhausted
  | fuel + 1 => do
    match e with
    | .constant v => return v
    | .blend _ | .binary "." _ _ => concatenated fuel [] e
    | .variable .one name =>
      match ← special? name with
      | some v => return v
      | none => cellValue (← placeOf .one name)
    | .variable .many _ | .target .many _ => return .ofNat (← listCells (← listPlace fuel e)).size
    | .variable .keyed _ | .target .keyed _ => return .ofNat (← tableOf (← tablePlace fuel e)).size
    | .target .one _ => cellValue (← cellOf fuel e)
    | .item .. | .entry .. => (← entryOf fuel e).read
    | .items .. | .entries .. | .pick .. => return lastOf (← valuesOf fuel e)
    | .lastIndex list => return .ofInt ((← listCells (← listPlace fuel list)).size - 1 : Int)
    | .row es =>
      match es.reverse with
      | [] => return .undefined
      | last :: before =>
        for e in before.reverse do
          let _ ← scalarOf fuel e
        scalarOf fuel last
    | .assign place value =>
      if isRow place then
        let items ← itemsOf fuel value
        if isTable place then lookOverPairs "list assignment" [value] items
        assignRow fuel [place] (← readAll items)
        return .ofNat items.length
      else
        let v ← assigned fuel place value
        putPlace fuel place v
        return v
    | .update op place value =>
      match op, place with
      | "x", .row [list] =>
        let n ← scalarOf fuel value
        let vs ← valuesOf fuel list
        assignRow fuel [list] (List.replicate n.toInt.toNat vs).flatten
        return .undefined
      | op, place =>
        if isRow place && op ≠ "x" then
          let v ← scalarOf fuel value
          let n ← listPlace fuel place
          let cells ← listCells n
          return v.next.next |> fun _ => Value.ofNat cells.size
        else
          let v ← if op = "." then assigned fuel place value else scalarOf fuel value
          let old ← scalarOf fuel place
          lookOverUpdate op place value old v
          deliver fuel
          let new ← compute op old v
          putPlace fuel place new
          return new
    | .unary op e =>
      let v ← scalarOf fuel e
      match op with
      | "!" => return .ofBool !v.holds
      | "-" =>
        lookAtSign e v
        return negated v
      | "~" =>
        lookAtOne "1's complement (~)" true e v
        return .ofNat (Nat.pow 2 64 - 1 - wordOf v)
      | _ => return v
    | .binary op a b =>
      let v ← scalarOf fuel a
      let w ← scalarOf fuel b
      lookOver op a b v w
      if op = "x" then lookAtCount w
      deliver fuel
      compute op v w
    | .join j a b =>
      let v ← scalarOf fuel a
      match j with
      | .both => if v.holds then scalarOf fuel b else return v
      | .any => if v.holds then return v else scalarOf fuel b
      | .there => if v.isDefined then return v else scalarOf fuel b
    | .updateJoin j place value =>
      let v ← scalarOf fuel place
      let keeps := match j with
        | .both => !v.holds
        | .any => v.holds
        | .there => v.isDefined
      if keeps then return v
      else
        let w ← scalarOf fuel value
        putPlace fuel place w
        return w
    | .either test yes no =>
      if (← scalarOf fuel test).holds then scalarOf fuel yes else scalarOf fuel no
    | .step up new place =>
      let old ← scalarOf fuel place
      if up then lookAtStep new place old
      let next := if up then old.next else .number (old.toNumeric.sub (.whole 1))
      putPlace fuel place next
      if new then return next
      else
        match old with
        | .undefined => return if up then .ofInt 0 else .undefined
        | v => return v
    | .range number late a b => holdsBetween fuel number late a b
    | .newList es =>
      let vs ← allValues fuel es
      return .list (← newList (← cellsFor vs))
    | .newTable es =>
      let items ← allItems fuel es
      lookOverPairs "anonymous hash (\x7b\x7d)" es items
      let n ← newTable
      fillTable n (← readAll items)
      return .table n
    | .newCode body =>
      let m ← get
      set { m with codes := m.codes.push { body, scope := m.scope } }
      return .code m.codes.size
    | .reference e =>
      match e with
      | .variable .many _ | .target .many _ => return .list (← listPlace fuel e)
      | .variable .keyed _ | .target .keyed _ => return .table (← tablePlace fuel e)
      | .fresh [some (.many, name)] false keeps => return .list (← freshPlace .many name keeps)
      | .fresh [some (.keyed, name)] false keeps => return .table (← freshPlace .keyed name keeps)
      | .routine _ | .newCode _ => scalarOf fuel e
      | .row [e] => scalarOf fuel (.reference e)
      | e => return .cell (← cellOf fuel e)
    | .hits negated text pattern flags =>
      let (flags, m) ← matcherFor fuel pattern flags
      if flags.toList.contains 'g' then
        let cell ← cellOf fuel (text.getD record)
        lookAtOne "pattern match (m//)" false (text.getD record) (← cellValue cell)
        let s := (← cellValue cell).toText.toList.toArray
        let (start, mayBeEmpty) := ((← get).positions.lookup cell).getD (0, true)
        match if start ≤ s.size then m.find? s start mayBeEmpty else none with
        | some h =>
          modify fun x => { x with
            hit := some h
            positions := (cell, h.stop, h.start < h.stop) :: x.positions.filter fun p => p.1 != cell }
          return .ofBool !negated
        | none =>
          if !flags.toList.contains 'c' then
            modify fun x => { x with positions := x.positions.filter fun p => p.1 != cell }
          return .ofBool negated
      else
        let s ← scalarOf fuel (text.getD record)
        lookAtOne "pattern match (m//)" false (text.getD record) s
        match m.find? s.toText.toList.toArray 0 true with
        | some h =>
          modify fun x => { x with hit := some h }
          return .ofBool !negated
        | none => return .ofBool negated
    | .replace negated text pattern new flags =>
      let (flags, m) ← matcherFor fuel pattern flags
      let place := text.getD record
      let old ← scalarOf fuel place
      lookAtOne "substitution (s///)" false place old
      let old := old.toText
      let s := old.toList.toArray
      let all := flags.toList.contains 'g'
      let (count, new) ← replaced fuel m s all new flags 0 0 true 0 ""
      if flags.toList.contains 'r' then return .text (if count = 0 then old else new)
      else
        if count > 0 then putPlace fuel place (.text new)
        return if negated then .ofBool (count = 0) else if count = 0 then .text "" else .ofNat count
    | .exchange text x =>
      let place := text.getD record
      let old ← scalarOf fuel place
      if !(place matches .row [.assign ..]) then lookAtOne "transliteration (tr///)" false place old
      else if !old.isDefined then cautionMissing "transliteration (tr///)" false {} []
      let old := old.toText
      let (new, count) := x.apply old
      if x.copies then return .text new
      else
        if new ≠ old then putPlace fuel place (.text new)
        return .ofNat count
    | .makePattern pattern flags =>
      let (flags, source) ← patternOf fuel pattern flags
      let flags := String.ofList (flags.toList.filter "msixn".toList.contains)
      let _ ← matcherOf flags source
      return .pattern flags source
    | .call name args =>
      match name with
      | "reverse" =>
        let es := if args.isEmpty then [record] else args
        let items ← allItems fuel es
        lookOverItems "reverse" false false false es items
        let vs ← readAll items
        return .text (String.ofList (String.join (vs.map Value.toText)).toList.reverse)
      | "localtime" | "gmtime" =>
        let t ← match args with
          | [] => now
          | e :: _ => do
            let v ← scalarOf fuel e
            lookAtOne name true e v
            pure v.toInt
        return .text (timeLine t)
      | "keys" | "values" => return .ofNat (← valuesOf fuel e).length
      | "uniq" => return .ofNat (← valuesOf fuel e).length
      | "split" => return .ofNat (← valuesOf fuel e).length
      | "unpack" => return (← valuesOf fuel e).headD .undefined
      | _ => return lastOf (← callWord fuel false name args)
    | .invoke code args => return lastOf (← invokeCode fuel (some false) code args)
    | .routine name =>
      match ← routine? name with
      | some n => return .code n
      | none =>
        let m ← get
        set { m with
          codes := m.codes.push { body := [], isNamed := true }
          routines := m.routines.insert name m.codes.size }
        return .code m.codes.size
    | .bareword name =>
      match ← routine? name with
      | some n => return lastOf (← callCode fuel n [] (some false))
      | none => return .text name
    | .readLine h =>
      let name := handleName (← scalarOf fuel h)
      match ← if name = "ARGV" then takeArgument true 100000 else takeRecord name true with
      | some s => return .text s
      | none =>
        lookAtHandle "readline" name true
        return .undefined
    | .write how handle args => written fuel how handle args
    | .sorted .. | .each .. => return .ofNat (← itemsOf fuel e).length
    | .perform body => return lastOf (← runBlock fuel (some false) body)
    | .guarded body => return lastOf (← guardedBy fuel (some false) (runBlock fuel (some false) body))
    | .command text =>
      let s ← scalarOf fuel text
      return .text (← outputOf s.toText)
    | .paths pattern => return (← valuesOf fuel (.paths pattern)).headD .undefined
    | .fresh names isRow keeps =>
      match names, isRow with
      | [some (.one, name)], _ => cellValue (← freshPlace .one name keeps)
      | names, _ =>
        for v in names do
          match v with
          | some (shape, name) =>
            let _ ← freshPlace shape name keeps
          | none => pure ()
        return .ofNat names.length
    | .kept e =>
      if isRow e then
        let _ ← itemsOf fuel (.kept e)
        return .undefined
      else cellValue (← cellOf fuel (.kept e))
termination_by structural fuel

/-- The item of a list or the entry of a table, which may not be there. -/
def entryOf (fuel : Nat) (e : Expr) : Exec Item :=
  match fuel with
  | 0 => throw .exhausted
  | fuel + 1 => do
    let found ← match e with
      | .item list index =>
        let place ← listPlace fuel list
        let i ← scalarOf fuel index
        lookAtIndex .many index i
        let cells ← listCells place
        pure ((indexIn cells.size i.toInt).bind fun i => cells[i]?)
      | .entry table key =>
        let place ← tablePlace fuel table
        let k ← scalarOf fuel key
        lookAtIndex .keyed key k
        pure ((← tableOf place).get? k.toText)
      | _ => pure none
    match found with
    | some n => return .cell n
    | none => return .value .undefined
termination_by structural fuel

/-- The values of expressions, one of each. -/
def scalars (fuel : Nat) (es : List Expr) : Exec (List Value) :=
  match fuel with
  | 0 => throw .exhausted
  | fuel + 1 => do
    match es with
    | [] => return []
    | e :: es =>
      let v ← scalarOf fuel e
      return v :: (← scalars fuel es)
termination_by structural fuel

/-- The text of an expression that puts texts together; cautions may mean the `more` expressions too. -/
def concatenated (fuel : Nat) (more : List Expr) (e : Expr) : Exec Value :=
  match fuel with
  | 0 => throw .exhausted
  | fuel + 1 => do
    let parts := partsOf e
    let vs ← scalars fuel parts
    let isOne : Bool := e matches .blend [_]
    lookOverTexts (if isOne then "string" else operationName ".") (parts ++ more) parts vs
    deliver fuel
    return .text (String.join (vs.map Value.toText))
termination_by structural fuel

/-- The value that a place gets. -/
def assigned (fuel : Nat) (place value : Expr) : Exec Value :=
  match fuel with
  | 0 => throw .exhausted
  | fuel + 1 => do
    match value with
    | .blend (_ :: _ :: _) | .binary "." _ _ =>
      concatenated fuel (if ← isOfBlock place then [] else [place]) value
    | value => scalarOf fuel value
termination_by structural fuel

/-- Hands the cautions that wait to the function that the script has for them. -/
def deliver (fuel : Nat) : Exec Unit :=
  match fuel with
  | 0 => throw .exhausted
  | fuel + 1 => do
    match (← get).queued with
    | [] => return ()
    | text :: rest =>
      modify fun m => { m with queued := rest }
      match ← cautionHandler? with
      | some n =>
        let _ ← callCode fuel n [.value (.text text)] none
      | none => tell text
      deliver fuel
termination_by structural fuel

/-- The values of an expression. -/
def valuesOf (fuel : Nat) (e : Expr) : Exec (List Value) :=
  match fuel with
  | 0 => throw .exhausted
  | fuel + 1 => do readAll (← itemsOf fuel e)
termination_by structural fuel

/-- The values of expressions, one after the other. -/
def allValues (fuel : Nat) (es : List Expr) : Exec (List Value) :=
  match fuel with
  | 0 => throw .exhausted
  | fuel + 1 => do
    match es with
    | [] => return []
    | e :: es =>
      let vs ← valuesOf fuel e
      return vs ++ (← allValues fuel es)
termination_by structural fuel

/-- The items of expressions, one after the other. -/
def allItems (fuel : Nat) (es : List Expr) : Exec (List Item) :=
  match fuel with
  | 0 => throw .exhausted
  | fuel + 1 => do
    match es with
    | [] => return []
    | e :: es =>
      let items ← itemsOf fuel e
      return items ++ (← allItems fuel es)
termination_by structural fuel

/-- What an expression gives where many values are wanted. -/
def itemsOf (fuel : Nat) (e : Expr) : Exec (List Item) :=
  match fuel with
  | 0 => throw .exhausted
  | fuel + 1 => do
    let values (vs : List Value) : Exec (List Item) := return vs.map Item.value
    match e with
    | .variable .one name =>
      match ← special? name with
      | some v => values [v]
      | none => return [.cell (← placeOf .one name)]
    | .variable .many _ | .target .many _ => return (← listCells (← listPlace fuel e)).toList.map Item.cell
    | .variable .keyed _ | .target .keyed _ =>
      let t ← tableOf (← tablePlace fuel e)
      return t.entries.flatMap fun (k, n) => [Item.value (.text k), Item.cell n]
    | .target .one _ => return [.cell (← cellOf fuel e)]
    | .items list indices =>
      let cells ← listCells (← listPlace fuel list)
      let is ← valuesOf fuel indices
      return is.map fun i =>
        match (indexIn cells.size i.toInt).bind fun i => cells[i]? with
        | some n => Item.cell n
        | none => Item.value .undefined
    | .entries table keys =>
      let t ← tableOf (← tablePlace fuel table)
      let ks ← valuesOf fuel keys
      return ks.map fun k =>
        match t.get? k.toText with
        | some n => Item.cell n
        | none => Item.value .undefined
    | .pick row indices =>
      let vs ← valuesOf fuel row
      let is ← valuesOf fuel indices
      if vs.isEmpty then return []
      else
        return is.map fun i =>
          match (indexIn vs.length i.toInt).bind fun i => vs[i]? with
          | some v => Item.value v
          | none => Item.value .undefined
    | .row es => allItems fuel es
    | .assign place value =>
      if isRow place then
        let items ← itemsOf fuel value
        if isTable place then lookOverPairs "list assignment" [value] items
        assignRow fuel [place] (← readAll items)
        match place with
        | .fresh names _ _ =>
          allItems fuel (names.filterMap fun n => n.map fun v => Expr.variable v.1 v.2)
        | .kept e => itemsOf fuel e
        | place => itemsOf fuel place
      else return [.cell (← cellOf fuel e)]
    | .either test yes no =>
      if (← scalarOf fuel test).holds then itemsOf fuel yes else itemsOf fuel no
    | .join j a b =>
      let v ← scalarOf fuel a
      let keeps := match j with
        | .both => !v.holds
        | .any => v.holds
        | .there => v.isDefined
      if keeps then values [v] else itemsOf fuel b
    | .range _ _ a b => rowBetween fuel "range (or flop)" a b
    | .binary "x" (.row es) n =>
      let vs ← allValues fuel es
      let count := n
      let n ← scalarOf fuel count
      lookAtOne (operationName "x") true count n
      lookAtCount n
      values (List.replicate n.toInt.toNat vs).flatten
    | .hits negated text pattern flags =>
      if negated then values [← scalarOf fuel e]
      else
        let (flags, m) ← matcherFor fuel pattern flags
        if flags.toList.contains 'g' then
          let subject := text.getD record
          let s ← scalarOf fuel subject
          lookAtOne "pattern match (m//)" false subject s
          let hits := m.all s.toText.toList.toArray
          match hits.getLast? with
          | some h => modify fun x => { x with hit := some h }
          | none => pure ()
          values (hits.flatMap fun h => if h.groups = 0 then [.text h.whole] else h.values)
        else
          let s ← scalarOf fuel (text.getD record)
          lookAtOne "pattern match (m//)" false (text.getD record) s
          match m.find? s.toText.toList.toArray 0 true with
          | some h =>
            modify fun x => { x with hit := some h }
            values (if h.groups = 0 then [.ofInt 1] else h.values)
          | none => return []
    | .call name args => values (← callWord fuel true name args)
    | .invoke code args => values (← invokeCode fuel (some true) code args)
    | .bareword name =>
      match ← routine? name with
      | some n => values (← callCode fuel n [] (some true))
      | none => values [.text name]
    | .readLine h =>
      let name := handleName (← scalarOf fuel h)
      let rec all : Nat → List Value → Exec (List Value)
        | 0, found => return found.reverse
        | n + 1, found => do
          match ← if name = "ARGV" then takeArgument false 100000 else takeRecord name false with
          | some s => all n (.text s :: found)
          | none => return found.reverse
      lookAtHandle "readline" name true
      values (← all 10000000 [])
    | .sorted order args =>
      let items ← allItems fuel args
      values (← sortedBy fuel order args items)
    | .each keeps body args =>
      let items ← allItems fuel args
      let place ← globalPlace .one "_"
      let r ← tryTo (gather fuel keeps body items)
      modify fun m => { m with globals := m.globals.insert "$_" place }
      match r with
      | .ok items => return items
      | .error stop => throw stop
    | .perform body => values (← runBlock fuel (some true) body)
    | .guarded body => values (← guardedBy fuel (some true) (runBlock fuel (some true) body))
    | .command text =>
      let s ← scalarOf fuel text
      values ((fullLines (← outputOf s.toText)).map Value.text)
    | .paths pattern =>
      let s ← scalarOf fuel pattern
      let found ← (wordsIn s.toText.toList).mapM fun w => do
        let t ← Tool.files
        let names := Shell.expandNames t (w.toList.map fun c => (c, false))
        let isGlob := w.toList.any "*?[".toList.contains
        let missing : Bool := names == [w] && isGlob && (t.nodeOf? (Tool.pathOf w)).isNone
        return if missing then [] else names.map Value.text
      values found.flatten
    | .fresh names _ keeps =>
      let places ← names.mapM fun v => do
        match v with
        | some (.one, name) => return [Item.cell (← freshPlace .one name keeps)]
        | some (shape, name) =>
          let _ ← freshPlace shape name keeps
          return []
        | none => return [Item.value .undefined]
      return places.flatten
    | .kept (.row es) => allItems fuel (es.map Expr.kept)
    | .kept (.variable .many name) =>
      let n ← placeOf .many name
      let cells ← listCells n
      modify fun m => { m with kept := .list n cells :: m.kept }
      putList n #[]
      return []
    | .kept (.variable .keyed name) =>
      let n ← placeOf .keyed name
      let t ← tableOf n
      modify fun m => { m with kept := .table n t :: m.kept }
      putTable n .empty
      return []
    | .kept _ => return [.cell (← cellOf fuel e)]
    | .item .. | .entry .. => return [← entryOf fuel e]
    | e => values [← scalarOf fuel e]
termination_by structural fuel

/-- The numbers or the texts of a row, by its first one and its last one. -/
def rowBetween (fuel : Nat) (operation : String) (a b : Expr) : Exec (List Item) :=
  match fuel with
  | 0 => throw .exhausted
  | fuel + 1 => do
    let v ← scalarOf fuel a
    let w ← scalarOf fuel b
    lookOverRange operation a b v w
    let isText : Bool := match v with
      | .text s => !v.looksLikeNumber && s ≠ ""
      | _ => false
    if isText then return (textsBetween v.toText w.toText 1000000).map fun s => Item.value (.text s)
    else
      let (low, high) := (v.toInt, w.toInt)
      return (List.range (high - low + 1).toNat).map fun (i : Nat) => Item.value (.ofInt (low + i))
termination_by structural fuel

/-- Whether something that starts and ends has started. -/
def holdsBetween (fuel number : Nat) (late : Bool) (a b : Expr) : Exec Value :=
  match fuel with
  | 0 => throw .exhausted
  | fuel + 1 => do
    let test (e : Expr) : Exec Bool := do
      match e with
      | .constant (.number n) =>
        let count := ((← special? ".").getD .undefined).toNumeric
        return (count.compare? n) == some .eq
      | e => return (← scalarOf fuel e).holds
    let finish (count : Nat) : Exec Value := do
      modify fun m => { m with ranges := m.ranges.filter fun r => r.1 != number }
      return .text (toString count ++ "E0")
    let goOn (count : Nat) : Exec Value := do
      modify fun m => { m with ranges := (number, count) :: m.ranges.filter fun r => r.1 != number }
      return .ofNat count
    match (← get).ranges.lookup number with
    | some count => if ← test b then finish (count + 1) else goOn (count + 1)
    | none =>
      if ← test a then
        if !late then
          if ← test b then finish 1 else goOn 1
        else goOn 1
      else return .text ""
termination_by structural fuel

/-- The cell that an expression means, made where it is not there. -/
def cellOf (fuel : Nat) (e : Expr) : Exec Nat :=
  match fuel with
  | 0 => throw .exhausted
  | fuel + 1 => do
    match e with
    | .variable .one name =>
      match ← special? name with
      | some v => newCell v
      | none => placeOf .one name
    | .target .one e =>
      match ← scalarOf fuel e with
      | .cell n => return n
      | .undefined =>
        let n ← newCell .undefined
        putPlace fuel e (.cell n)
        return n
      | v => named .one "a SCALAR" v
    | .item list index =>
      let place ← listPlace fuel list
      let i ← scalarOf fuel index
      lookAtIndex .many index i
      let cells ← listCells place
      match indexIn cells.size i.toInt with
      | none => fail ("Modification of non-creatable array value attempted, subscript " ++ i.toText)
      | some i =>
        match cells[i]? with
        | some n => return n
        | none =>
          let more ← cellsFor (List.replicate (i + 1 - cells.size) .undefined)
          putList place (cells ++ more)
          if more.size > 1 then modify fun m => { m with gaps := more.pop.toList.take 1000 ++ m.gaps }
          return (more.back?).getD 0
    | .entry table key =>
      let place ← tablePlace fuel table
      let k ← scalarOf fuel key
      lookAtIndex .keyed key k
      match (← tableOf place).get? k.toText with
      | some n => return n
      | none =>
        let n ← newCell .undefined
        putTable place ((← tableOf place).insert k.toText n)
        return n
    | .fresh [some (.one, name)] _ keeps => freshPlace .one name keeps
    | .row [e] => cellOf fuel e
    | .assign place value =>
      if isRow place then newCell (← scalarOf fuel e)
      else
        let v ← assigned fuel place value
        match place with
        | .variable .one _ | .item .. | .entry .. | .fresh .. | .target .. | .kept _ =>
          let n ← cellOf fuel place
          putCell n v
          return n
        | place =>
          putPlace fuel place v
          newCell v
    | .update _ place _ | .updateJoin _ place _ | .step _ true place =>
      let _ ← scalarOf fuel e
      cellOf fuel place
    | .either test yes no =>
      if (← scalarOf fuel test).holds then cellOf fuel yes else cellOf fuel no
    | .kept e =>
      let n ← cellOf fuel e
      let v ← cellValue n
      match e with
      | .entry table key =>
        let place ← tablePlace fuel table
        let t ← tableOf place
        let k ← scalarOf fuel key
        let fresh ← newCell .undefined
        modify fun m => { m with kept := .table place t :: m.kept }
        putTable place (t.insert k.toText fresh)
        return fresh
      | _ =>
        modify fun m => { m with kept := .cell n v :: m.kept }
        putCell n .undefined
        return n
    | e => newCell (← scalarOf fuel e)
termination_by structural fuel

/-- Puts a value at the place that an expression means. -/
def putPlace (fuel : Nat) (place : Expr) (v : Value) : Exec Unit :=
  match fuel with
  | 0 => throw .exhausted
  | fuel + 1 => do
    match place with
    | .lastIndex list =>
      let n ← listPlace fuel list
      let cells ← listCells n
      let size := (v.toInt + 1).toNat
      if size ≤ cells.size then putList n (cells.extract 0 size)
      else putList n (cells ++ (← cellsFor (List.replicate (size - cells.size) .undefined)))
    | .call "substr" (target :: rest) =>
      let bounds ← allValues fuel rest
      let s := (← scalarOf fuel target).toText.toList
      match partOf s.length ((bounds.headD .undefined).toInt) ((bounds[1]?).map Value.toInt) with
      | some (low, high) =>
        putPlace fuel target (.text (String.ofList (s.take low ++ v.toText.toList ++ s.drop high)))
      | none => fail "substr outside of string"
    | .call "pos" args =>
      let n ← cellOf fuel (args.headD record)
      modify fun m => { m with
        positions := (n, v.toInt.toNat, true) :: m.positions.filter fun p => p.1 != n }
    | .variable .one "!" => setFault v.toInt.toNat
    | .variable .one "." =>
      match (← get).lastHandle with
      | some name => changeHandle name fun h => { h with count := v.toInt.toNat }
      | none => pure ()
    | .join .. | .assign .. | .update .. | .updateJoin .. =>
      let n ← cellOf fuel place
      putCell n v
    | .row [e] => putPlace fuel e v
    | place =>
      if isRow place then assignRow fuel [place] [v]
      else
        let n ← cellOf fuel place
        putCell n v
        if place matches .variable .one "|" then
          if v.holds then flush (← get).selected
termination_by structural fuel

/-- Puts values at the places that expressions mean, one after the other. -/
def assignRow (fuel : Nat) (places : List Expr) (vs : List Value) : Exec Unit :=
  match fuel with
  | 0 => throw .exhausted
  | fuel + 1 => do
    match places with
    | [] => return ()
    | place :: places =>
      let one (e : Expr) : Exec Unit := do
        putPlace fuel e (vs.headD .undefined)
        assignRow fuel places vs.tail
      match place with
      | .row es => assignRow fuel (es ++ places) vs
      | .fresh names _ keeps =>
        match names with
        | [] => assignRow fuel places vs
        | [none] => assignRow fuel places vs.tail
        | [some (.one, name)] =>
          let n ← freshPlace .one name keeps
          putCell n (vs.headD .undefined)
          assignRow fuel places vs.tail
        | [some (.many, name)] =>
          let n ← freshPlace .many name keeps
          putList n (← cellsFor vs)
          assignRow fuel places []
        | [some (.keyed, name)] =>
          let n ← freshPlace .keyed name keeps
          putTable n .empty
          fillTable n vs
          assignRow fuel places []
        | names => assignRow fuel (names.map (fun n => Expr.fresh [n] false keeps) ++ places) vs
      | .variable .many _ | .target .many _ =>
        let n ← listPlace fuel place
        putList n (← cellsFor vs)
        assignRow fuel places []
      | .variable .keyed _ | .target .keyed _ =>
        let n ← tablePlace fuel place
        putTable n .empty
        fillTable n vs
        assignRow fuel places []
      | .items list indices =>
        let is ← valuesOf fuel indices
        assignRow fuel (is.map (fun i => Expr.item list (.constant i)) ++ places) vs
      | .entries table keys =>
        let ks ← valuesOf fuel keys
        assignRow fuel (ks.map (fun k => Expr.entry table (.constant k)) ++ places) vs
      | .kept e =>
        if isRow e then
          let _ ← itemsOf fuel (.kept e)
          assignRow fuel (e :: places) vs
        else
          let n ← cellOf fuel (.kept e)
          putCell n (vs.headD .undefined)
          assignRow fuel places vs.tail
      | .call "undef" [] => assignRow fuel places vs.tail
      | e => one e
termination_by structural fuel

/-- The list that an expression means, made where it is not there. -/
def listPlace (fuel : Nat) (e : Expr) : Exec Nat :=
  match fuel with
  | 0 => throw .exhausted
  | fuel + 1 => do
    match e with
    | .variable .many name =>
      match name with
      | "-" | "+" =>
        match (← get).hit with
        | none => newList #[]
        | some h =>
          let bounds := (List.range (h.groups + 1)).map fun i =>
            match h.place? i with
            | some (start, stop) => Value.ofNat (if name = "-" then start else stop)
            | none => .undefined
          newList (← cellsFor bounds)
      | name => placeOf .many name
    | .target .many e =>
      match ← scalarOf fuel e with
      | .list n => return n
      | .undefined =>
        let n ← newList #[]
        putPlace fuel e (.list n)
        return n
      | v => named .many "an ARRAY" v
    | .fresh [some (.many, name)] _ keeps => freshPlace .many name keeps
    | .kept e =>
      let _ ← itemsOf fuel (.kept e)
      listPlace fuel e
    | .row [e] => listPlace fuel e
    | e =>
      let vs ← valuesOf fuel e
      newList (← cellsFor vs)
termination_by structural fuel

/-- The table that an expression means, made where it is not there. -/
def tablePlace (fuel : Nat) (e : Expr) : Exec Nat :=
  match fuel with
  | 0 => throw .exhausted
  | fuel + 1 => do
    match e with
    | .variable .keyed "+" =>
      let n ← newTable
      match (← get).hit with
      | some h =>
        fillTable n (h.names.flatMap fun (name, i) =>
          match h.group i with
          | .undefined => []
          | v => [.text name, v])
        return n
      | none => return n
    | .variable .keyed name => placeOf .keyed name
    | .target .keyed e =>
      match ← scalarOf fuel e with
      | .table n => return n
      | .undefined =>
        let n ← newTable
        putPlace fuel e (.table n)
        return n
      | v => named .keyed "a HASH" v
    | .fresh [some (.keyed, name)] _ keeps => freshPlace .keyed name keeps
    | .row [e] => tablePlace fuel e
    | _ => newTable
termination_by structural fuel

/-- The flags and the text of a pattern. -/
def patternOf (fuel : Nat) (pattern : Expr) (flags : String) : Exec (String × String) :=
  match fuel with
  | 0 => throw .exhausted
  | fuel + 1 => do
    match pattern with
    | .constant v => return (flags, v.toText)
    | .blend (a :: b :: rest) =>
      let parts := a :: b :: rest
      let vs ← scalars fuel parts
      lookOverTexts "regexp compilation" parts parts vs
      return (flags, String.join (vs.map Value.toText))
    | .blend [e] | e =>
      match ← scalarOf fuel e with
      | .pattern inner source => return (flags ++ inner, source)
      | v =>
        lookAtOne "regexp compilation" false e v
        return (flags, v.toText)
termination_by structural fuel

/-- The flags of a pattern, and what looks for it. -/
def matcherFor (fuel : Nat) (pattern : Expr) (flags : String) : Exec (String × Matcher) :=
  match fuel with
  | 0 => throw .exhausted
  | fuel + 1 => do
    let (flags, source) ← patternOf fuel pattern flags
    return (flags, ← matcherOf flags source)
termination_by structural fuel

/-- Replaces matches from a place on; how many there were, and the new text. -/
def replaced (fuel : Nat) (m : Matcher) (s : Array Char) (all : Bool) (new : Expr) (flags : String)
    (piece place : Nat) (mayBeEmpty : Bool) (count : Nat) (done : String) : Exec (Nat × String) :=
  match fuel with
  | 0 => throw .exhausted
  | fuel + 1 => do
    let rest : String := done ++ between s piece s.size
    match if place ≤ s.size then m.find? s place mayBeEmpty else none with
    | none => return (count, rest)
    | some h =>
      modify fun x => { x with hit := some h }
      let v ← scalarOf fuel new
      lookAtOne (if isPlainValue new then "substitution (s///)" else "substitution iterator") false new v
      let v ← if (flags.toList.filter (· == 'e')).length > 1 then evaluateText fuel (some false) v.toText
        else pure [v]
      let done := done ++ between s piece h.start ++ (lastOf v).toText
      if all then replaced fuel m s all new flags h.stop h.stop (h.start < h.stop) (count + 1) done
      else return (count + 1, done ++ between s h.stop s.size)
termination_by structural fuel

/-- Runs a text as a script. -/
def evaluateText (fuel : Nat) (wants : Option Bool) (text : String) : Exec (List Value) :=
  match fuel with
  | 0 => throw .exhausted
  | fuel + 1 => do
    let m ← get
    let name := "(eval " ++ toString (m.opened + 1) ++ ")"
    let routines := m.routines.keys
    let start (c : Cursor) : Cursor := { c with routines, cautions := m.cautions, isLoud := m.isLoud }
    match readScript name text.toList start with
    | .error e =>
      setGlobal "@" (.text (e.message.replace ("Execution of " ++ name ++ " aborted due to compilation errors.\n") ""))
      return if wants == some true then [] else [.undefined]
    | .ok (acts, c) =>
      modify fun x => { x with opened := x.opened + 1 }
      for text in c.notices do giveCaution text
      announce 1000000 acts
      let line := m.line
      let body : Exec (List Value) := do
        modify fun x => { x with source := name }
        runBlock fuel wants acts
      let vs ← guardedBy fuel wants body
      modify fun x => { x with
        source := m.source
        line }
      return vs
termination_by structural fuel

/-- Writes the values of expressions. -/
def written (fuel : Nat) (how : String) (handle : Option Expr) (args : List Expr) : Exec Value :=
  match fuel with
  | 0 => throw .exhausted
  | fuel + 1 => do
    let name ← match handle with
      | some e => do pure (handleName (← scalarOf fuel e))
      | none => do pure (← get).selected
    let es := if args.isEmpty then [record] else args
    let items ← allItems fuel es
    if how = "printf" then lookOverFormat how es items else lookOverItems how false true false es items
    deliver fuel
    let vs ← readAll items
    let texts ←
      if how = "printf" then pure [formatted ((vs.headD .undefined).toText) vs.tail]
      else do
        let between := (← global ",").toText
        let stop := (← global "\\").toText
        let stop := if how = "say" then "\n" ++ stop else stop
        pure (((vs.map Value.toText).intersperse between) ++ [stop])
    let done ← putTo how name texts
    if !done then lookAtHandle how name false
    return .ofBool done
termination_by structural fuel

/-- Values in order. -/
def sortedBy (fuel : Nat) (order : Option Expr) (es : List Expr) (items : List Item) : Exec (List Value) :=
  match fuel with
  | 0 => throw .exhausted
  | fuel + 1 => do
    match plainSorting? order with
    | some (areNumbers, isBackward) => sortedPlainly areNumbers isBackward es items
    | none =>
      let vs ← readAll items
      return (← sortValues (comparedBy fuel (order.getD default)) vs.toArray).toList
termination_by structural fuel

/-- How two values compare by an order that a script gives. -/
def comparedBy (fuel : Nat) (order : Expr) (v w : Value) : Exec Ordering :=
  match fuel with
  | 0 => throw .exhausted
  | fuel + 1 => do
    setPair v w
    let r ← match order with
      | .newCode body => runBlock fuel (some false) body
      | e => do
        match ← scalarOf fuel e with
        | .code n => callCode fuel n [] (some false)
        | v => pure [v]
    return compare (lastOf r).toInt 0
termination_by structural fuel

/-- What a block gives for each item, or the items for which it holds. -/
def gather (fuel : Nat) (keeps : Bool) (body : List Act) (items : List Item) : Exec (List Item) :=
  match fuel with
  | 0 => throw .exhausted
  | fuel + 1 => do
    match items with
    | [] => return []
    | item :: items =>
      let cell ← item.toCell
      modify fun m => { m with globals := m.globals.insert "$_" cell }
      let vs ← runBlock fuel (some !keeps) body
      let here := if keeps then (if (lastOf vs).holds then [Item.cell cell] else []) else vs.map Item.value
      return here ++ (← gather fuel keeps body items)
termination_by structural fuel

/-- Calls the function that an expression means. -/
def invokeCode (fuel : Nat) (wants : Option Bool) (code : Expr) (args : Option (List Expr)) : Exec (List Value) :=
  match fuel with
  | 0 => throw .exhausted
  | fuel + 1 => do
    let n ← match code with
      | .routine name => do
        match ← routine? name with
        | some n => pure n
        | none =>
          let shown := if name.toList.contains ':' then name else "main::" ++ name
          fail ("Undefined subroutine &" ++ shown ++ " called")
      | e => do
        match ← scalarOf fuel e with
        | .code n => pure n
        | .text name => do
          match ← routine? name with
          | some n => pure n
          | none => fail ("Undefined subroutine &main::" ++ name ++ " called")
        | .undefined => fail "Can't use an undefined value as a subroutine reference"
        | _ => fail "Not a CODE reference"
    match args with
    | some es =>
      let items ← allItems fuel es
      callCode fuel n items wants
    | none =>
      let cells ← listCells (← get).arguments
      callCode fuel n (cells.toList.map Item.cell) wants
termination_by structural fuel

/-- Calls a function with arguments. -/
def callCode (fuel : Nat) (n : Nat) (items : List Item) (wants : Option Bool) : Exec (List Value) :=
  match fuel with
  | 0 => throw .exhausted
  | fuel + 1 => do
    let cells ← items.mapM Item.toCell
    let arguments ← newList cells.toArray
    let m ← get
    match m.codes[n]? with
    | none => return []
    | some code =>
      let scope := if code.isNamed && code.scope.isEmpty then m.outer else code.scope
      lookAtDepth n
      modify fun m => { m with
        scope
        arguments
        wants
        cautions := none
        calls := m.calls + 1
        frames := { code := some n, line := m.line, wants, arguments := cells } :: m.frames }
      let r ← tryTo (runBlock fuel wants code.body)
      modify fun x => { x with
        cautions := m.cautions
        frames := m.frames }
      lookAtLeaving "subroutine" r
      modify fun x => { x with
        scope := m.scope
        arguments := m.arguments
        wants := m.wants
        calls := m.calls
        line := m.line }
      match r with
      | .ok vs => return if wants == some false then [lastOf vs] else vs
      | .error (.return vs) => return vs
      | .error stop => throw stop
termination_by structural fuel

/-- Runs acts in a block of their own; the values of the last of them. -/
def runBlock (fuel : Nat) (wants : Option Bool) (acts : List Act) : Exec (List Value) :=
  match fuel with
  | 0 => throw .exhausted
  | fuel + 1 => do
    let m ← get
    set { m with depth := m.depth + 1 }
    let body : Exec (List Value) := do readAll (← runActs fuel wants acts)
    let r ← tryTo body
    putBack m.kept.length 1000000
    modify fun x => { x with
      scope := m.scope
      depth := m.depth
      cautions := m.cautions
      hit := if isShort acts then x.hit else m.hit }
    match r with
    | .ok vs => return vs
    | .error stop => throw stop
termination_by structural fuel

/-- Runs acts one after the other; what the last of them gives. -/
def runActs (fuel : Nat) (wants : Option Bool) (acts : List Act) : Exec (List Item) :=
  match fuel with
  | 0 => throw .exhausted
  | fuel + 1 => do
    match acts with
    | [] => return []
    | [act] => runAct fuel wants act
    | act :: acts =>
      let _ ← runAct fuel none act
      deliver fuel
      runActs fuel wants acts
termination_by structural fuel

/-- Runs an act. -/
def runAct (fuel : Nat) (wants : Option Bool) (act : Act) : Exec (List Item) :=
  match fuel with
  | 0 => throw .exhausted
  | fuel + 1 => do
    let at_ (line : Nat) : Exec Unit := modify fun m => { m with line }
    match act with
    | .compute line e =>
      at_ line
      match wants with
      | some true => itemsOf fuel e
      | some false => return [.value (← scalarOf fuel e)]
      | none =>
        match e with
        | .step up _ place =>
          let _ ← scalarOf fuel (.step up true place)
          return []
        | .each .. | .sorted .. | .invoke _ _ =>
          let _ ← match e with
            | .invoke code args => do
              let _ ← invokeCode fuel none code args
            | e => do
              let _ ← itemsOf fuel e
          return []
        | e =>
          let _ ← scalarOf fuel e
          return []
    | .branch line test yes no =>
      at_ line
      let v ← scalarOf fuel test
      if v.holds then
        match yes with
        | [.compute n e] =>
          let found ← runAct fuel wants (.compute n e)
          at_ line
          return found
        | yes =>
          let vs ← runBlock fuel wants yes
          at_ line
          return vs.map Item.value
      else if no.isEmpty then return if wants.isSome then [.value v] else []
      else
        let vs ← runBlock fuel wants no
        at_ line
        return vs.map Item.value
    | .loop line label test next isLate body =>
      at_ line
      let m ← get
      let r ← tryTo (runLoop fuel line label test next isLate isLate body)
      modify fun x => { x with
        scope := m.scope
        depth := m.depth
        line }
      match r with
      | .ok _ => return []
      | .error stop => throw stop
    | .forEach line label place values body =>
      at_ line
      let items ← match values with
        | .range _ _ a b | .row [.range _ _ a b] => rowBetween fuel "foreach loop entry" a b
        | values => itemsOf fuel values
      let m ← get
      let r ← tryTo (runEach fuel label place items body)
      modify fun x => { x with
        scope := m.scope
        depth := m.depth
        line }
      match place with
      | .variable .one name =>
        match m.globals.get? ("$" ++ name) with
        | some n => modify fun x => { x with globals := x.globals.insert ("$" ++ name) n }
        | none => pure ()
      | _ => pure ()
      match r with
      | .ok _ => return []
      | .error stop => throw stop
    | .block label body =>
      match ← tryTo (runBlock fuel wants body) with
      | .ok vs => return vs.map Item.value
      | .error (.last l) => if isMeant l label then return [] else throw (.last l)
      | .error (.next l) => if isMeant l label then return [] else throw (.next l)
      | .error (.redo l) => if isMeant l label then runAct fuel wants act else throw (.redo l)
      | .error stop => throw stop
    | .heed w =>
      modify fun m => { m with cautions := some w }
      return []
    | .define name _ =>
      let m ← get
      if m.depth > 0 then
        match m.routines.get? name with
        | some n => set { m with codes := m.codes.modify n fun c => { c with scope := m.scope } }
        | none => pure ()
      return []
termination_by structural fuel

/-- Runs a block as long as a test holds; a late test comes after the block. -/
def runLoop (fuel line : Nat) (label : String) (test : Option Expr) (next : List Act) (isLate skips : Bool)
    (body : List Act) : Exec Unit :=
  match fuel with
  | 0 => throw .exhausted
  | fuel + 1 => do
    let goes ←
      if skips then pure true
      else
        match test with
        | none => pure true
        | some e => pure (← scalarOf fuel e).holds
    if goes then
      -- only the body of a loop without more to it lets its line stay
      let start := (← get).line
      let again : Exec Unit := do
        let reached := (← get).line
        let here := if next.isEmpty && !isLate then reached else start
        modify fun m => { m with line := here }
        let _ ← runActs fuel none (next.map fun act => match act with
          | .compute n e => .compute (if n = line then here else n) e
          | act => act)
        modify fun m => { m with line := here }
        runLoop fuel line label test next isLate false body
      match ← tryTo (turn fuel body) with
      | .ok _ => again
      | .error (.last l) => if isMeant l label && !isLate then return () else throw (.last l)
      | .error (.next l) =>
        if isMeant l label && !isLate then
          modify fun m => { m with line }
          again
        else throw (.next l)
      | .error (.redo l) =>
        if isMeant l label then runLoop fuel line label test next isLate true body else throw (.redo l)
      | .error stop => throw stop
termination_by structural fuel

/-- Runs the body of a loop once. -/
def turn (fuel : Nat) (body : List Act) : Exec Unit :=
  match fuel with
  | 0 => throw .exhausted
  | fuel + 1 => do
    match body with
    | [.compute line e] =>
      let _ ← runAct fuel none (.compute line e)
      deliver fuel
    | body =>
      let _ ← runBlock fuel none body
      deliver fuel
termination_by structural fuel

/-- Runs a block for each item. -/
def runEach (fuel : Nat) (label : String) (place : Expr) (items : List Item) (body : List Act) : Exec Unit :=
  match fuel with
  | 0 => throw .exhausted
  | fuel + 1 => do
    match items with
    | [] => return ()
    | item :: rest =>
      let cell ← item.toCell
      let m ← get
      match place with
      | .fresh [some (.one, name)] _ _ => set { m with scope := ("$" ++ name, cell) :: m.scope }
      | .variable .one name =>
        if (m.scope.lookup ("$" ++ name)).isSome then set { m with scope := ("$" ++ name, cell) :: m.scope }
        else set { m with globals := m.globals.insert ("$" ++ name) cell }
      | _ => pure ()
      let r ← tryTo (turn fuel body)
      modify fun x => { x with
        scope := m.scope
        depth := m.depth }
      match r with
      | .ok _ => runEach fuel label place rest body
      | .error (.last l) => if isMeant l label then return () else throw (.last l)
      | .error (.next l) => if isMeant l label then runEach fuel label place rest body else throw (.next l)
      | .error (.redo l) => if isMeant l label then runEach fuel label place items body else throw (.redo l)
      | .error stop => throw stop
termination_by structural fuel

/-- Calls a function that changes how a script goes on. -/
def callControl (fuel : Nat) (wantsMany : Bool) (name : String) (args : List Expr) : Exec (Option (List Value)) :=
  match fuel with
  | 0 => throw .exhausted
  | fuel + 1 => do
    let one (v : Value) : Exec (Option (List Value)) := return some [v]
    let many (vs : List Value) : Exec (Option (List Value)) := return some vs
    let argument (i : Nat) : Exec Value := do
      match args[i]? with
      | some e => scalarOf fuel e
      | none => return .undefined
    let e := args.headD default
    match name with
    | "die" | "croak" | "confess" =>
      let vs ← allValues fuel args
      let isObject := vs.length = 1 && (vs.headD .undefined).kind ≠ ""
      if isObject then throw (.die (vs.headD .undefined))
      let message := String.join (vs.map Value.toText)
      let text ← if name = "die" then faultText vs "Died"
        else if name = "croak" then shortTrace message else longTrace message
      throw (.die (.text text))
    | "warn" | "carp" | "cluck" =>
      let vs ← allValues fuel args
      let message := String.join (vs.map Value.toText)
      let text ← if name = "warn" then faultText vs "Warning: something's wrong"
        else if name = "carp" then shortTrace message else longTrace message
      match ← cautionHandler? with
      | some n =>
        let _ ← callCode fuel n [.value (.text text)] none
      | none => warn text
      one (.ofInt 1)
    | "exit" | "_exit" => do
      let n ← argument 0
      lookAtOne "exit" true e n
      deliver fuel
      throw (.exit (n.toInt % 256).toNat)
    | "return" =>
      match (← get).wants with
      | some true => throw (.return (← allValues fuel args))
      | _ =>
        match args with
        | [] => throw (.return (if (← get).wants == some false then [.undefined] else []))
        | es => throw (.return [← scalarOf fuel (.row es)])
    | "last" => do throw (.last (← argument 0).toText)
    | "next" => do throw (.next (← argument 0).toText)
    | "redo" => do throw (.redo (← argument 0).toText)
    | "caller" =>
      let depth ← match args with
        | [] => pure none
        | e :: _ => do pure (some (← scalarOf fuel e).toInt.toNat)
      let vs ← callerOf depth
      if wantsMany then many vs else one (vs.headD .undefined)
    | "wantarray" =>
      match (← get).wants with
      | some true => one (.ofInt 1)
      | some false => one (.ofInt 0)
      | none => one .undefined
    | "require" =>
      match e with
      | .bareword name =>
        if moduleWords.any fun m => m.1 == name then one (.ofInt 1)
        else
          setFault 2
          fail ("Can't locate " ++ name.replace "::" "/" ++ ".pm in @INC (you may need to install the " ++ name ++
            " module) (@INC contains: " ++ " ".intercalate searched ++ ")")
      | _ => one (.ofInt 1)
    | "local" => do many (← valuesOf fuel (.kept e))
    | "eval" =>
      let v ← scalarOf fuel e
      many (← evaluateText fuel (some wantsMany) v.toText)
    | "do" =>
      let path := (← scalarOf fuel e).toText
      match ← readInput path with
      | .ok content => do many (← evaluateText fuel (some wantsMany) content)
      | .error fault =>
        setFault (faultOf fault)
        one .undefined
    | _ => return none
termination_by structural fuel

/-- Calls a function that works on the memory. -/
def callMemory (fuel : Nat) (name : String) (args : List Expr) : Exec (Option (List Value)) :=
  match fuel with
  | 0 => throw .exhausted
  | fuel + 1 => do
    let one (v : Value) : Exec (Option (List Value)) := return some [v]
    let many (vs : List Value) : Exec (Option (List Value)) := return some vs
    let e := args.headD default
    let rest := args.tail
    match name with
    | "defined" =>
      match e with
      | .invoke (.routine f) none | .routine f => one (.ofBool (← routine? f).isSome)
      | .variable .many _ => one (.ofBool ((← listCells (← listPlace fuel e)).size > 0))
      | .variable .keyed _ => one (.ofBool ((← tableOf (← tablePlace fuel e)).size > 0))
      | e => one (.ofBool (← scalarOf fuel e).isDefined)
    | "scalar" => one (← scalarOf fuel e)
    | "undef" =>
      if args.isEmpty then one .undefined
      else
        if isRow e then assignRow fuel [e] [] else putPlace fuel e .undefined
        one .undefined
    | "exists" =>
      match e with
      | .entry table key =>
        let t ← tableOf (← tablePlace fuel table)
        let k ← scalarOf fuel key
        one (.ofBool (t.contains k.toText))
      | .item list index =>
        let cells ← listCells (← listPlace fuel list)
        let i ← scalarOf fuel index
        one (.ofBool ((indexIn cells.size i.toInt).any fun i => i < cells.size))
      | .invoke (.routine f) none | .routine f => one (.ofBool (← routine? f).isSome)
      | e => one (.ofBool (← scalarOf fuel e).isDefined)
    | "delete" =>
      match e with
      | .entry table key =>
        let place ← tablePlace fuel table
        one (← removeEntry place (← scalarOf fuel key).toText)
      | .entries table keys =>
        let place ← tablePlace fuel table
        many (← (← valuesOf fuel keys).mapM fun k => removeEntry place k.toText)
      | .item list index =>
        let place ← listPlace fuel list
        one (← removeItem place (← scalarOf fuel index).toInt)
      | .kept e => do
        let v ← scalarOf fuel e
        let _ ← cellOf fuel (.kept e)
        let _ ← callMemory fuel "delete" [e]
        one v
      | _ => one .undefined
    | "keys" =>
      if (e matches .variable .many _ | .target .many _) then
        many ((List.range (← listCells (← listPlace fuel e)).size).map Value.ofNat)
      else do many (← keysOf (← tablePlace fuel e))
    | "values" =>
      if (e matches .variable .many _ | .target .many _) then do many (← valuesOf fuel e)
      else
        let cells := (← tableOf (← tablePlace fuel e)).entries.map Prod.snd
        many (← cells.mapM cellValue)
    | "each" =>
      if (e matches .variable .many _ | .target .many _) then do many (← nextItem (← listPlace fuel e))
      else do many (← nextEntry (← tablePlace fuel e))
    | "push" | "unshift" =>
      let place ← listPlace fuel e
      one (← addTo place (name = "push") (← allValues fuel rest))
    | "pop" | "shift" =>
      let place ← match args with
        | e :: _ => listPlace fuel e
        | [] => do
          let m ← get
          if m.calls > 0 then pure m.arguments else globalPlace .many "ARGV"
      one (← takeFrom place (name = "pop"))
    | "splice" =>
      let place ← listPlace fuel e
      let bounds ← allValues fuel (rest.take 2)
      lookOverBounds "splice" rest bounds
      many (← spliceList place bounds (← allValues fuel (rest.drop 2)))
    | "reverse" => do many (← allValues fuel args).reverse
    | "chomp" | "chop" =>
      let isSingle : Bool := match args with
        | [.assign place _] => !isRow place
        | args => args.all fun e => !isRow e
      let items ← if isSingle then args.mapM fun e => do return Item.cell (← cellOf fuel e) else allItems fuel args
      lookOverCut name args items
      one (← cutEnds name items)
    | "substr" =>
      let bounds ← allValues fuel rest
      let s ← scalarOf fuel e
      lookOverPart rest bounds e s
      deliver fuel
      let s := s.toText.toList
      match partOf s.length ((bounds.headD .undefined).toInt) (((bounds[1]?).filter Value.isDefined).map Value.toInt) with
      | some (low, high) =>
        match bounds[2]? with
        | some new => putPlace fuel e (.text (String.ofList (s.take low ++ new.toText.toList ++ s.drop high)))
        | none => pure ()
        one (.text (String.ofList ((s.drop low).take (high - low))))
      | none =>
        if bounds.length > 2 then fail "substr outside of string"
        caution "substr" "substr outside of string" false
        one .undefined
    | "pos" =>
      let n ← cellOf fuel (args.headD record)
      match (← get).positions.lookup n with
      | some (i, _) => one (.ofNat i)
      | none => one .undefined
    | "split" =>
      let vs ← allValues fuel rest
      let subject ← if rest.isEmpty then scalarOf fuel record else pure (vs.headD .undefined)
      lookAtOne "split" false (rest.headD record) subject
      let separator ← match e with
        | .hits _ none p flags => do
          let (flags, source) ← patternOf fuel p flags
          pure (Value.pattern flags source)
        | e => do
          let v ← scalarOf fuel e
          lookAtOne "regexp compilation" false e v
          pure v
      many (← splitText separator subject.toText (((vs[1]?).map Value.toInt).getD 0))
    | _ => return none
termination_by structural fuel

/-- The name of the file that an expression is to stand for. -/
def handleFor (fuel : Nat) (e : Expr) : Exec String :=
  match fuel with
  | 0 => throw .exhausted
  | fuel + 1 => do
    let note (key : String) : Exec String := do
      modify fun m => { m with known := if m.known.contains key then m.known else key :: m.known }
      return key
    match e with
    | .constant v => note v.toText
    | .bareword s => note s
    | e =>
      let shown := match e with
        | .fresh [some (_, x)] _ _ | .variable _ x => "$" ++ x
        | _ => "$fh"
      let m ← get
      let isTaken := m.handles.contains shown || m.folders.any fun f => f.1 == shown
      let key := if isTaken then shown ++ "#" ++ toString m.opened else shown
      modify fun m => { m with opened := m.opened + 1 }
      putPlace fuel e (.handle key)
      note key
termination_by structural fuel

/-- Calls a function that works on files and commands. -/
def callFiles (fuel : Nat) (wantsMany : Bool) (name : String) (args : List Expr) : Exec (Option (List Value)) :=
  match fuel with
  | 0 => throw .exhausted
  | fuel + 1 => do
    let one (v : Value) : Exec (Option (List Value)) := return some [v]
    let many (vs : List Value) : Exec (Option (List Value)) := return some vs
    let e := args.headD default
    let rest := args.tail
    match name with
    | "wait" => one (.ofInt (-1))
    | "open" =>
      let vs ← allValues fuel rest
      let key ← handleFor fuel e
      one (← openAs key vs)
    | "opendir" =>
      match ← folderAt? (← scalarOf fuel (.row rest)).toText with
      | some names =>
        let key ← handleFor fuel e
        keepFolder key (some (names, 0))
        one (.ofInt 1)
      | none => one (.text "")
    | "readdir" | "closedir" | "rewinddir" => do
      many (← folderCall wantsMany name (handleName (← scalarOf fuel e)))
    | "binmode" | "close" | "eof" | "seek" | "sysseek" | "tell" | "getc" =>
      let key ← match args with
        | e :: _ => do pure (some (handleName (← scalarOf fuel e)))
        | [] => pure none
      one (← handleCall name key (← allValues fuel rest))
    | "readline" =>
      if wantsMany then do many (← valuesOf fuel (.readLine e)) else do one (← scalarOf fuel (.readLine e))
    | "read" | "sysread" =>
      let key := handleName (← scalarOf fuel e)
      let bounds := (← allValues fuel rest.tail).map Value.toInt
      let place := rest.headD default
      let before ← if bounds.length < 2 then pure "" else do pure (← scalarOf fuel place).toText
      let (text, count) ← readPart key before (bounds.headD 0).toNat (bounds.getD 1 0).toNat
      putPlace fuel place (.text text)
      one (.ofNat count)
    | "syswrite" =>
      let key := handleName (← scalarOf fuel e)
      let s := ((← allValues fuel (rest.take 1)).headD .undefined).toText
      if !(← putTo "syswrite" key [s]) then lookAtHandle "syswrite" key false
      flush key
      one (.ofNat s.length)
    | "select" =>
      match args with
      | [e] =>
        let old := (← get).selected
        let key := handleName (← scalarOf fuel e)
        modify fun m => { m with selected := key }
        one (.text old)
      | [_, _, _, e] =>
        let seconds := (← scalarOf fuel e).toNumeric.toFloat
        wait (Numeric.real (seconds * 1000000000)).truncated.toInt.toNat
        one (.ofInt 0)
      | _ => one (.text (← get).selected)
    | "system" | "exec" =>
      one (← runWords name ((← allValues fuel args).map Value.toText))
    | _ => return none
termination_by structural fuel

/-- The first item for which a block holds, or does not hold. -/
def soughtBy (fuel : Nat) (wanted : Bool) (body : List Act) (items : List Item) : Exec (Option Value) :=
  match fuel with
  | 0 => throw .exhausted
  | fuel + 1 => do
    match items with
    | [] => return none
    | item :: items =>
      let cell ← item.toCell
      modify fun m => { m with globals := m.globals.insert "$_" cell }
      if (lastOf (← runBlock fuel (some false) body)).holds == wanted then return some (← cellValue cell)
      else soughtBy fuel wanted body items
termination_by structural fuel

/-- Calls a function that asks a block, or one with a plain argument. -/
def callOver (fuel : Nat) (name : String) (args : List Expr) : Exec (Option (List Value)) :=
  match fuel with
  | 0 => throw .exhausted
  | fuel + 1 => do
    let one (v : Value) : Exec (Option (List Value)) := return some [v]
    let many (vs : List Value) : Exec (Option (List Value)) := return some vs
    let e := args.headD default
    let rest := args.tail
    match name with
    | "first" | "any" | "all" | "none" =>
      let items ← allItems fuel rest
      let line := (← get).line
      let body : List Act := match e with
        | .newCode body => body
        | e => [.compute line (.invoke e (some [record]))]
      let place ← globalPlace .one "_"
      let found ← soughtBy fuel (name != "all") body items
      modify fun m => { m with globals := m.globals.insert "$_" place }
      match name with
      | "first" => one (found.getD .undefined)
      | "any" => one (.ofBool found.isSome)
      | _ => one (.ofBool found.isNone)
    | "reduce" =>
      let vs ← allValues fuel rest
      let line := (← get).line
      let body : List Act := match e with
        | .newCode body => body
        | e => [.compute line (.invoke e (some []))]
      match vs with
      | [] => one .undefined
      | v :: vs =>
        let mut total := v
        for w in vs do
          setPair total w
          total := lastOf (← runBlock fuel (some false) body)
        one total
    | "localtime" | "gmtime" =>
      let t ← match args with
        | [] => now
        | e :: _ => do
          let v ← scalarOf fuel e
          lookAtOne name true e v
          pure v.toInt
      many ((calendar t ++ [0]).map Value.ofInt)
    | "bless" =>
      let v ← scalarOf fuel e
      one (← blessed v (← scalarOf fuel (.row rest)).toText)
    | "ref" | "blessed" => do one (← kindName name (← scalarOf fuel (args.headD record)))
    | _ => return none
termination_by structural fuel

/-- Calls a function that is there from the start. -/
def callWord (fuel : Nat) (wantsMany : Bool) (name : String) (args : List Expr) : Exec (List Value) :=
  match fuel with
  | 0 => throw .exhausted
  | fuel + 1 => do
    if let some vs ← callControl fuel wantsMany name args then return vs
    if let some vs ← callMemory fuel name args then return vs
    if let some vs ← callFiles fuel wantsMany name args then return vs
    if let some vs ← callOver fuel name args then return vs
    if name = "->" then
      match args with
      | object :: method :: rest =>
        match ← scalarOf fuel method with
        | .code n => callCode fuel n (← allItems fuel (object :: rest)) (some wantsMany)
        | v => callMethod fuel wantsMany v.toText (object :: rest)
      | _ => return []
    else if name.startsWith "->" then callMethod fuel wantsMany (name.drop 2).toString args
    else
      let es := if recordWords.contains name then [args.headD record] else args
      let items ← match es with
        | [e] => if recordWords.contains name then do pure [← itemFrom e (← scalarOf fuel e)] else allItems fuel es
        | es => allItems fuel es
      lookOverCall name es items
      let vs ← readAll items
      match ← simpleResult name vs with
      | some vs => return vs
      | none => fail ("Undefined subroutine &main::" ++ name ++ " called")
termination_by structural fuel

/-- Calls a method of a file, or of what a value belongs to. -/
def callMethod (fuel : Nat) (wantsMany : Bool) (method : String) (args : List Expr) : Exec (List Value) :=
  match fuel with
  | 0 => throw .exhausted
  | fuel + 1 => do
    let one (v : Value) : Exec (List Value) := return [v]
    let object ← match args.head? with
      | some (.bareword s) => pure (Value.text s)
      | some e => scalarOf fuel e
      | none => pure .undefined
    let key := handleName object
    let rest := args.tail
    let space ← classOf object
    let parts := method.splitOn "::"
    let own ← match space, parts.reverse with
      | some _, last :: "SUPER" :: before => inheritedMethod? (method? last 100) ("::".intercalate before.reverse)
      | some _, last :: b :: before => method? last 100 ("::".intercalate (b :: before).reverse)
      | some space, _ => method? method 100 space
      | none, _ => pure none
    match own with
    | some n =>
      let items ← allItems fuel rest
      callCode fuel n (.value object :: items) (some wantsMany)
    | none =>
      match method with
      | "autoflush" =>
        let v ← if rest.isEmpty then pure (Value.ofInt 1) else scalarOf fuel (.row rest)
        if key = (← get).selected then setGlobal "|" v
        one v
      | "flush" =>
        flush key
        one (.ofInt 1)
      | "print" | "say" | "printf" => one (← written fuel method (some (.constant object)) rest)
      | "close" => one (.ofBool (← closeHandle key))
      | "binmode" =>
        setLayer key (← scalarOf fuel (.row rest)).toText
        one (.ofInt 1)
      | "import" | "blocking" => one (.ofInt 1)
      | "eof" => one (.ofBool (← isAtEnd key))
      | "getline" => one (← scalarOf fuel (.readLine (.constant object)))
      | "isa" =>
        let other := (← scalarOf fuel (.row rest)).toText
        one (.ofBool (← isKindOf other 100 (space.getD "")))
      | "can" =>
        let name := (← scalarOf fuel (.row rest)).toText
        match ← method? name 100 (space.getD "") with
        | some n => one (.code n)
        | none => one (.text "")
      | m =>
        match object, space with
        | .undefined, _ => fail ("Can't call method \"" ++ m ++ "\" on an undefined value")
        | _, some space =>
          let isKnown := (← get).routines.keys.any fun k => k.startsWith (space ++ "::")
          fail ("Can't locate object method \"" ++ m ++ "\" via package \"" ++ space ++ "\"" ++
            (if isKnown then "" else " (perhaps you forgot to load \"" ++ space ++ "\"?)"))
        | v, none =>
          if v.kind = "" then
            fail ("Can't locate object method \"" ++ m ++ "\" via package \"" ++ v.toText ++
              "\" (perhaps you forgot to load \"" ++ v.toText ++ "\"?)")
          else fail ("Can't call method \"" ++ m ++ "\" on unblessed reference")
termination_by structural fuel

end

/-- How much a script may do. -/
def runFuel : Nat := 100000000

/-- The status with which a script ends that a fault has ended. -/
def statusAfter : Exec Nat := do
  let m ← get
  let status := (← global "?").toInt.toNat / 256 % 256
  return if m.fault % 256 ≠ 0 then m.fault % 256 else if status ≠ 0 then status else 255

/-- Runs a script; the status. -/
def runScript (acts : List Act) : Exec Nat := do
  announce 1000000 acts
  let whole : Exec Unit := do
    for n in (← get).beginnings do
      let _ ← callCode runFuel n [] none
    let _ ← runActs runFuel none acts
  let told (r : Except Stop Unit) : Exec Nat := do
    match r with
    | .ok _ | .error (.return _) => return 0
    | .error (.exit n) => return n
    | .error (.die v) =>
      warn v.toText
      statusAfter
    | .error (.last _) | .error (.next _) | .error (.redo _) =>
      let word := match r with
        | .error (.last _) => "last"
        | .error (.next _) => "next"
        | _ => "redo"
      warn ("Can't \"" ++ word ++ "\" outside a loop block" ++ (← whereabouts))
      statusAfter
    | .error .exhausted => return 255
  let status ← told (← tryTo whole)
  if status ≥ 512 then return status - 512
  for n in (← get).endings do
    let _ ← tryTo (callCode runFuel n [] none)
  closeAll
  return status

end ClassLens.Tool.Scripting
