import ClassLens.Shell.Calendar
import ClassLens.Tool.Records.Machine

/-! # Running programs on records

* `evaluate`: the value of an expression.
* `perform`: what an act does.
* `runProgram`: the rules of a program on all records of its input.

Programs are run with fuel, as they may never end. -/

namespace ClassLens.Tool.Records

open Shell (tell)

/-- A place that is known. -/
inductive Spot where
  | variable (name : String)
  | field (n : Nat)
  | item (group : Nat) (key : String)

/-- The value at a place. -/
def Spot.value : Spot → Exec Value
  | .variable name => variableOf name
  | .field n => Records.field n
  | .item g key => return (← group g).get key

/-- Puts a value at a place. -/
def Spot.put (s : Spot) (v : Value) : Exec Unit :=
  match s with
  | .variable name => setVariable name v
  | .field n => setField n v
  | .item g key => changeGroup g fun t => (if t.entries.contains key then t else t.touchText key).put key v

/-- What is left of a number that another one is taken away from as often as that goes. -/
def remainder (a b : Float) : Float :=
  match exactOf a, exactOf b with
  | .finite negative m e, .finite _ n f =>
    if n = 0 then 0.0 / 0.0
    else
      let low := min e f
      let rest := m * Nat.pow 2 (e - low).toNat % (n * Nat.pow 2 (f - low).toNat)
      ofExact (.finite negative rest low)
  | .finite .., .infinite _ => a
  | _, _ => 0.0 / 0.0

/-- An operation on two numbers. -/
def Operation.apply (op : Operation) (a b : Float) : Float :=
  match op with
  | .add => a + b
  | .sub => a - b
  | .mul => a * b
  | .div => a / b
  | .rem => remainder a b
  | .pow => a.pow b

/-- A comparison of two values. -/
def Comparison.holds (c : Comparison) (format : String) (a b : Value) : Bool :=
  let (isLess, isSame) := a.compare format b
  let bothNumbers := match a.decided, b.decided with
    | .number m, .number n => some (m, n)
    | _, _ => none
  match c with
  | .less => isLess
  | .atMost => isLess || isSame
  | .same => isSame
  | .other => !isSame
  | .more => match bothNumbers with
    | some (m, n) => n < m
    | none => !isLess && !isSame
  | .atLeast => match bothNumbers with
    | some (m, n) => n ≤ m
    | none => !isLess

/-! ### Functions that are there from the start -/

/-- A part of a text by the number of its first character and by its length. -/
def partOf (s : String) (start : Float) (length : Option Float) : String :=
  let first := wholePart start.round
  let stop : Int := match length with
    | some n => wholePart (start.round + n.round)
    | none => s.length + 1
  let low := max first 1
  if stop ≤ low then "" else ((s.drop (low - 1).toNat).take (stop - low).toNat).toString

/-- The place of a text in another one; the first place has the number one. -/
def indexOf (s t : List Char) : Nat :=
  let rec go : Nat → List Char → Nat
    | n, cs =>
      if t.isPrefixOf cs then n
      else
        match cs with
        | [] => 0
        | _ :: cs => go (n + 1) cs
  go 1 s

/-- A replacement, `&` standing for what is replaced. -/
def filled (hit : List Char) : Nat → List Char → List Char
  | 0, s => s
  | _ + 1, [] => []
  | n + 1, '&' :: s => hit ++ filled hit n s
  | n + 1, '\\' :: s =>
    let slashes := '\\' :: s.takeWhile (· == '\\')
    match s.drop (slashes.length - 1) with
    | '&' :: rest =>
      let half := List.replicate (slashes.length / 2) '\\'
      if slashes.length % 2 = 1 then half ++ '&' :: filled hit n rest else half ++ hit ++ filled hit n rest
    | rest => slashes ++ filled hit n rest
  | n + 1, c :: s => c :: filled hit n s

/-- Replaces matches from a place on, all of them or the first one; the new text and how many there were.
No empty match counts right after another match. -/
def replaceFrom (r : Regex) (all : Bool) (new text : List Char) :
    Nat → Nat → Option Nat → List Char → Nat → List Char × Nat
  | 0, place, _, done, count => (done ++ text.drop place, count)
  | fuel + 1, place, last, done, count =>
    match r.find false text place with
    | none => (done ++ text.drop place, count)
    | some hit =>
      let between := (text.drop place).take (hit.start - place)
      if hit.start = hit.stop && last == some hit.start then
        let next := (text.drop place).take (hit.start + 1 - place)
        if hit.start ≥ text.length then (done ++ text.drop place, count)
        else replaceFrom r all new text fuel (hit.start + 1) none (done ++ next) count
      else
        let found := (text.drop hit.start).take (hit.stop - hit.start)
        let done := done ++ between ++ filled found (new.length + 1) new
        if !all then (done ++ text.drop hit.stop, count + 1)
        else if hit.stop > hit.start then replaceFrom r all new text fuel hit.stop (some hit.stop) done (count + 1)
        else if hit.start ≥ text.length then (done, count + 1)
        else
          let next := (text.drop hit.start).take 1
          replaceFrom r all new text fuel (hit.start + 1) none (done ++ next) (count + 1)

/-- The next number of a row that looks random. -/
def nextRandom (n : Nat) : Nat := (n * 6364136223846793005 + 1442695040888963407) % Nat.pow 2 64

/-- The random numbers' row that a value starts. -/
def rowOf (v : Value) : Nat := (nextRandom (wholePart v.toNumber).toNat)

/-- The numbers at the start of a text, with blanks between them. -/
def numbersOf (s : String) : List Int :=
  ((s.splitOn " ").filter (· ≠ "")).map String.toInt? |>.takeWhile Option.isSome |>.filterMap id

/-- The functions whose arguments are values only. -/
def simpleResult (name : String) (args : List Value) : Exec Value := do
  let first := args.headD .unset
  let real (f : Float → Float) : Exec Value := return .number (f first.toNumber)
  match name with
  | "length" => return .number (Float.ofNat (← textOf first).length)
  | "substr" =>
    let start := (args.getD 1 .unset).toNumber
    return .text (partOf (← textOf first) start ((args[2]?).map Value.toNumber))
  | "index" =>
    let s ← textOf first
    let t ← textOf (args.getD 1 .unset)
    return .number (Float.ofNat (indexOf s.toList t.toList))
  | "sprintf" =>
    let formats : Formats := { convert := ← convertFormat }
    match formatText "sprintf" formats (← textOf first) args.tail with
    | (s, none) => return .text s
    | (_, some e) => failRunning e.message
  | "sin" => real Float.sin
  | "cos" => real Float.cos
  | "exp" => real Float.exp
  | "log" => real Float.log
  | "sqrt" => real Float.sqrt
  | "int" => real fun n => if n < 0 then n.ceil else n.floor
  | "atan2" => return .number (first.toNumber.atan2 (args.getD 1 .unset).toNumber)
  | "tolower" => return .text ((← textOf first).map Char.toLower)
  | "toupper" => return .text ((← textOf first).map Char.toUpper)
  | "rand" =>
    modify fun m => { m with random := nextRandom m.random }
    return .number (Float.scaleB (Float.ofNat ((← get).random / Nat.pow 2 33)) (-31))
  | "srand" =>
    let old := (← get).seed
    let now := (← Shell.present) / 1000000000
    let new : Value := if args.isEmpty then .number (Float.ofNat now) else first
    modify fun m => { m with seed := new, random := rowOf new }
    return old
  | "system" =>
    flushAll
    let status ← runShell (← textOf first) none none
    return .number (Float.ofInt status)
  | "close" => return .number (Float.ofInt (← close (← textOf first)))
  | "fflush" =>
    flushAll
    return .number 0
  | "systime" => return .number (Float.ofNat ((← Shell.present) / 1000000000))
  | "strftime" =>
    let now := (← Shell.present) / 1000000000
    let time : Int := ((args[1]?).map fun v => wholePart v.toNumber).getD now
    let format ← if args.isEmpty then pure "%c" else textOf first
    return .text ((Shell.momentOf time).write false format)
  | "mktime" =>
    match numbersOf (← textOf first) with
    | year :: month :: day :: hour :: minute :: second :: _ =>
      return .number (Float.ofInt (Shell.Calendar.secondsOf year month day hour minute second))
    | _ => return .number (-1)
  | _ => return .number (-1)

/-- What is written to a target. -/
inductive Direction where
  | output
  | file (appends : Bool) (name : String)
  | command (text : String)

/-- Writes a text. -/
def Direction.put : Direction → String → Exec Unit
  | .output, s => Records.put s
  | .file appends name, s => putTo false appends name s
  | .command text, s => putTo true false text s

mutual

/-- The place that is meant; an item of a group is there from then on. -/
def locate (fuel : Nat) (p : Place) : Exec Spot :=
  match fuel with
  | 0 => throw .failed
  | fuel + 1 => do
    match p with
    | .variable name => return .variable name
    | .field e =>
      let n := wholePart (← evaluate fuel e).toNumber
      if n < 0 then failRunning (RunFault.negativeField n).message
      return .field n.toNat
    | .item name keys =>
      let key ← keyOf fuel keys
      let g ← groupOf name
      changeGroup g fun t => t.touch key
      return .item g key.1

/-- The key that some expressions make up. -/
def keyOf (fuel : Nat) (keys : List Expr) : Exec (String × Option Int) :=
  match fuel with
  | 0 => throw .failed
  | fuel + 1 => do
    match ← evaluateAll fuel keys with
    | [v] => return Group.keyOf (← convertFormat) v
    | vs =>
      let parts ← vs.mapM textOf
      return ((← textOf (← global "SUBSEP")).intercalate parts, none)

/-- The values of some expressions. -/
def evaluateAll (fuel : Nat) (es : List Expr) : Exec (List Value) :=
  match fuel with
  | 0 => throw .failed
  | fuel + 1 => do
    match es with
    | [] => return []
    | e :: es =>
      let v ← evaluate fuel e
      return v :: (← evaluateAll fuel es)

/-- The expression that an operand stands for as a pattern. -/
def patternFrom (fuel : Nat) (e : Expr) : Exec Regex :=
  match fuel with
  | 0 => throw .failed
  | fuel + 1 => do
    match e with
    | .pattern s => patternOf s
    | e => patternOf (← textOf (← evaluate fuel e))

/-- The value of an expression. -/
def evaluate (fuel : Nat) (e : Expr) : Exec Value :=
  match fuel with
  | 0 => throw .failed
  | fuel + 1 => do
    let taken (place : Option Place) (record : Option String) (counts : Bool) : Exec Value := do
      match record with
      | none => return .number 0
      | some s =>
        match place with
        | none => setRecord s
        | some p =>
          let spot ← locate fuel p
          spot.put (.input s)
        if counts then
          count "NR"
          count "FNR"
        return .number 1
    match e with
    | .number n => return .number n
    | .text s => return .text s
    | .pattern s =>
      let r ← patternOf s
      return .ofBool (r.find false (← textOf (← recordValue)).toList 0).isSome
    | .place p => (← locate fuel p).value
    | .assign p e =>
      let spot ← locate fuel p
      let v ← evaluate fuel e
      spot.put v
      return v
    | .update op p e =>
      let spot ← locate fuel p
      let n := (← evaluate fuel e).toNumber
      let v := Value.number (op.apply (← spot.value).toNumber n)
      spot.put v
      return v
    | .step up new p =>
      let spot ← locate fuel p
      let old := (← spot.value).toNumber
      let v := if up then old + 1 else old - 1
      spot.put (.number v)
      return .number (if new then v else old)
    | .either test yes no =>
      if (← evaluate fuel test).holds then evaluate fuel yes else evaluate fuel no
    | .both a b =>
      if (← evaluate fuel a).holds then return .ofBool (← evaluate fuel b).holds else return .ofBool false
    | .any a b =>
      if (← evaluate fuel a).holds then return .ofBool true else return .ofBool (← evaluate fuel b).holds
    | .not e => return .ofBool !(← evaluate fuel e).holds
    | .minus e => return .number (-(← evaluate fuel e).toNumber)
    | .plus e => return .number (← evaluate fuel e).toNumber
    | .operate op a b =>
      let m := (← evaluate fuel a).toNumber
      let n := (← evaluate fuel b).toNumber
      return .number (op.apply m n)
    | .compare c a b =>
      let v ← evaluate fuel a
      let w ← evaluate fuel b
      return .ofBool (c.holds (← convertFormat) v w)
    | .hits negated a b =>
      let s ← textOf (← evaluate fuel a)
      let r ← patternFrom fuel b
      return .ofBool ((r.find false s.toList 0).isSome != negated)
    | .join a b =>
      let s ← textOf (← evaluate fuel a)
      let t ← textOf (← evaluate fuel b)
      return .text (s ++ t)
    | .contains keys name =>
      let key ← keyOf fuel keys
      return .ofBool ((← group (← groupOf name)).entries.contains key.1)
    | .call name args => callRoutine fuel name args
    | .builtin name args => callBuiltin fuel name args
    | .nextRecord place =>
      let record ← nextMain
      match place, record with
      | _, none => return .number 0
      | place, some s => taken place (some s) false
    | .nextOfFile place file =>
      match ← nextOf false (← textOf (← evaluate fuel file)) with
      | .ok record => taken place record false
      | .error _ => return .number (-1)
    | .nextOfCommand place command =>
      match ← nextOf true (← textOf (← evaluate fuel command)) with
      | .ok record => taken place record false
      | .error _ => return .number (-1)

/-- Calls a function of the program. -/
def callRoutine (fuel : Nat) (name : String) (args : List Expr) : Exec Value :=
  match fuel with
  | 0 => throw .failed
  | fuel + 1 => do
    match (← get).program.routines.lookup name with
    | none => return .unset
    | some r =>
      let before := (← get).groups.size
      let slots ← bindArguments fuel r.parameters args
      let m ← get
      set { m with locals := slots }
      let result ← tryTo (perform fuel r.body)
      modify fun n => { n with locals := m.locals, groups := n.groups.shrink before }
      match result with
      | .ok _ => return .unset
      | .error (.return v) => return v
      | .error stop => throw stop

/-- What the parameters of a function stand for in a call. -/
def bindArguments (fuel : Nat) (parameters : List (String × Bool)) (args : List Expr) :
    Exec (List (String × Slot)) :=
  match fuel with
  | 0 => throw .failed
  | fuel + 1 => do
    match parameters with
    | [] => return []
    | (name, isGroup) :: parameters =>
      let slot ←
        if isGroup then
          match args.head? with
          | some (.place (.variable v)) => pure (Slot.group (← groupOf v))
          | _ =>
            let n := (← get).groups.size
            modify fun m => { m with groups := m.groups.push {} }
            pure (Slot.group n)
        else
          match args.head? with
          | some e => pure (Slot.value (← evaluate fuel e))
          | none => pure (Slot.value .unset)
      return (name, slot) :: (← bindArguments fuel parameters args.tail)

/-- Calls a function that is there from the start. -/
def callBuiltin (fuel : Nat) (name : String) (args : List Expr) : Exec Value :=
  match fuel with
  | 0 => throw .failed
  | fuel + 1 => do
    match name, args with
    | "length", [] => return .number (Float.ofNat (← textOf (← recordValue)).length)
    | "length", [.place (.variable v)] =>
      if ← isGroup v then return .number (Float.ofNat (← group (← groupOf v)).entries.size)
      else simpleResult name [← variableOf v]
    | "split", text :: .place (.variable v) :: rest =>
      let s ← textOf (← evaluate fuel text)
      let separator ← match rest with
        | [] => pure (← get).separator
        | .pattern p :: _ => pure (Separator.pattern (← patternOf p))
        | e :: _ => separatorOf (← textOf (← evaluate fuel e))
      let parts := separator.split s
      let g ← groupOf v
      changeGroup g fun _ => .ofList (parts.map Value.input)
      return .number (Float.ofNat parts.length)
    | "match", [text, pattern] =>
      let s ← textOf (← evaluate fuel text)
      let r ← patternFrom fuel pattern
      let (start, length) : Nat × Float := match r.find false s.toList 0 with
        | some hit => (hit.start + 1, Float.ofNat (hit.stop - hit.start))
        | none => (0, -1)
      setGlobal "RSTART" (.number (Float.ofNat start))
      setGlobal "RLENGTH" (.number length)
      return .number (Float.ofNat start)
    | "sub", pattern :: new :: rest | "gsub", pattern :: new :: rest =>
      let r ← patternFrom fuel pattern
      let new ← textOf (← evaluate fuel new)
      let target := rest.headD (.place (.field (.number 0)))
      let spot : Option Spot ← match target with
        | .place p => pure (some (← locate fuel p))
        | _ => pure none
      let text ← match spot with
        | some spot => textOf (← spot.value)
        | none => textOf (← evaluate fuel target)
      let cs := text.toList
      let (changed, n) := replaceFrom r (name = "gsub") new.toList cs (2 * cs.length + 4) 0 none [] 0
      match spot with
      | some spot => if n > 0 then spot.put (.text (String.ofList changed))
      | none => pure ()
      return .number (Float.ofNat n)
    | name, args => simpleResult name (← evaluateAll fuel args)

/-- What is done. -/
def perform (fuel : Nat) (a : Act) : Exec Unit :=
  match fuel with
  | 0 => throw .failed
  | fuel + 1 => do
    match a with
    | .compute e => let _ ← evaluate fuel e
    | .print args target =>
      let format ← textOf (← global "OFMT")
      let shown (v : Value) : String := v.textIn format
      let text ←
        if args.isEmpty then pure (shown (← recordValue))
        else
          let vs ← evaluateAll fuel args
          pure ((← textOf (← global "OFS")).intercalate (vs.map shown))
      let end_ ← textOf (← global "ORS")
      (← aim fuel target).put (text ++ end_)
    | .format args target =>
      let vs ← evaluateAll fuel args
      let direction ← aim fuel target
      let formats : Formats := { convert := ← convertFormat }
      let (text, fault) := formatText "printf" formats (← textOf (vs.headD .unset)) vs.tail
      direction.put text
      match fault with
      | some e => failRunning e.message
      | none => pure ()
    | .row acts => performAll fuel acts
    | .branch test yes no =>
      if (← evaluate fuel test).holds then perform fuel yes
      else
        match no with
        | some act => perform fuel act
        | none => pure ()
    | .while test body => repeatWhile fuel true (some test) none body
    | .doWhile body test => repeatWhile fuel false (some test) none body
    | .for start test step body =>
      match start with
      | some act => perform fuel act
      | none => pure ()
      repeatWhile fuel true test step body
    | .each name groupName body =>
      let keys := (← group (← groupOf groupName)).keys
      performEach fuel name body keys
    | .next => throw .next
    | .nextFile => throw .nextFile
    | .exit e =>
      match e with
      | some e =>
        let n := wholePart (← evaluate fuel e).toNumber
        modify fun m => { m with status := (n % 256).toNat }
      | none => pure ()
      throw .exit
    | .return e =>
      match e with
      | some e => throw (.return (← evaluate fuel e))
      | none => throw (.return .unset)
    | .break => throw .break
    | .continue => throw .continue
    | .delete name keys =>
      let g ← groupOf name
      if keys.isEmpty then changeGroup g fun _ => {}
      else
        let key ← keyOf fuel keys
        changeGroup g fun t => if t.entries.contains key.1 then t.erase key.1 else t

/-- Does some acts one after the other. -/
def performAll (fuel : Nat) (acts : List Act) : Exec Unit :=
  match fuel with
  | 0 => throw .failed
  | fuel + 1 => do
    match acts with
    | [] => pure ()
    | act :: acts =>
      perform fuel act
      performAll fuel acts

/-- Does an act as long as a test holds, which is looked at before the first time or not. -/
def repeatWhile (fuel : Nat) (tests : Bool) (test : Option Expr) (step : Option Act) (body : Act) : Exec Unit :=
  match fuel with
  | 0 => throw .failed
  | fuel + 1 => do
    let goes ← match tests, test with
      | true, some e => pure (← evaluate fuel e).holds
      | _, _ => pure true
    if goes then
      let onward ← match ← tryTo (perform fuel body) with
        | .ok _ | .error .continue => pure true
        | .error .break => pure false
        | .error stop => throw stop
      if onward then
        match step with
        | some act => perform fuel act
        | none => pure ()
        repeatWhile fuel true test step body

/-- Does an act for each of some keys. -/
def performEach (fuel : Nat) (name : String) (body : Act) (keys : List String) : Exec Unit :=
  match fuel with
  | 0 => throw .failed
  | fuel + 1 => do
    match keys with
    | [] => pure ()
    | key :: keys =>
      setVariable name (.text key)
      let onward ← match ← tryTo (perform fuel body) with
        | .ok _ | .error .continue => pure true
        | .error .break => pure false
        | .error stop => throw stop
      if onward then performEach fuel name body keys

/-- Where a target leads. -/
def aim (fuel : Nat) (target : Target) : Exec Direction :=
  match fuel with
  | 0 => throw .failed
  | fuel + 1 => do
    match target with
    | .standard => return .output
    | .file appends e => return .file appends (← textOf (← evaluate fuel e))
    | .command e => return .command (← textOf (← evaluate fuel e))

end

/-- How much a program may do. -/
def programFuel : Nat := 100000000

/-- Whether a rule applies to the record. -/
def applies (c : Condition) : Exec Bool := do
  let test (e : Expr) : Exec Bool := return (← evaluate programFuel e).holds
  match c with
  | .first | .last => return false
  | .always => return true
  | .test e => test e
  | .range n start stop =>
    let isOpen := (← get).ranges.contains n
    if !isOpen && !(← test start) then return false
    if ← test stop then modify fun m => { m with ranges := m.ranges.filter (· != n) }
    else if !isOpen then modify fun m => { m with ranges := n :: m.ranges }
    return true

/-- Does what a rule says, which is to write the record if it does not say anything. -/
def follow (act : Option Act) : Exec Unit :=
  perform programFuel (act.getD (.print [] .standard))

/-- Does what the rules say for the record. -/
def followAll : List (Condition × Option Act) → Exec Unit
  | [] => pure ()
  | (c, act) :: rules => do
    if ← applies c then follow act
    followAll rules

/-- Goes through all records. -/
def runRecords (rules : List (Condition × Option Act)) : Nat → Exec Unit
  | 0 => throw .failed
  | fuel + 1 => do
    match ← nextMain with
    | none => pure ()
    | some s =>
      setRecord s
      match ← tryTo (followAll rules) with
      | .ok _ | .error .next => runRecords rules fuel
      | .error .nextFile =>
        modify fun m => { m with main := none }
        runRecords rules fuel
      | .error stop => throw stop

/-- Runs a program; its status. -/
def runProgram : Exec Nat := do
  let rules := (← get).program.rules
  let firsts := rules.filterMap fun (c, act) => if c matches .first then act else none
  let lasts := rules.filterMap fun (c, act) => if c matches .last then act else none
  let others := rules.filter fun r => !(r.1 matches .first) && !(r.1 matches .last)
  let whole : Exec Unit := do
    firsts.forM fun act => follow (some act)
    if !others.isEmpty || !lasts.isEmpty then runRecords others programFuel
  let ending : Exec Unit := lasts.forM fun act => follow (some act)
  let result ← match ← tryTo whole with
    | .ok _ | .error .exit => tryTo ending
    | r => pure r
  closeAll
  match result with
  | .ok _ | .error .exit => return (← get).status
  | .error _ => return 2

end ClassLens.Tool.Records
