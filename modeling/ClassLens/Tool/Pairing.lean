import ClassLens.Tool.Copying

/-! # Two inputs side by side

`comm` and `join`: the lines of two inputs that are in order, beside the same ones of the other input, or
beside those with the same field. Both go through the inputs once; that an input is not in order is remarked
when it is noticed.

* `Order`: what is known of the order of two inputs, and how much it matters.
* `mergeLines`: what `comm` writes.
* `Joining`: how lines are joined, and what of them is shown. -/

namespace ClassLens.Tool

open Shell

namespace Pairing

/-! ### The order of inputs -/

/-- What is done about lines that are not in order. -/
inductive Strictness where
  /-- It is remarked once a line has been found that has no partner. -/
  | lenient
  /-- It ends the program. -/
  | strict
  | careless
  deriving DecidableEq

/-- What is known of the order of two inputs. -/
structure Order where
  strictness : Strictness := .lenient
  /-- Whether a line without a partner was found. -/
  hasSingle : Bool := false
  /-- Whether the first and the second input are known not to be in order. -/
  first : Bool := false
  second : Bool := false
  /-- What was remarked, the last remark first. -/
  remarks : List String := []
  /-- Whether the program ends. -/
  isOver : Bool := false

/-- Whether an input is known not to be in order. -/
def Order.knows (o : Order) (isFirst : Bool) : Bool := if isFirst then o.first else o.second

/-- Whether some input is known not to be in order. -/
def Order.isBroken (o : Order) : Bool := o.first || o.second

/-- What is known after two lines of an input that follow one another, which are in order or not. -/
def Order.check (o : Order) (isFirst inOrder : Bool) (remark : String) : Order :=
  let matters := o.strictness = .strict || (o.strictness = .lenient && o.hasSingle)
  if inOrder || !matters || o.knows isFirst then o
  else
    { o with
      first := o.first || isFirst
      second := o.second || !isFirst
      remarks := remark :: o.remarks
      isOver := o.strictness = .strict }

/-! ### Lines with the same ones -/

/-- How many lines there are of the first input alone, of the second one alone, and of both. -/
structure Counts where
  first : Nat := 0
  second : Nat := 0
  both : Nat := 0

/-- A line of one input, or of both. -/
inductive Entry where
  | first (line : List Char)
  | second (line : List Char)
  | both (line : List Char)

/-- The lines of two inputs in order, each with what is known then. `a` and `b` hold the lines that were read
before the ones at hand, the last one first. -/
def mergeLines : Nat → Order → List (List Char) → List (List Char) → List (List Char) → List (List Char) →
    List Entry → List Entry × Order
  | 0, o, _, _, _, _, found => (found, o)
  | n + 1, o, a, b, xs, ys, found =>
    if o.isOver then (found, o)
    else
      let step (isFirst : Bool) (o : Order) (before : List (List Char)) (rest : List (List Char)) : Order :=
        let remark := "file " ++ (if isFirst then "1" else "2") ++ " is not in sorted order"
        match rest, before with
        | next :: _, last :: _ => o.check isFirst (!(next < last)) remark
        | [], last :: older :: _ => o.check isFirst (!(last < older)) remark
        | _, _ => o
      match xs, ys with
      | [], [] => (found, o)
      | x :: xs, [] =>
        let o := { o with hasSingle := true }
        mergeLines n (step true o (x :: a) xs) (x :: a) b xs [] (.first x :: found)
      | [], y :: ys =>
        let o := { o with hasSingle := true }
        mergeLines n (step false o (y :: b) ys) a (y :: b) [] ys (.second y :: found)
      | x :: xs, y :: ys =>
        if x = y then
          let o := step true o (x :: a) xs
          let o := if o.isOver then o else step false o (y :: b) ys
          mergeLines n o (x :: a) (y :: b) xs ys (.both x :: found)
        else
          let o := { o with hasSingle := true }
          if x < y then mergeLines n (step true o (x :: a) xs) (x :: a) b xs (y :: ys) (.first x :: found)
          else mergeLines n (step false o (y :: b) ys) a (y :: b) (x :: xs) ys (.second y :: found)

/-- The counts of some lines. -/
def countsOf (entries : List Entry) : Counts :=
  entries.foldl (fun c e =>
    match e with
    | .first _ => { c with first := c.first + 1 }
    | .second _ => { c with second := c.second + 1 }
    | .both _ => { c with both := c.both + 1 }) {}

/-! ### Lines with the same field -/

/-- What is shown of a pair of lines at one place. -/
inductive Shown where
  /-- The field by which they are joined. -/
  | common
  /-- A field of the first or of the second line, counted from zero. -/
  | field (isFirst : Bool) (index : Nat)

/-- A line with its fields. -/
structure Row where
  line : List Char
  fields : List (List Char)

/-- How lines are joined, and what is shown of them. -/
structure Joining where
  /-- The fields by which lines are joined, counted from zero; the first ones where nothing is said. -/
  byFirst : Option Nat := none
  bySecond : Option Nat := none
  /-- The character between fields; blanks for none. -/
  sign : Option Char := none
  anyCase : Bool := false
  filler : List Char := []
  shown : List Shown := []
  /-- How many fields are shown of lines of the inputs where all have as many as the first ones. -/
  widths : Option (Nat × Nat) := none
  pairs : Bool := true
  singles : Bool × Bool := (false, false)
  header : Bool := false

/-- The field by which lines of the first input are joined. -/
def Joining.first (j : Joining) : Nat := j.byFirst.getD 0

/-- The field by which lines of the second input are joined. -/
def Joining.second (j : Joining) : Nat := j.bySecond.getD 0

/-- Whether a character parts fields where no other one is said to. -/
def partsFields (c : Char) : Bool := c == ' ' || c == '\t' || c == '\n'

/-- The fields of a text without blanks at its start. Blanks at its end are followed by an empty field. -/
def blankFields : Nat → List Char → List (List Char)
  | 0, _ => []
  | n + 1, s =>
    let field := (s.head?.toList ++ (s.drop 1).takeWhile fun c => !partsFields c)
    match s.drop field.length with
    | [] => [field]
    | _ :: rest =>
      match rest.dropWhile partsFields with
      | [] => [field, []]
      | rest => field :: blankFields n rest

/-- The fields of a line. -/
def Joining.rowOf (j : Joining) (line : List Char) : Row :=
  let fields : List (List Char) :=
    match j.sign with
    | some c =>
      if line.isEmpty then []
      else if c == '\n' then [line]
      else ((String.ofList line).splitOn (String.singleton c)).map String.toList
    | none =>
      match line.dropWhile partsFields with
      | [] => []
      | s => blankFields (s.length + 1) s
  ⟨line, fields⟩

/-- The key of a line. -/
def Joining.key (j : Joining) (isFirst : Bool) (r : Row) : List Char :=
  let text := (r.fields[if isFirst then j.first else j.second]?).getD []
  if j.anyCase then text.map Char.toUpper else text

/-- A field of a line, with what fills an empty one. -/
def Joining.fieldOf (j : Joining) (r : Option Row) (index : Nat) : List Char :=
  match (r.bind fun r => r.fields[index]?).getD [] with
  | [] => j.filler
  | text => text

/-- The text of a pair of lines, or of a line without a partner. -/
def Joining.textOf (j : Joining) (a b : Option Row) : List Char :=
  let common : List Char := if a.isSome then j.fieldOf a j.first else j.fieldOf b j.second
  let others (r : Option Row) (index : Nat) (width : Option Nat) : List (List Char) :=
    let count := width.getD ((r.map fun r => r.fields.length).getD 0)
    ((List.range count).filter (· != index)).map (j.fieldOf r)
  let parts : List (List Char) :=
    if j.shown.isEmpty then
      common :: (others a j.first (j.widths.map Prod.fst) ++ others b j.second (j.widths.map Prod.snd))
    else j.shown.map fun s =>
      match s with
      | .common => common
      | .field isFirst index => j.fieldOf (if isFirst then a else b) index
  [j.sign.getD ' '].intercalate parts

/-- An input that is being read: its name, the number of the last line, that line, and the lines that follow. -/
structure Source where
  name : String
  number : Nat := 0
  last : Option Row := none
  rest : List Row

/-- Goes to the next line of an input, if there is one. -/
def Joining.advance (j : Joining) (isFirst : Bool) (o : Order) (s : Source) : Order × Source × Option Row :=
  match s.rest with
  | [] => (o, s, none)
  | next :: rest =>
    let number := s.number + 1
    let o :=
      match s.last with
      | some last =>
        o.check isFirst (!(j.key isFirst next < j.key isFirst last))
          (s.name ++ ":" ++ toString number ++ ": is not sorted: " ++ String.ofList next.line)
      | none => o
    (o, { s with number, last := some next, rest }, some next)

/-- The rows of an input that have a key, and the row after them. -/
def Joining.takeSame (j : Joining) (isFirst : Bool) (key : List Char) :
    Nat → Order → Source → List Row → Order × Source × List Row × Option Row
  | 0, o, s, taken => (o, s, taken, none)
  | n + 1, o, s, taken =>
    match j.advance isFirst o s with
    | (o, s, none) => (o, s, taken, none)
    | (o, s, some r) =>
      if o.isOver then (o, s, taken, none)
      else if j.key isFirst r = key then takeSame j isFirst key n o s (taken ++ [r])
      else (o, s, taken, some r)

/-- The lines of two inputs joined, the last one first; `a` and `b` are the rows at hand. -/
def Joining.merge (j : Joining) : Nat → Order → Option Row → Option Row → Source → Source →
    List (List Char) → List (List Char) × Order
  | 0, o, _, _, _, _, found => (found, o)
  | n + 1, o, a, b, s, t, found =>
    if o.isOver then (found, o)
    else
      match a, b with
      | some x, some y =>
        let keyOfFirst := j.key true x
        let keyOfSecond := j.key false y
        if keyOfFirst < keyOfSecond then
          let found := if j.singles.1 then j.textOf a none :: found else found
          let (o, s, a) := j.advance true o s
          j.merge n { o with hasSingle := true } a b s t found
        else if keyOfSecond < keyOfFirst then
          let found := if j.singles.2 then j.textOf none b :: found else found
          let (o, t, b) := j.advance false o t
          j.merge n { o with hasSingle := true } a b s t found
        else
          let (o, s, xs, a) := j.takeSame true keyOfSecond (s.rest.length + 1) o s [x]
          if o.isOver then (found, o)
          else
            let (o, t, ys, b) := j.takeSame false keyOfFirst (t.rest.length + 1) o t [y]
            let made := if j.pairs then xs.flatMap fun x => ys.map fun y => j.textOf (some x) (some y) else []
            if o.isOver then (found, o) else j.merge n o a b s t (made.reverse ++ found)
      | none, none => (found, o)
      | a, b =>
        let isFirst := a.isSome
        let isShown := if isFirst then j.singles.1 else j.singles.2
        let checks := o.strictness ≠ .careless && !(o.first && o.second)
        if !(isShown || checks) then (found, o)
        else
          let show_ (r : Row) : List Char := if isFirst then j.textOf (some r) none else j.textOf none (some r)
          let head := (if isFirst then a else b).toList
          let found := if isShown then head.map show_ ++ found else found
          (if isFirst then s else t).rest.foldl (fun (found, o, source) _ =>
            if o.isOver || (o.knows isFirst && !isShown) then (found, o, source)
            else
              match j.advance isFirst o source with
              | (o, source, some r) => (if isShown && !o.isOver then show_ r :: found else found, o, source)
              | (o, source, none) => (found, o, source))
            (found, o, if isFirst then s else t) |> fun (found, o, _) => (found, o)

/-- All lines of two inputs joined, the last one first. -/
def Joining.all (j : Joining) (isAutomatic : Bool) (strictness : Strictness) (s t : Source) :
    List (List Char) × Order :=
  let j :=
    if isAutomatic then
      let width (s : Source) : Nat := (s.rest.head?.map fun r => r.fields.length).getD 0
      { j with widths := some (width s, width t) }
    else j
  let (o, s, a) := j.advance true { strictness } s
  let (o, t, b) := j.advance false o t
  let fuel := s.rest.length + t.rest.length + 4
  if j.header && (a.isSome || b.isSome) then
    let heading := j.textOf a b
    let (o, s, a) := j.advance true o { s with last := none }
    let (o, t, b) := j.advance false o { t with last := none }
    j.merge fuel o a b s t [heading]
  else j.merge fuel o a b s t []

/-! ### What is shown -/

/-- The number of a field from one on, as one from zero on. -/
def fieldOf? (s : String) : Except String Nat :=
  match natOf? s with
  | some (n + 1) => .ok n
  | _ => .error ("invalid field number: " ++ quoted s)

/-- What one item of a list of fields shows. -/
def shownOf? (s : String) : Except String Shown :=
  match s.toList with
  | ['0'] => .ok .common
  | '0' :: _ => .error ("invalid field specifier: " ++ quoted s)
  | c :: rest =>
    if c == '1' || c == '2' then
      match rest with
      | '.' :: digits => (fieldOf? (String.ofList digits)).map (.field (c == '1'))
      | _ => .error ("invalid field specifier: " ++ quoted s)
    else .error ("invalid file number in field spec: " ++ quoted s)
  | [] => .error "invalid file number in field spec: ''"

/-- What a list of fields shows. -/
def shownIn (s : String) : Except String (List Shown) :=
  let words := (s.toList.splitBy fun a b => !(isMark a) && !(isMark b)).map String.ofList
  (words.filter fun w => !(w.toList.all isMark)).mapM shownOf?
where
  /-- Whether a character stands between items. -/
  isMark (c : Char) : Bool := c == ',' || c == ' ' || c == '\t'

/-- How lines are joined after one more option, or what is wrong with it. -/
def Joining.read (j : Joining) (letter : Char) (value : String) : Except String Joining :=
  let settle (old : Option Nat) (n : Nat) : Except String (Option Nat) :=
    match old with
    | some m => if m = n then .ok old else .error ("incompatible join fields " ++ toString m ++ ", " ++ toString n)
    | none => .ok (some n)
  match letter with
  | '1' => do return { j with byFirst := ← settle j.byFirst (← fieldOf? value) }
  | '2' => do return { j with bySecond := ← settle j.bySecond (← fieldOf? value) }
  | 'j' => do
    let n ← fieldOf? value
    let byFirst ← settle j.byFirst n
    return { j with
      byFirst
      bySecond := ← settle j.bySecond n }
  | 'a' | 'v' =>
    let j := if letter = 'v' then { j with pairs := false } else j
    match value with
    | "1" => .ok { j with singles := (true, j.singles.2) }
    | "2" => .ok { j with singles := (j.singles.1, true) }
    | _ => .error ("invalid field number: " ++ quoted value)
  | 'e' =>
    if j.filler ≠ [] ∧ j.filler ≠ value.toList then .error "conflicting empty-field replacement strings"
    else .ok { j with filler := value.toList }
  | 'i' => .ok { j with anyCase := true }
  | 'o' => if value = "auto" then .ok j else (shownIn value).map fun l => { j with shown := j.shown ++ l }
  | 't' =>
    let sign : Option Char := match value.toList with
      | [] => some '\n'
      | [c] => some c
      | ['\\', '0'] => some '\x00'
      | _ => none
    if sign.isNone then .error ("multi-character tab " ++ quoted value)
    else if j.sign.isSome && j.sign != sign then .error "incompatible tabs"
    else .ok { j with sign }
  | '\x01' => .ok { j with header := true }
  | _ => .ok j

end Pairing

open Pairing

/-- The two operands of a program; the faults of there being fewer or more of them. -/
def twoOperands (self : String) (operands : List String) (body : String → String → Run Nat) : Run Nat :=
  match operands with
  | [] => usage self "missing operand" 1
  | [one] => usage self ("missing operand after " ++ quoted one) 1
  | [a, b] => body a b
  | _ :: _ :: extra :: _ => usage self ("extra operand " ++ quoted extra) 1

/-- The lines of two inputs. -/
def twoInputs (self : String) (stop : Char) (a b : String)
    (body : List (List Char) → List (List Char) → Run Nat) : Run Nat := do
  let linesOf (content : String) : List (List Char) :=
    (linesFrom stop content.toList []).map fun line => (bare stop line).toList
  let fail (path : String) (fault : ReadFault) : Run Nat := do
    complain self (named path ++ ": " ++ fault.wording)
    return 1
  match ← readInput a with
  | .error fault => fail a fault
  | .ok x =>
    match ← (if a = b && a = "-" then pure (.ok "") else readInput b) with
    | .error fault => fail b fault
    | .ok y => body (linesOf x) (linesOf y)

/-- Writes what is of two inputs alone and what is of both. -/
def comm : Tool := fun self args =>
  let o : Options := {
    flags := ['1', '2', '3', 'z', '\x01', '\x02', '\x03']
    valued := ['\x04']
    names := [("check-order", '\x01'), ("nocheck-order", '\x02'), ("total", '\x03'),
      ("output-delimiter", '\x04'), ("zero-terminated", 'z')] }
  o.read self args 1 fun g =>
    twoOperands self g.operands fun a b => do
      let stop := if g.has 'z' then '\x00' else '\n'
      let joint := match g.value? '\x04' with
        | some "" => "\x00"
        | some s => s
        | none => "\t"
      let strictness : Strictness := match (g.options.filter fun e => e.1 == '\x01' || e.1 == '\x02').getLast? with
        | some (c, _) => if c == '\x01' then .strict else .careless
        | none => .lenient
      twoInputs self stop a b fun xs ys => do
        let start : Order := { strictness }
        let (found, order) := mergeLines (xs.length + ys.length + 1) start [] [] xs ys []
        let before (isShown : Bool) : String := if isShown then joint else ""
        let text (e : Entry) : String :=
          let (isShown, indent, line) := match e with
            | .first line => (!g.has '1', "", line)
            | .second line => (!g.has '2', before (!g.has '1'), line)
            | .both line => (!g.has '3', before (!g.has '1') ++ before (!g.has '2'), line)
          if isShown then indent ++ String.ofList line ++ String.singleton stop else ""
        for remark in order.remarks.reverse do complain self remark
        say (String.join (found.reverse.map text))
        if order.isOver then return 1
        if g.has '\x03' then
          let c := Pairing.countsOf found
          say (joint.intercalate [toString c.first, toString c.second, toString c.both, "total"] ++
            String.singleton stop)
        if order.isBroken then
          complain self "input is not in sorted order"
          return 1
        return 0

/-- Writes lines of two inputs with the same field as one line. -/
def join : Tool := fun self args =>
  let o : Options := {
    flags := ['i', 'z', '\x01', '\x02', '\x03']
    valued := ['a', 'e', '1', '2', 'j', 'o', 't', 'v']
    names := [("ignore-case", 'i'), ("check-order", '\x02'), ("nocheck-order", '\x03'), ("zero-terminated", 'z'),
      ("header", '\x01')] }
  o.read self args 1 fun g => do
    let read : Except String Joining := g.options.foldlM (fun j (letter, value) => j.read letter value) {}
    match read with
    | .error e =>
      complain self e
      return 1
    | .ok j =>
      twoOperands self g.operands fun a b => do
        if a = "-" ∧ b = "-" then
          complain self "both files cannot be standard input"
          return 1
        let stop := if g.has 'z' then '\x00' else '\n'
        let strictness : Strictness :=
          match (g.options.filter fun e => e.1 == '\x02' || e.1 == '\x03').getLast? with
          | some (c, _) => if c == '\x02' then .strict else .careless
          | none => .lenient
        twoInputs self stop a b fun xs ys => do
          let (found, order) := j.all ((g.values 'o').contains "auto") strictness
            { name := a, rest := xs.map j.rowOf } { name := b, rest := ys.map j.rowOf }
          for remark in order.remarks.reverse do complain self remark
          say (String.join (found.reverse.map fun line => String.ofList line ++ String.singleton stop))
          if order.isBroken then
            if !order.isOver then complain self "input is not in sorted order"
            return 1
          return 0

end ClassLens.Tool
