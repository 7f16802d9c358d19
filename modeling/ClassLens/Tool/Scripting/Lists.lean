import ClassLens.Tool.Scripting.Functions
import ClassLens.Tool.Scripting.Suspects

/-! # What scripts do with lists, tables and texts in cells

* `addTo`, `takeFrom`, `spliceList`, `removeItem`: lists.
* `removeEntry`, `keysOf`, `nextEntry`: tables.
* `cutEnds`: texts in cells that lose their ends.
* `splitText`: texts cut into pieces. -/

namespace ClassLens.Tool.Scripting

/-- The entry of a text that a key names. -/
def indexIn (size : Nat) (i : Int) : Option Nat :=
  if 0 ≤ i then some i.toNat else if 0 ≤ (size : Int) + i then some ((size : Int) + i).toNat else none

/-- A new variable of a block, or one that lasts. -/
def freshPlace (shape : Shape) (name : String) (keeps : Bool) : Exec Nat := do
  if keeps then
    let key := shape.sign ++ name ++ " " ++ toString (← get).line
    match (← get).lasting.get? key with
    | some n =>
      bind shape name n
      return n
    | none =>
      let n ← newPlace shape
      modify fun m => { m with lasting := m.lasting.insert key n }
      bind shape name n
      return n
  else
    let n ← newPlace shape
    bind shape name n
    return n

/-! ### Lists -/

/-- Adds values to a list, at its end or at its start; how many it has then. -/
def addTo (place : Nat) (atEnd : Bool) (vs : List Value) : Exec Value := do
  let new ← cellsFor vs
  let cells ← listCells place
  putList place (if atEnd then cells ++ new else new ++ cells)
  return .ofNat (cells.size + new.size)

/-- Takes the last value of a list or the first one. -/
def takeFrom (place : Nat) (atEnd : Bool) : Exec Value := do
  let cells ← listCells place
  match if atEnd then cells.back? else cells[0]? with
  | some n =>
    putList place (if atEnd then cells.pop else cells.extract 1 cells.size)
    cellValue n
  | none => return .undefined

/-- Takes a part of a list away and puts values there; the values of the part. -/
def spliceList (place : Nat) (bounds vs : List Value) : Exec (List Value) := do
  let new ← cellsFor vs
  let cells ← listCells place
  let start ← match bounds.head? with
    | some v =>
      match indexIn cells.size v.toInt with
      | some i => pure i
      | none => fail ("Modification of non-creatable array value attempted, subscript " ++ toString v.toInt)
    | none => pure 0
  if start > cells.size then caution "misc" "splice() offset past end of array" false
  let start := min start cells.size
  let stop : Nat :=
    match (bounds[1]? : Option Value) with
    | none | some Value.undefined => cells.size
    | some v =>
      let n := v.toInt
      if n < 0 then max start ((cells.size : Int) + n).toNat else min cells.size (start + n.toNat)
  putList place (cells.extract 0 start ++ new ++ cells.extract stop cells.size)
  (cells.extract start stop).toList.mapM cellValue

/-- Takes the value of a list away that an index names; its place stays unless it is the last one. -/
def removeItem (place : Nat) (i : Int) : Exec Value := do
  let cells ← listCells place
  match indexIn cells.size i with
  | some i =>
    let old ← match cells[i]? with
      | some n => cellValue n
      | none => pure .undefined
    if i + 1 = cells.size then putList place cells.pop
    else if i < cells.size then
      let n ← newCell .undefined
      modify fun m => { m with gaps := n :: m.gaps }
      putList place (cells.set! i n)
    return old
  | none => return .undefined

/-! ### Tables -/

/-- Takes an entry of a table away; its value. -/
def removeEntry (place : Nat) (k : String) : Exec Value := do
  let t ← tableOf place
  match t.get? k with
  | some n =>
    putTable place (t.erase k)
    cellValue n
  | none => return .undefined

/-- Goes to no entry of a table, or to one of them. -/
def setCursor (place : Nat) (i : Option Nat) : Exec Unit := modify fun m =>
  { m with cursors := i.toList.map (place, ·) ++ m.cursors.filter fun c => c.1 != place }

/-- The keys of a table, which is gone through from the start after that. -/
def keysOf (place : Nat) : Exec (List Value) := do
  setCursor place none
  return (← tableOf place).keys.map Value.text

/-- The next entry of a table, in the row in which it is gone through. -/
def nextEntry (place : Nat) : Exec (List Value) := do
  let i := ((← get).cursors.lookup place).getD 0
  match (← tableOf place).entries[i]? with
  | some (k, cell) =>
    setCursor place (some (i + 1))
    return [.text k, ← cellValue cell]
  | none =>
    setCursor place none
    return []

/-- The next item of a list, with its number. -/
def nextItem (place : Nat) : Exec (List Value) := do
  -- lists are told from tables by numbers that no table has
  let key := 1000000000 + place
  let i := ((← get).cursors.lookup key).getD 0
  match (← listCells place)[i]? with
  | some cell =>
    setCursor key (some (i + 1))
    return [.ofNat i, ← cellValue cell]
  | none =>
    setCursor key none
    return []

/-! ### Texts -/

/-- Takes the last characters of texts away: those that end a record, or any one; what was taken. -/
def cutEnds (name : String) (items : List Item) : Exec Value := do
  let separator ← global "/"
  let stop := separator.toText
  let mut count := 0
  let mut last := ""
  for item in items do
    match item with
    | .cell n =>
      let v ← cellValue n
      let s := v.toText
      if !v.isDefined then pure ()
      else if name = "chop" then
        last := String.ofList (s.toList.reverse.take 1)
        putCell n (.text (s.dropEnd 1).toString)
      else if stop ≠ "" && s.endsWith stop then
        count := count + stop.length
        putCell n (.text (s.dropEnd stop.length).toString)
      else if stop = "" && separator.isDefined then
        let kept := String.ofList (s.toList.reverse.dropWhile (· == '\n')).reverse
        count := count + (s.length - kept.length)
        putCell n (.text kept)
    | .value _ => pure ()
  return if name = "chop" then .text last else .ofNat count

/-- The pieces of a text between matches, or its words for a single blank. -/
def splitText (separator : Value) (s : String) (limit : Int) : Exec (List Value) := do
  let byPattern (flags source : String) : Exec (List Value) := do
    let flags := if source = "^" then flags ++ "m" else flags
    let m ← matcherOf flags source
    return piecesBetween m s limit
  match separator with
  | .pattern flags source => byPattern flags source
  | v =>
    if v.toText = " " then
      let m ← matcherOf "" "\\s+"
      return piecesBetween m (String.ofList (s.toList.dropWhile Records.isSpace)) limit
    else byPattern "" v.toText

/-- Makes what a value points to belong to a class. -/
def blessed (v : Value) (space : String) : Exec Value := do
  modify fun m => { m with classes := (v.address, space) :: m.classes.filter fun c => c.1 != v.address }
  return v

/-- The kind of what a value points to, or its class. -/
def kindName (name : String) (v : Value) : Exec Value := do
  match (← get).classes.lookup v.address with
  | some space => return if v.kind ≠ "" then .text space else if name = "ref" then .text "" else .undefined
  | none => return if name = "ref" then .text v.kind else .undefined

end ClassLens.Tool.Scripting
