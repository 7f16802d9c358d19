import ClassLens.Tool.Sorting

/-! # Lines that repeat

`uniq` writes lines that follow one another and are the same only once, or those that repeat, or those that do
not. -/

namespace ClassLens.Tool

open Shell

/-- How rows of lines that are the same are set apart. -/
inductive Gaps where
  | none
  | before
  | between
  | after
  | around
  deriving DecidableEq

/-- The words for how rows are set apart, for all lines or for those that repeat. -/
def gapWords (all : Bool) : List (String × Gaps) :=
  if all then [("prepend", .before), ("append", .after), ("separate", .between), ("both", .around)]
  else [("none", .none), ("prepend", .before), ("separate", .between)]

/-- What is compared of a line. -/
structure LineKey where
  fields : Nat := 0
  chars : Nat := 0
  most : Option Nat := none
  anyCase : Bool := false

/-- The part of a line that is compared. -/
def LineKey.part (k : LineKey) (line : List Char) : List Char :=
  let rec dropFields : Nat → List Char → List Char
    | 0, s => s
    | n + 1, s => dropFields n ((s.dropWhile isBlankChar).dropWhile fun c => !isBlankChar c)
  let s := (dropFields k.fields line).drop k.chars
  let s := match k.most with
    | some n => s.take n
    | none => s
  if k.anyCase then s.map Char.toLower else s

/-- Rows of lines that are the same. -/
def rowsOf (key : List Char → List Char) (all : List (List Char)) : List (List (List Char)) :=
  (all.foldl (fun (rows : List (List (List Char))) line =>
    match rows with
    | row :: before =>
      if key (row.headD []) == key line then (line :: row) :: before else [line] :: rows
    | [] => [[line]]) []).reverse.map List.reverse

/-- Rows of lines as texts, with gaps. -/
def spaceRows (gaps : Gaps) (stop : Char) (rows : List (List (List Char))) : String :=
  let gap := String.singleton stop
  let text (row : List (List Char)) : String :=
    String.join (row.map fun line => String.ofList line ++ gap)
  let body := match gaps with
    | .none => String.join (rows.map text)
    | .before | .around => String.join (rows.map fun row => gap ++ text row)
    | .between | .after => gap.intercalate (rows.map text)
  if (gaps = .around ∨ gaps = .after) ∧ rows ≠ [] then body ++ gap else body

/-- The options of `uniq`. -/
def uniqOptions : Options := {
  flags := "cdDiuz0123456789".toList
  valued := ['f', 's', 'w']
  optional := ['\x01', '\x02']
  names := [("count", 'c'), ("repeated", 'd'), ("all-repeated", '\x01'), ("group", '\x02'),
    ("ignore-case", 'i'), ("unique", 'u'), ("skip-fields", 'f'), ("skip-chars", 's'),
    ("check-chars", 'w'), ("zero-terminated", 'z')] }

/-- Writes lines that follow one another only once, or those that repeat, or those that do not. -/
def uniq : Tool := fun self args =>
  uniqOptions.read self args 1 fun g => do
    if let some extra := g.operands[2]? then return ← usage self ("extra operand " ++ quoted extra) 1
    let counted : List (Char × String) :=
      [('f', "fields to skip"), ('s', "bytes to skip"), ('w', "bytes to compare")]
    for (letter, value) in g.options do
      if let some what := counted.lookup letter then
        if (natOf? value).isNone then
          complain self (value ++ ": invalid number of " ++ what)
          return 1
      if letter == '\x01' && value ≠ "" && (wordOf? (gapWords false) value).isNone then
        return ← refuseWord self "--all-repeated" value (gapWords false) 1
      if letter == '\x02' && value ≠ "" && (wordOf? (gapWords true) value).isNone then
        return ← refuseWord self "--group" value (gapWords true) 1
    let repeated := (g.value? '\x01').map fun w => if w = "" then "none" else w
    let grouped := (g.value? '\x02').map fun w => if w = "" then "separate" else w
    let showsAll := g.has 'D' || repeated.isSome
    if grouped.isSome && (g.has 'c' || g.has 'd' || g.has 'u' || showsAll) then
      return ← usage self "--group is mutually exclusive with -c/-d/-D/-u" 1
    if showsAll && g.has 'c' then
      return ← usage self "printing all duplicated lines and repeat counts is meaningless" 1
    let path := g.operands.headD "-"
    match ← readInput path with
    | .error fault =>
      complain self ((if fault = .isDirectory then "error reading " ++ quotedName path else named path) ++
        ": " ++ fault.wording)
      return 1
    | .ok content =>
      let stop := if g.has 'z' then '\x00' else '\n'
      let old := String.ofList (g.options.filterMap fun o => if o.1.isDigit then some o.1 else none)
      let key : LineKey := {
        fields := (natOf? ((g.value? 'f').getD old)).getD 0
        chars := ((g.value? 's').bind natOf?).getD 0
        most := (g.value? 'w').bind natOf?
        anyCase := g.has 'i' }
      let all := (linesFrom stop content.toList []).map fun line => (bare stop line).toList
      let rows := rowsOf key.part all
      let out :=
        if let some w := grouped then spaceRows ((wordOf? (gapWords true) w).getD .between) stop rows
        else if showsAll then
          let rows := rows.filter fun row => row.length > 1
          let rows := if g.has 'u' then rows.map List.dropLast else rows
          spaceRows ((repeated.bind (wordOf? (gapWords false))).getD .none) stop rows
        else
          let kept := rows.filter fun row =>
            !(g.has 'd' && row.length = 1) && !(g.has 'u' && row.length > 1)
          String.join (kept.map fun row =>
            (if g.has 'c' then padLeft 7 (toString row.length) ++ " " else "") ++
              String.ofList (row.headD []) ++ String.singleton stop)
      match g.operands.tail.head? with
      | some target =>
        if target = "-" then
          say out
          return 0
        match ← writeFile target out false with
        | none => return 0
        | some fault =>
          complain self (named target ++ ": " ++ fault.wording)
          return 1
      | none =>
        say out
        return 0

end ClassLens.Tool
