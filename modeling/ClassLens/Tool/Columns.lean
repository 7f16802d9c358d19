import ClassLens.Tool.Copying

/-! # Parts of lines

`cut`, `paste`, `fold` and `wc`: parts of lines, lines side by side, lines of a width, and how many of
all these there are. -/

namespace ClassLens.Tool

open Shell

/-! ### Parts of lines -/

/-- A row of positions from one on, which may be without an end. -/
abbrev Span := Nat × Option Nat

/-- What is known of a list of spans at some place of its text. -/
structure SpanReading where
  found : List Span := []
  /-- The start of the span that is read. -/
  start : Nat := 1
  /-- The number that is read. -/
  value : Nat := 0
  hasStart : Bool := false
  hasStop : Bool := false
  isRange : Bool := false

/-- How one speaks of the positions of a list: those of fields, or of bytes. -/
structure SpanWords where
  zero : String
  badRange : String
  badValue : String

def SpanWords.fields : SpanWords :=
  ⟨"fields are numbered from 1", "invalid field range", "invalid field value "⟩

def SpanWords.bytes : SpanWords :=
  ⟨"byte/character positions are numbered from 1", "invalid byte or character range",
    "invalid byte/character position "⟩

/-- The end of a span in a list. -/
def SpanReading.close (w : SpanWords) (r : SpanReading) : Except String SpanReading :=
  if r.isRange then
    if !r.hasStart && !r.hasStop then .error "invalid range with no endpoint: -"
    else if !r.hasStop then .ok { found := r.found ++ [(r.start, none)] }
    else if r.value < r.start then .error "invalid decreasing range"
    else .ok { found := r.found ++ [(r.start, some r.value)] }
  else if r.value = 0 then .error w.zero
  else .ok { found := r.found ++ [(r.value, some r.value)] }

/-- The spans of a list such as `1,3-5,7-`, or what is wrong with it. -/
def readSpans (w : SpanWords) : List Char → SpanReading → Except String (List Span)
  | [], r => (r.close w).map SpanReading.found
  | c :: cs, r =>
    if c == '-' then
      if r.isRange then .error w.badRange
      else if r.hasStart && r.value = 0 then .error w.zero
      else readSpans w cs { r with isRange := true, start := if r.hasStart then r.value else 1, value := 0 }
    else if c == ',' || c == ' ' || c == '\t' then
      match r.close w with
      | .ok r => readSpans w cs r
      | .error e => .error e
    else if c.isDigit then
      readSpans w cs { r with
        value := r.value * 10 + (c.toNat - 48)
        hasStart := r.hasStart || !r.isRange
        hasStop := r.hasStop || r.isRange }
    else .error (w.badValue ++ quoted (String.ofList (c :: cs)))

/-- Spans in order, with those that overlap made one. -/
def joinSpans (spans : List Span) : List Span :=
  let sorted := spans.mergeSort fun a b => a.1 ≤ b.1
  (sorted.foldl (fun (done : List Span) s =>
    match done with
    | last :: before =>
      if last.2.all (s.1 ≤ ·) then
        let stop := match last.2, s.2 with
          | some a, some b => some (max a b)
          | _, _ => none
        (last.1, stop) :: before
      else s :: done
    | [] => [s]) []).reverse

/-- The spans between spans that are in order. -/
def spansBetween : Nat → List Span → List Span
  | start, [] => [(start, none)]
  | start, (low, high) :: rest =>
    (if start < low then [(start, some (low - 1))] else []) ++
      match high with
      | some high => spansBetween (high + 1) rest
      | none => []

/-- Whether a position lies in spans. -/
def inSpans (spans : List Span) (n : Nat) : Bool :=
  spans.any fun s => s.1 ≤ n && s.2.all (n ≤ ·)

/-- The items at the positions of spans. -/
def pick {α : Type} (spans : List Span) (items : List α) : List α :=
  (items.zipIdx 1).filterMap fun (x, n) => if inSpans spans n then some x else none

/-- The characters at the positions of spans, with a text between those of one span and of the next. -/
def pickWith (spans : List Span) (joint : String) (items : List Char) : String :=
  (items.zipIdx 1).foldl (fun out (c, n) =>
    if inSpans spans n then
      (if out ≠ "" ∧ spans.any (fun s => s.1 == n) then out ++ joint else out) ++ String.singleton c
    else out) ""

/-- Writes parts of lines. -/
def cut : Tool := fun self args =>
  let o : Options := {
    flags := "nsz".toList ++ ['\x01']
    valued := ['b', 'c', 'f', 'd', '\x02']
    names := [("bytes", 'b'), ("characters", 'c'), ("fields", 'f'), ("delimiter", 'd'),
      ("only-delimited", 's'), ("complement", '\x01'), ("output-delimiter", '\x02'),
      ("zero-terminated", 'z')] }
  o.read self args 1 fun g => do
    let stop := if g.has 'z' then '\x00' else '\n'
    let isList (e : Char × String) : Bool := e.1 == 'b' || e.1 == 'c' || e.1 == 'f'
    let rec fault : List (Char × String) → Bool → Option String
      | [], seen => if seen then none else some "you must specify a list of bytes, characters, or fields"
      | e :: rest, seen =>
        if e.1 == 'd' && e.2.length > 1 then some "the delimiter must be a single character"
        else if isList e && seen then some "only one list may be specified"
        else fault rest (seen || isList e)
    let (kind, text) := (g.options.find? isList).getD ('f', "")
    let wrong := fault g.options false <|>
      (if kind == 'f' then none
        else if g.has 'd' then
          some "an input delimiter may be specified only when operating on fields"
        else if g.has 's' then
          some "suppressing non-delimited lines makes sense\n\tonly when operating on fields"
        else none)
    match wrong with
    | some e => usage self e 1
    | none =>
      match readSpans (if kind == 'f' then .fields else .bytes) text.toList {} with
      | .error e => usage self e 1
      | .ok spans =>
          let delimiter := (g.value? 'd').getD "\t"
          let spans := joinSpans spans
          let spans := if g.has '\x01' then spansBetween 1 spans else spans
          let sep := (delimiter.toList.head?).getD '\x00'
          let joint := (g.value? '\x02').getD (String.singleton sep)
          let joint := if joint = "" then "\x00" else joint
          let endLine := String.singleton stop
          let fieldsOf (line : List Char) : Option String :=
            if !line.contains sep then (if g.has 's' then none else some (String.ofList line))
            else
              let fields := (Text.splitOn sep line).map String.ofList
              some (joint.intercalate (pick spans fields))
          let part (line : String) : Option String :=
            if kind == 'f' then fieldsOf line.toList
            else
              let between := (g.value? '\x02').map fun j => if j = "" then "\x00" else j
              some (pickWith spans (between.getD "") line.toList)
          eachInput self g.operands fun content =>
            if kind == 'f' && sep == stop then
              let cs := (bare stop content).toList
              if content = "" then pure ()
              else if !cs.contains sep then say (if g.has 's' then "" else String.ofList cs ++ endLine)
              else say ((fieldsOf cs).getD "" ++ endLine)
            else
              let all := (linesFrom stop content.toList []).map (bare stop)
              say (String.join (all.filterMap fun line => (part line).map (· ++ endLine)))

/-- The delimiters of `paste`, with their escapes replaced; nothing where a backslash ends them. -/
def pasteDelimiters? : List Char → Option (List String)
  | '\\' :: c :: rest =>
    (pasteDelimiters? rest).map fun more => (match c with
      | 'b' => "\x08"
      | 'f' => "\x0c"
      | 'n' => "\n"
      | 'r' => "\r"
      | 't' => "\t"
      | 'v' => "\x0b"
      | '0' => ""
      | c => String.singleton c) :: more
  | ['\\'] => none
  | c :: rest => (pasteDelimiters? rest).map (String.singleton c :: ·)
  | [] => some []

/-- Items joined by delimiters in turn. -/
def joinInTurn (delimiters : List String) (items : List String) : String :=
  match items with
  | [] => ""
  | first :: rest =>
    let n := delimiters.length
    (rest.zipIdx).foldl (fun out (item, i) =>
      out ++ (if n = 0 then "" else (delimiters[i % n]?).getD "") ++ item) first

/-- Writes lines side by side. -/
def paste : Tool := fun self args =>
  let o : Options := {
    flags := ['s', 'z']
    valued := ['d']
    names := [("serial", 's'), ("delimiters", 'd'), ("zero-terminated", 'z')] }
  o.read self args 1 fun g => do
    let given := (g.value? 'd').getD "\t"
    let some delimiters := pasteDelimiters? (if given = "" then "\\0" else given).toList
      | complain self ("delimiter list ends with an unescaped backslash: " ++ given)
        return 1
    let stop := if g.has 'z' then '\x00' else '\n'
    let endLine := String.singleton stop
    let cutLines (content : String) : List String := (linesFrom stop content.toList []).map (bare stop)
    let paths := inputs g.operands
    let isStdin (p : String) : Bool := p == "-"
    let shared ← if paths.any isStdin then readAll 0 else pure ""
    let own ← paths.mapM fun path => do
      if isStdin path then return Except.ok (cutLines shared)
      return (← readInput path).map cutLines
    if g.has 's' then
      let statuses ← (paths.zip own).zipIdx.mapM fun ((path, rows), i) => do
        match rows with
        | .error fault =>
          if fault = .isDirectory then say endLine
          complain self (named path ++ ": " ++ fault.wording)
          return 1
        | .ok rows =>
          let isFirst := !isStdin path || !(paths.take i).any isStdin
          say (joinInTurn delimiters (if isFirst then rows else []) ++ endLine)
          return 0
      return if statuses.any (· ≠ 0) then 1 else 0
    else
      let fault (isDirectory : Bool) : Option String := (paths.zip own).findSome? fun (path, rows) =>
        match rows with
        | .error fault =>
          if (fault = .isDirectory) = isDirectory then some (named path ++ ": " ++ fault.wording) else none
        | .ok _ => none
      if let some message := fault false then
        complain self message
        return 1
      if let some message := fault true then complain self message
      let sharing := (paths.filter isStdin).length
      let place (i : Nat) : Nat := ((paths.take i).filter isStdin).length
      let columns : List (List String) := (paths.zip own).zipIdx.map fun ((path, rows), i) =>
        let rows := rows.toOption.getD []
        if isStdin path then
          rows.zipIdx.filterMap fun (row, k) => if k % sharing = place i then some row else none
        else rows
      let height := columns.foldl (fun n c => max n c.length) 0
      for k in List.range height do
        say (joinInTurn delimiters (columns.map fun column => (column[k]?).getD "") ++ endLine)
      return if (fault true).isSome then 1 else 0

/-- The column after a character. -/
def nextColumn (countsBytes : Bool) (column : Nat) (c : Char) : Nat :=
  if countsBytes then column + 1
  else if c == '\t' then column + 8 - column % 8
  else if c == '\x08' then column - 1
  else if c == '\r' then 0 else column + 1

/-- The column after some characters. -/
def columnAfter (countsBytes : Bool) (s : List Char) : Nat :=
  s.foldl (nextColumn countsBytes) 0

/-- What has been written of folded lines, the line that is open, from its end on, and its column. -/
structure Folding where
  done : List Char := []
  line : List Char := []
  column : Nat := 0

/-- Puts a character on a folded line, or on the next one where it does not fit. With `atBlanks` a line is
broken after its last blank if it has one. -/
def Folding.add (width : Nat) (atBlanks countsBytes : Bool) : Nat → Folding → Char → Folding
  | 0, f, _ => f
  | n + 1, f, c =>
    if c == '\n' then { done := c :: f.line ++ f.done }
    else
      let column := nextColumn countsBytes f.column c
      if column ≤ width then { f with line := c :: f.line, column }
      else
        let tail := f.line.takeWhile fun c => !(c == ' ' || c == '\t')
        if atBlanks && tail.length < f.line.length then
          let f : Folding := {
            done := '\n' :: f.line.drop tail.length ++ f.done
            line := tail
            column := columnAfter countsBytes tail.reverse }
          f.add width atBlanks countsBytes n c
        else if f.line.isEmpty then { f with line := [c], column }
        else
          let f : Folding := { done := '\n' :: f.line ++ f.done }
          f.add width atBlanks countsBytes n c

/-- Breaks lines that are too wide. -/
def fold : Tool := fun self args =>
  let o : Options := {
    flags := ['b', 's']
    valued := ['w']
    optional := "0123456789".toList
    names := [("width", 'w'), ("spaces", 's'), ("bytes", 'b')] }
  o.read self args 1 fun g => do
    let given := g.options.filterMap fun (letter, value) =>
      if letter == 'w' then some value
      else if letter.isDigit then some (String.singleton letter ++ value) else none
    match given.find? fun s => (natOf? s).getD 0 = 0 with
    | some bad =>
      complain self ("invalid number of columns: " ++ quoted bad ++
        (if (natOf? bad).isSome then ": Numerical result out of range" else ""))
      return 1
    | none =>
      let width := (given.getLast?.bind natOf?).getD 80
      eachInput self g.operands fun content => do
        let cs := content.toList
        let f := cs.foldl (fun f c => Folding.add width (g.has 's') (g.has 'b') (f.line.length + 3) f c)
          ({} : Folding)
        say (String.ofList (f.line ++ f.done).reverse)

/-! ### Counts -/

/-- How many lines, words, characters and bytes a text has, and how wide its widest line is. -/
def countsOf (text : String) : List Nat :=
  let cs := text.toList
  let isSpace (c : Char) : Bool := c == ' ' || (9 ≤ c.toNat && c.toNat ≤ 13)
  let words := (cs.foldl (fun (n, inWord) c =>
    if isSpace c then (n, false)
    else if isPrintable c then (if inWord then n else n + 1, true) else (n, inWord)) ((0, false) : Nat × Bool)).1
  let width (line : String) : Nat :=
    (line.toList.foldl (fun (most, column) c =>
      let column := if c == '\t' then column + 8 - column % 8
        else if c == '\r' || c == '\x0c' then 0
        else if 32 ≤ c.toNat && c.toNat < 127 then column + 1 else column
      (max most column, column)) ((0, 0) : Nat × Nat)).1
  [(cs.filter (· == '\n')).length, words, cs.length, cs.length,
    (lines text).foldl (fun n line => max n (width line)) 0]

/-- Counts lines, words and bytes. -/
def wc : Tool := fun self args =>
  let o : Options := {
    flags := "lwcmL".toList
    names := [("lines", 'l'), ("words", 'w'), ("bytes", 'c'), ("chars", 'm'), ("max-line-length", 'L')] }
  o.read self args 1 fun g => do
    let wanted := "lwmcL".toList.map fun c =>
      if g.options.isEmpty then c == 'l' || c == 'w' || c == 'c' else g.has c
    let paths := inputs g.operands
    let isPlain := paths.length = 1 && (wanted.filter id).length = 1
    let t ← files
    let w ← world
    let input ← channelOf 0
    let sizes := paths.filterMap fun path =>
      if path = "-" then
        match input.bind fun n => w.channels[n]? with
        | some (.file here ..) => some (some (contentAt w.files here).length)
        | _ => some none
      else
        match t.nodeOf? ⟨toBytes path⟩ with
        | some (.file content _) => some (some content.length)
        | some _ => some none
        | none => none
    let total := (sizes.filterMap id).foldl (· + ·) 0
    let firstFails := paths.head?.any fun path => path ≠ "-" ∧ (t.nodeOf? ⟨toBytes path⟩).isNone
    let least := if sizes.any Option.isNone then 7 else 1
    let width := if isPlain || firstFails then 1 else max least (toString total).length
    let row (counts : List Nat) (path : Option String) : String :=
      " ".intercalate ((counts.zip wanted).filterMap fun (n, shown) =>
        if shown then some (padLeft width (toString n)) else none) ++
      (match path with
        | some path => " " ++ path
        | none => "") ++ "\n"
    let rec go : List String → List Nat → Nat → Run (List Nat × Nat)
      | [], sums, status => return (sums, status)
      | path :: paths, sums, status => do
        let shown := if g.operands.isEmpty then none else some path
        match ← readInput path with
        | .ok content =>
          let counts := countsOf content
          say (row counts shown)
          let added := (sums.zip counts).zipIdx.map fun ((a, b), i) => if i = 4 then max a b else a + b
          go paths added status
        | .error fault =>
          complain self (named path ++ ": " ++ fault.wording)
          if fault = .isDirectory then say (row [0, 0, 0, 0, 0] shown)
          go paths sums 1
    let (sums, status) ← go paths [0, 0, 0, 0, 0] 0
    if paths.length > 1 then say (row sums (some "total"))
    return status

end ClassLens.Tool
