import ClassLens.Shell.Floating
import ClassLens.Tool.Basic
import ClassLens.Tool.Regex.Reader

/-! # The layout of lines

* `nl` numbers the lines of pages; a page has a header, a body and a footer, each after a line that says so.
* `expand` writes tabs as blanks, `unexpand` writes blanks as tabs.
* `fmt` puts words into lines so that all lines of a paragraph together cost least. A line costs more the
  farther it is from the width that is aimed at, and ends of sentences are good places for a break.
  `Paragraph.breaks` is where the lines of least cost break, `Filling.run` the text with its paragraphs filled. -/

namespace ClassLens.Tool

open Shell

/-! ## Numbered lines -/

/-- Which lines get a number. -/
inductive NumberingStyle where
  | all
  | filled
  | none
  /-- Lines in which a pattern is found. -/
  | found (pattern : Regex)

/-- The style that a text says. -/
def NumberingStyle.read (s : String) : Option (Except String NumberingStyle) :=
  match s.toList with
  | ['a'] => some (.ok .all)
  | ['t'] => some (.ok .filled)
  | ['n'] => some (.ok .none)
  | 'p' :: pattern => some ((Regex.parse Regex.basicSearch pattern).map fun r => .found r.1)
  | _ => Option.none

/-- A section of a page. -/
inductive Section where
  | header
  | body
  | footer

/-- How lines are numbered. -/
structure Numbering where
  header : NumberingStyle
  body : NumberingStyle
  footer : NumberingStyle
  start : Int
  increment : Int
  /-- How many empty lines count as one. -/
  joined : Nat
  restarts : Bool
  /-- The two signs that stand once, twice or thrice in a line that starts a section. -/
  mark : List Char
  number : Int → String
  /-- What stands before a line that has no number. -/
  empty : String

/-- Where the numbering stands. -/
structure NumberingState where
  next : Int
  part : Section := .body
  blanks : Nat := 0
  out : String := ""

/-- The section that a line starts. -/
def Numbering.section? (n : Numbering) (line : List Char) : Option Section :=
  if n.mark.isEmpty then none
  else if line == n.mark ++ n.mark ++ n.mark then some .header
  else if line == n.mark ++ n.mark then some .body
  else if line == n.mark then some .footer
  else none

/-- Takes a line. -/
def Numbering.step (n : Numbering) (s : NumberingState) (line : String) : NumberingState :=
  match n.section? line.toList with
  | some part =>
    { s with
      part
      next := if n.restarts then n.start else s.next
      out := s.out ++ "\n" }
  | none =>
    let style := match s.part with
      | .header => n.header
      | .body => n.body
      | .footer => n.footer
    let withNumber (s : NumberingState) : NumberingState :=
      { s with next := s.next + n.increment, out := s.out ++ n.number s.next ++ line ++ "\n" }
    let without (s : NumberingState) : NumberingState := { s with out := s.out ++ n.empty ++ line ++ "\n" }
    match style with
    | .all =>
      if n.joined > 1 then
        if line ≠ "" then withNumber { s with blanks := 0 }
        else if s.blanks + 1 = n.joined then withNumber { s with blanks := 0 }
        else without { s with blanks := s.blanks + 1 }
      else withNumber s
    | .filled => if line ≠ "" then withNumber s else without s
    | .none => without s
    | .found pattern =>
      if (pattern.find false line.toList 0).isSome then withNumber s else without s

/-- A whole number with its sign. -/
def intOf? (s : String) : Option Int :=
  match s.toList with
  | '-' :: cs => (natOf? (String.ofList cs)).map fun n => -(n : Int)
  | '+' :: cs => (natOf? (String.ofList cs)).map fun n => (n : Int)
  | _ => (natOf? s).map fun n => (n : Int)

/-- Numbers the lines of files. -/
def nl : Tool := fun self args =>
  let o : Options := {
    flags := ['p']
    valued := "bdfhilnsvw".toList
    names := [("header-numbering", 'h'), ("body-numbering", 'b'), ("footer-numbering", 'f'),
      ("starting-line-number", 'v'), ("line-increment", 'i'), ("no-renumber", 'p'),
      ("join-blank-lines", 'l'), ("number-separator", 's'), ("number-width", 'w'),
      ("number-format", 'n'), ("section-delimiter", 'd')] }
  o.read self args 1 fun g => do
    let style (letter : Char) (usual : String) : Option (Except String NumberingStyle) :=
      NumberingStyle.read ((g.value? letter).getD usual)
    let number (letter : Char) (usual : Int) (least : Int) : Option Int :=
      match g.value? letter with
      | some s => (intOf? s).filter (least ≤ ·)
      | none => some usual
    let wrong (o : Char × String) : Option (String × Bool) :=
      let bad (what : String) : Option (String × Bool) := some ("invalid " ++ what ++ ": " ++ quoted o.2, true)
      match o.1 with
      | 'h' | 'b' | 'f' =>
        let name := if o.1 == 'h' then "header" else if o.1 == 'b' then "body" else "footer"
        match NumberingStyle.read o.2 with
        | none => bad (name ++ " numbering style")
        | some (.error e) => some (e, false)
        | some (.ok _) => none
      | 'v' => if (intOf? o.2).isNone then some ("invalid starting line number: " ++ quoted o.2, false) else none
      | 'i' => if (intOf? o.2).isNone then some ("invalid line number increment: " ++ quoted o.2, false) else none
      | 'l' => if ((intOf? o.2).filter (1 ≤ ·)).isNone then
          some ("invalid line number of blank lines: " ++ quoted o.2, false) else none
      | 'w' => if ((intOf? o.2).filter (1 ≤ ·)).isNone then
          some ("invalid line number field width: " ++ quoted o.2 ++
            (if (intOf? o.2).isSome then ": Numerical result out of range" else ""), false) else none
      | 'n' => if ["ln", "rn", "rz"].contains o.2 then none else bad "line numbering format"
      | _ => none
    let fatal := g.options.findSome? fun o => (wrong o).filter fun w => !w.2
    let faults := g.options.filterMap wrong
    if let some (e, _) := fatal then
      for (e, isUse) in faults.takeWhile (·.2) do
        if isUse then complain self e
      complain self e
      return 1
    if !faults.isEmpty then
      for (e, _) in faults do complain self e
      tell ("Try '" ++ self ++ " --help' for more information.\n")
      return 1
    let width := ((number 'w' 6 1).getD 6).toNat
    let sep := (g.value? 's').getD "\t"
    let format := (g.value? 'n').getD "rn"
    let shown (n : Int) : String :=
      let s := toString n
      let gap := width - s.length
      (if format = "ln" then s ++ String.ofList (List.replicate gap ' ')
        else if format = "rz" then
          (if n < 0 then "-" else "") ++ String.ofList (List.replicate gap '0') ++ toString n.natAbs
        else padLeft width s) ++ sep
    let mark := match (g.value? 'd').map String.toList with
      | none => ['\\', ':']
      | some [c] => [c, ':']
      | some cs => cs
    let styleOf (letter : Char) (usual : String) : NumberingStyle :=
      match style letter usual with
      | some (.ok s) => s
      | _ => .none
    let n : Numbering := {
      header := styleOf 'h' "n"
      body := styleOf 'b' "t"
      footer := styleOf 'f' "n"
      start := (number 'v' 1 (-9223372036854775808)).getD 1
      increment := (number 'i' 1 (-9223372036854775808)).getD 1
      joined := ((number 'l' 1 1).getD 1).toNat
      restarts := !g.has 'p'
      mark
      number := shown
      empty := String.ofList (List.replicate (width + sep.length) ' ') }
    writeAll self g.operands true fun text => ((lines text).foldl n.step { next := n.start }).out

/-! ## Tabs and blanks -/

/-- Where tabs lead: to the listed columns, and after them to multiples of a size or on by a step. -/
structure TabStops where
  columns : List Nat := []
  size : Option Nat := none
  step : Option Nat := none

/-- What is wrong with a list of tab stops. -/
inductive TabFault where
  | zero
  | falling
  | letters (rest : String)
  | misplaced (mark : Char)
  | twoMarks

/-- What is said of a list of tab stops. -/
def TabFault.message : TabFault → String
  | .zero => "tab size cannot be 0"
  | .falling => "tab sizes must be ascending"
  | .letters rest => "tab size contains invalid character(s): " ++ quoted rest
  | .misplaced mark => quoted (String.singleton mark) ++ " specifier not at start of number: "
  | .twoMarks => "'/' specifier is mutually exclusive with '+'"

/-- Reads a list of tab stops. -/
def TabStops.read (given : TabStops) (text : List Char) : Except String TabStops := do
  let isSep (c : Char) : Bool := c == ',' || c == ' ' || c == '\t'
  let rec go : Nat → List Char → TabStops → Except String TabStops
    | 0, _, t => .ok t
    | n + 1, s, t =>
      match s with
      | [] => .ok t
      | c :: cs =>
        if isSep c then go n cs t
        else
          let (mark, s) := if c == '/' || c == '+' then (some c, cs) else (none, s)
          let ds := s.takeWhile Char.isDigit
          let rest := s.drop ds.length
          match rest with
          | d :: _ =>
            if isSep d then store ds mark t >>= go n rest
            else if (d == '/' || d == '+') && !ds.isEmpty then
              .error ((TabFault.misplaced d).message ++ quoted (String.ofList rest))
            else .error (TabFault.letters (String.ofList rest)).message
          | [] => store ds mark t >>= go n []
  go (text.length + 1) text given
where
  /-- Takes note of a number with its mark. -/
  store (ds : List Char) (mark : Option Char) (t : TabStops) : Except String TabStops :=
    if ds.isEmpty then .ok t
    else
      let value := digitValue 10 ds
      match mark with
      | some '/' =>
        if t.size.isSome then .error "'/' specifier only allowed with the last value"
        else .ok { t with size := some value }
      | some _ =>
        if t.step.isSome then .error "'+' specifier only allowed with the last value"
        else .ok { t with step := some value }
      | none => .ok { t with columns := t.columns ++ [value] }

/-- What is wrong with tab stops as a whole. -/
def TabStops.fault? (t : TabStops) : Option TabFault :=
  let rec go : Nat → List Nat → Option TabFault
    | _, [] => none
    | before, n :: ns => if n = 0 then some .zero else if n ≤ before then some .falling else go n ns
  go 0 t.columns <|> (if t.size.isSome && t.step.isSome then some .twoMarks else none)

/-- The column that a tab at a column leads to, if there is one. -/
def TabStops.next? (t : TabStops) (column : Nat) : Option Nat :=
  let every (n : Nat) : Nat := column + (n - column % n)
  match t.columns with
  | [] => some (every ((t.size.filter (· ≠ 0) <|> t.step.filter (· ≠ 0)).getD 8))
  | columns =>
    match columns, t.size, t.step with
    | [n], none, none => some (every n)
    | columns, size, step =>
      match columns.find? (column < ·) with
      | some stop => some stop
      | none =>
        match size.filter (· ≠ 0), step.filter (· ≠ 0) with
        | some n, _ => some (every n)
        | none, some n =>
          let last := columns.getLastD 0
          some (column + (n - (column - last) % n))
        | none, none => none

/-- Blanks for tabs. -/
def expandText (t : TabStops) (all : Bool) (text : List Char) : List Char :=
  (text.foldl (fun (out, column, isOn) c =>
    if c == '\n' then (c :: out, 0, true)
    else if !isOn then (c :: out, column, false)
    else if c == '\t' then
      match t.next? column with
      | some next => (List.replicate (next - column) ' ' ++ out, next, true)
      | none => (' ' :: out, column + 1, true)
    else
      let column := if c == '\x08' then column - 1 else column + 1
      (c :: out, column, all || c == ' ')) (([], 0, true) : List Char × Nat × Bool)).1.reverse

/-- Where `unexpand` stands in a line. -/
structure Unexpanding where
  out : List Char := []
  isOn : Bool := true
  column : Nat := 0
  /-- Blanks that may become a tab, from the last one on. -/
  pending : List Char := []
  /-- A single blank stands right before a tab stop. -/
  oneBefore : Bool := false
  wasBlank : Bool := true

/-- Takes a character. -/
def Unexpanding.step (t : TabStops) (all : Bool) (u : Unexpanding) (c : Char) : Unexpanding :=
  let setFirst (p : List Char) : List Char := p.dropLast ++ (if p.isEmpty then [] else ['\t'])
  let finish (u : Unexpanding) (c : Char) (isBlank : Bool) : Unexpanding :=
    let pending := if u.pending.length > 1 && u.oneBefore then setFirst u.pending else u.pending
    if c == '\n' then { out := c :: pending ++ u.out }
    else
      { u with
        out := c :: pending ++ u.out
        pending := []
        oneBefore := u.oneBefore && u.pending.isEmpty
        wasBlank := isBlank
        isOn := u.isOn && (all || isBlank) }
  if !u.isOn then (if c == '\n' then { out := c :: u.out } else { u with out := c :: u.out })
  else if c == ' ' || c == '\t' then
    match t.next? u.column with
    | none => finish { u with isOn := false } c true
    | some next =>
      if c == '\t' then
        let pending := setFirst u.pending
        let kept := if u.oneBefore then pending.drop (pending.length - 1) else []
        finish { u with column := next, pending := kept } c true
      else
        let column := u.column + 1
        if !(u.wasBlank && column = next) then
          { u with
            column
            oneBefore := u.oneBefore || column = next
            pending := c :: u.pending
            wasBlank := true }
        else
          let kept := if u.oneBefore then ['\t'] else []
          finish { u with column, pending := kept } '\t' true
  else if c == '\x08' then finish { u with column := u.column - 1 } c false
  else finish { u with column := u.column + 1 } c false

/-- Tabs for blanks. -/
def unexpandText (t : TabStops) (all : Bool) (text : List Char) : List Char :=
  let u := text.foldl (Unexpanding.step t all) ({} : Unexpanding)
  let pending := if u.pending.length > 1 && u.oneBefore then u.pending.dropLast ++ ['\t'] else u.pending
  (pending ++ u.out).reverse

/-- The tab stops that options give. -/
def tabStopsOf (g : Given) : Except String TabStops := do
  let old := String.join (g.options.filterMap fun o =>
    if o.1.isDigit || o.1 == ',' then some (String.singleton o.1 ++ o.2) else none)
  let t ← (g.values 't' ++ (if old = "" then [] else [old])).foldlM
    (fun t s => TabStops.read t s.toList) ({} : TabStops)
  match t.fault? with
  | some fault => throw fault.message
  | none => return t

/-- Goes through files with tab stops. -/
def eachWithTabs (self : String) (g : Given) (change : TabStops → List Char → List Char) : Run Nat := do
  match tabStopsOf g with
  | .error e =>
    complain self e
    return 1
  | .ok t =>
    writeAll self g.operands false fun content => String.ofList (change t content.toList)

/-- Writes tabs as blanks. -/
def expand : Tool := fun self args =>
  let o : Options := {
    flags := ['i', ',']
    valued := ['t']
    optional := "0123456789".toList
    names := [("initial", 'i'), ("tabs", 't')] }
  o.read self args 1 fun g => eachWithTabs self g fun t text => expandText t (!g.has 'i') text

/-- Writes blanks as tabs. -/
def unexpand : Tool := fun self args =>
  let o : Options := {
    flags := "a,0123456789".toList ++ ['\x01']
    valued := ['t']
    names := [("all", 'a'), ("first-only", '\x01'), ("tabs", 't')] }
  o.read self args 1 fun g =>
    let all := (g.has 'a' || g.has 't') && !g.has '\x01'
    eachWithTabs self g fun t text => unexpandText t all text

/-! ## Paragraphs -/

/-- A word of a paragraph. -/
structure Word where
  text : List Char
  /-- The blanks after it. -/
  space : Nat := 0
  /-- It starts with an opening bracket or quote. -/
  opens : Bool := false
  /-- It ends with a sign that ends sentences. -/
  period : Bool := false
  /-- It ends with a sign. -/
  punctuated : Bool := false
  /-- It ends a sentence. -/
  final : Bool := false
  deriving Inhabited

/-- A word with what its signs say. -/
def Word.ofText (text : List Char) : Word :=
  let last := text.getLastD ' '
  let closers := ")]'\"".toList
  let inner := (text.tail.reverse.dropWhile closers.contains).reverse
  let ends := inner.getLastD (text.headD ' ')
  { text
    opens := "(['`\"".toList.contains (text.headD ' ')
    period := ".?!".toList.contains ends
    punctuated := isPrintable last && !last.isAlphanum && last != ' ' }

/-- How a paragraph is filled. -/
structure Measure where
  /-- No line is as wide as this if it has more than one word. -/
  most : Nat := 75
  /-- The width that lines are to have. -/
  goal : Nat := 70
  /-- The blanks before the first line, and before the other ones. -/
  first : Nat := 0
  others : Nat := 0
  /-- The width of the line before the paragraph, if it is one of the same text. -/
  before : Nat := 0

/-- Where a line that starts with a word ends, how wide it then is, and what it and all lines after it
cost. -/
structure Break where
  next : Nat
  width : Int
  cost : Int
  deriving Inhabited

/-- The cost of a difference in width. -/
def raggedCost (n : Int) : Int := n * 10 * (n * 10) / 2

/-- What a line costs by the words around its start. -/
def startCost (words : Array Word) (i : Nat) : Int :=
  let word := words[i]!
  let cost : Int := 4900
  let cost :=
    if i = 0 then cost
    else
      let last := words[i - 1]!
      if last.period then (if last.final then cost - 2500 else cost + 360000)
      else if last.punctuated then cost - 1600
      else if i > 1 && words[i - 2]!.final then cost + 40000 / (last.text.length + 2 : Int)
      else cost
  if word.opens then cost - 1600
  else if word.final then cost + 22500 / (word.text.length + 2 : Int)
  else cost

/-- What a line costs by its width, `next` being the word after it. -/
def lineCost (m : Measure) (breaks : Array Break) (count next : Nat) (width : Int) : Int :=
  if next ≥ count then 0
  else
    let n : Int := m.goal - width
    let cost := n * 10 * (n * 10)
    let after := breaks[next]!
    if after.next < count then cost + raggedCost (width - after.width) else cost

/-- The best end of a line from the word `start` on, where words up to `next` are on it. -/
def bestEnd (m : Measure) (words : Array Word) (breaks : Array Break) (start : Nat) :
    Nat → Nat → Int → Break → Break
  | 0, _, _, best => best
  | n + 1, next, width, best =>
    let cost := lineCost m breaks words.size next width +
      (if next < words.size then breaks[next]!.cost else 0)
    let cost := if start = 0 && m.before > 0 then cost + raggedCost (width - m.before) else cost
    let best := if best.next = 0 || cost < best.cost then ⟨next, width, cost⟩ else best
    if next ≥ words.size then best
    else
      let width := width + words[next - 1]!.space + words[next]!.text.length
      if width < m.most then bestEnd m words breaks start n (next + 1) width best else best

/-- The breaks of least cost: for each word the end of a line that starts with it. -/
def paragraphBreaks (m : Measure) (words : Array Word) : Array Break :=
  let n := words.size
  (List.range n).reverse.foldl (fun breaks start =>
    let indent : Int := if start = 0 then m.first else m.others
    let width := indent + words[start]!.text.length
    let best := bestEnd m words breaks start (n + 1) (start + 1) width ⟨0, 0, 0⟩
    breaks.set! start { best with cost := best.cost + startCost words start })
    (Array.replicate n (default : Break))

/-! ### Reading -/

/-- How `fmt` works. -/
structure FillStyle where
  crown : Bool := false
  tagged : Bool := false
  split : Bool := false
  uniform : Bool := false
  most : Nat := 75
  goal : Nat := 70
  /-- What lines have to start with, without the blanks around it, those before it, and how long it is with
  those after it. -/
  lead : List Char := []
  leadBlanks : Nat := 0
  leadLength : Nat := 0

/-- Where `fmt` stands in a text. -/
structure Filling where
  /-- What is left to read, from the sign on that is looked at. -/
  rest : List Char
  /-- What has been written, from its end on. -/
  out : List Char := []
  /-- The column of the input. -/
  column : Nat := 0
  /-- The blanks before what lines start with, for the line that is read and for the paragraph. -/
  nextIndent : Nat := 0
  indent : Nat := 0
  /-- The columns of the first line of the paragraph and of the other ones. -/
  first : Nat := 0
  others : Nat := 0
  /-- Whether there has been a tab. -/
  tabs : Bool := false
  words : Array Word := #[]
  /-- The width of the last line that was written. -/
  lastWidth : Nat := 0
  /-- The column of the output. -/
  outColumn : Nat := 0

/-- How many characters and how many words a paragraph holds at a time. -/
def paragraphChars : Nat := 5000
def paragraphWords : Nat := 1000

namespace Filling

/-- Writes some characters. -/
def put (f : Filling) (s : List Char) : Filling := { f with out := s.reverse ++ f.out }

/-- Skips blanks of the input. -/
def skip (f : Filling) : Nat → Filling
  | 0 => f
  | n + 1 =>
    match f.rest with
    | ' ' :: rest => ({ f with rest, column := f.column + 1 } : Filling).skip n
    | '\t' :: rest => ({ f with rest, column := (f.column / 8 + 1) * 8, tabs := true } : Filling).skip n
    | _ => f

/-- Skips all blanks of the input. -/
def skipBlanks (f : Filling) : Filling := f.skip (f.rest.length + 1)

/-- Tabs up to a column. -/
def tabsTo (stop : Nat) : Nat → Nat → List Char
  | 0, _ => []
  | n + 1, column => if column < stop then '\t' :: tabsTo stop n ((column / 8 + 1) * 8) else []

/-- Writes blanks. -/
def putSpace (f : Filling) (space : Nat) : Filling :=
  let target := f.outColumn + space
  let stop := target / 8 * 8
  if f.tabs && f.outColumn + 1 < stop then
    let f := f.put (tabsTo stop (stop + 1) f.outColumn ++ List.replicate (target - stop) ' ')
    { f with outColumn := target }
  else { f.put (List.replicate space ' ') with outColumn := target }

/-- Reads the start of a line. -/
def readLead (style : FillStyle) (f : Filling) : Filling :=
  let f := { f with column := 0 }.skipBlanks
  if style.lead.isEmpty then { f with nextIndent := min style.leadBlanks f.column }
  else
    let rec go : List Char → Filling → Filling × Bool
      | [], f => (f, true)
      | c :: cs, f =>
        match f.rest with
        | d :: rest => if c == d then go cs { f with rest, column := f.column + 1 } else (f, false)
        | [] => (f, false)
    let (f, found) := go style.lead { f with nextIndent := f.column }
    if found then f.skipBlanks else f

/-- Whether the line that is read has words and starts as it has to. -/
def startsLine (style : FillStyle) (f : Filling) : Bool :=
  f.column ≥ f.nextIndent + style.leadLength && f.rest ≠ [] && f.rest.head? ≠ some '\n'

/-- Whether the line that is read goes on with the paragraph. -/
def continues (style : FillStyle) (f : Filling) : Bool :=
  f.nextIndent = f.indent && f.startsLine style

/-- Writes lines of the paragraph from a word on up to another one. -/
def putLines (style : FillStyle) (breaks : Array Break) (stop : Nat) : Nat → Nat → Filling → Filling
  | 0, _, f => f
  | n + 1, start, f =>
    if start ≥ stop && start ≠ 0 then f
    else
      let next := breaks[start]!.next
      let f := { f with outColumn := 0 }.putSpace f.indent
      let f := { f.put style.lead with outColumn := f.outColumn + style.lead.length }
      let f := f.putSpace ((if start = 0 then f.first else f.others) - f.outColumn)
      let rec go : List Word → Filling → Filling
        | [], f => f
        | [w], f => { f.put w.text with outColumn := f.outColumn + w.text.length }
        | w :: ws, f =>
          go ws ({ f.put w.text with outColumn := f.outColumn + w.text.length }.putSpace w.space)
      let f := go ((f.words.extract start next).toList) f
      let f := { f.put ['\n'] with lastWidth := f.outColumn }
      putLines style breaks stop n next f

/-- The breaks of the paragraph. -/
def breaks (style : FillStyle) (f : Filling) : Array Break :=
  paragraphBreaks {
    most := style.most
    goal := style.goal
    first := f.first
    others := f.others
    before := f.lastWidth } f.words

/-- Chooses the column of the other lines. -/
def setOthers (style : FillStyle) (same : Bool) (f : Filling) : Filling :=
  if style.split then { f with others := f.first }
  else if style.crown then { f with others := if same then f.column else f.first }
  else if style.tagged then
    if same && f.column ≠ f.first then { f with others := f.column }
    else if f.others = f.first then { f with others := if f.first = 0 then 3 else 0 }
    else f
  else { f with others := f.first }

/-- Writes the start of a paragraph that is too long to be held; the word that is being read stays. -/
def flush (style : FillStyle) (f : Filling) : Filling :=
  let f := f.setOthers style true
  let all := f.breaks style
  let count := f.words.size
  let most : Int := 9223372036854775807
  let rec go : Nat → Nat → Nat × Int → Nat
    | 0, _, best => best.1
    | n + 1, i, best =>
      if i ≥ count then best.1
      else
        let next := all[i]!.next
        let after : Int := if next < count then all[next]!.cost else 0
        let own := all[i]!.cost - after
        let best := if own < best.2 then (i, own) else best
        let best := if best.2 ≤ most - 9 then (best.1, best.2 + 9) else best
        go n next best
  let split := go (count + 1) (all[0]!.next) (count, most)
  let f := putLines style all split (count + 1) 0 f
  { f with words := f.words.extract split count }

/-- How many characters the words of the paragraph have. -/
def held (f : Filling) : Nat := f.words.foldl (fun n w => n + w.text.length) 0

/-- Reads a word. -/
def readWord (style : FillStyle) : Nat → Nat → List Char → Filling → List Char × Filling
  | 0, _, word, f => (word, f)
  | n + 1, size, word, f =>
    match f.rest with
    | [] => (word, f)
    | c :: rest =>
      let isSpace := c == ' ' || (9 ≤ c.toNat && c.toNat ≤ 13)
      if isSpace && !word.isEmpty then (word, f)
      else if size ≥ paragraphChars then
        if f.words.isEmpty then
          readWord style n 1 [c] { f.put word.reverse with rest }
        else
          let f := f.flush style
          readWord style n (f.held + word.length + 1) (c :: word) { f with rest }
      else readWord style n (size + 1) (c :: word) { f with rest }

/-- Reads the words of a line, and the start of the next one. -/
def readLine (style : FillStyle) : Nat → Filling → Filling
  | 0, f => f
  | n + 1, f =>
    let (text, f) := readWord style (f.rest.length + 1) f.held [] f
    let word := Word.ofText text.reverse
    let start := f.column + word.text.length
    let f := { f with column := start }.skipBlanks
    let space := f.column - start
    let ends := f.rest.isEmpty || f.rest.head? == some '\n'
    let final := f.rest.isEmpty || (word.period && (ends || space > 1))
    let space := if ends || style.uniform then (if final then 2 else 1) else space
    let isFull := f.words.size + 2 ≥ paragraphWords
    let word := { word with space, final }
    let f := if isFull then f.flush style else f
    let f := { f with words := f.words.push word }
    match f.rest with
    | [] => readLead style f
    | '\n' :: rest => readLead style { f with rest }
    | _ => readLine style n f

/-- Copies the rest of a line that belongs to no paragraph. -/
def copyRest (style : FillStyle) (f : Filling) : Filling :=
  let line := f.rest.takeWhile (· != '\n')
  let isEnd := f.rest.isEmpty
  let f := { f with outColumn := 0 }
  let f := if f.column > f.nextIndent || !line.isEmpty then
      let f := f.putSpace f.nextIndent
      let lead := style.lead.take (f.column - f.outColumn)
      let f := { f.put lead with outColumn := f.outColumn + lead.length }
      let f := if !line.isEmpty then f.putSpace (f.column - f.outColumn) else f
      if isEnd && f.column ≥ f.nextIndent + style.lead.length then f.put ['\n'] else f
    else f
  { f.put line with rest := f.rest.drop line.length }

/-- Copies lines that belong to no paragraph; whether one follows. -/
def copyLines (style : FillStyle) : Nat → Filling → Filling × Bool
  | 0, f => (f, false)
  | n + 1, f =>
    if f.startsLine style && f.nextIndent ≥ style.leadBlanks then (f, true)
    else
      let f := f.copyRest style
      match f.rest with
      | [] => (f, false)
      | _ :: rest => copyLines style n (readLead style { f.put ['\n'] with rest })

/-- Reads the lines of the paragraph that have the column of the other lines. -/
def readOthers (style : FillStyle) : Nat → Filling → Filling
  | 0, f => f
  | n + 1, f =>
    if f.continues style && f.column = f.others then
      readOthers style n (f.readLine style (f.rest.length + 1))
    else f

/-- Reads and writes a paragraph. -/
def paragraph (style : FillStyle) (f : Filling) : Filling :=
  let size := f.rest.length + 1
  let f := { f with indent := f.nextIndent, first := f.column, words := #[] }
  let f := f.readLine style size
  let f := f.setOthers style (f.continues style)
  let f :=
    if style.split then f
    else if style.crown then
      if f.continues style then (f.readLine style size).readOthers style size else f
    else if style.tagged then
      if f.continues style && f.column ≠ f.first then (f.readLine style size).readOthers style size else f
    else f.readOthers style size
  let last := f.words.size - 1
  let f := { f with words := f.words.modify last fun w => { w with period := true, final := true } }
  putLines style (f.breaks style) f.words.size (f.words.size + 1) 0 f

/-- Fills all paragraphs. -/
def paragraphs (style : FillStyle) : Nat → Filling → Filling
  | 0, f => f
  | n + 1, f =>
    let (f, found) := copyLines style (f.rest.length + 2) { f with lastWidth := 0 }
    if found then paragraphs style n (f.paragraph style) else f

/-- A text with its paragraphs filled. -/
def run (style : FillStyle) (text : List Char) : List Char :=
  let f := readLead style { rest := text }
  (paragraphs style (text.length + 1) f).out.reverse

end Filling

/-- Fills the paragraphs of files. -/
def fmt : Tool := fun self args =>
  let o : Options := {
    flags := "cstu".toList
    valued := ['w', 'p', 'g']
    names := [("crown-margin", 'c'), ("prefix", 'p'), ("split-only", 's'),
      ("tagged-paragraph", 't'), ("uniform-spacing", 'u'), ("width", 'w'), ("goal", 'g')] }
  let (old, args) : Option String × List String := match args with
    | arg :: rest =>
      match arg.toList with
      | '-' :: c :: cs => if c.isDigit then (some (String.ofList (c :: cs)), rest) else (none, args)
      | _ => (none, args)
    | [] => (none, [])
  o.read self args 1 fun g => do
    let width? (text : String) (most : Nat) : Except String Nat :=
      match natOf? (text.dropWhile fun c => c == ' ' || c == '\t').toString with
      | some n => if n ≤ most then .ok n else .error (quoted text ++ ": Numerical result out of range")
      | none => .error (quoted text)
    let measures : Except String (Nat × Nat) := do
      let most ← match g.value? 'w' <|> old with
        | some text => (width? text 2500).map some
        | none => pure none
      match g.value? 'g' with
      | some text =>
        let goal ← width? text (most.getD 75)
        return (most.getD (goal + 10), goal)
      | none => return (most.getD 75, most.getD 75 * 187 / 200)
    match measures with
    | .error e =>
      complain self ("invalid width: " ++ e)
      return 1
    | .ok (most, goal) =>
      let given := ((g.value? 'p').getD "").toList
      let trimmed := given.dropWhile (· == ' ')
      let style : FillStyle := {
        crown := g.has 'c'
        tagged := g.has 't'
        split := g.has 's'
        uniform := g.has 'u'
        most
        goal
        lead := (trimmed.reverse.dropWhile (· == ' ')).reverse
        leadBlanks := given.length - trimmed.length
        leadLength := trimmed.length }
      let statuses ← (inputs g.operands).mapM fun path => do
        match ← readInput path with
        | .ok content =>
          say (String.ofList (Filling.run style content.toList))
          return 0
        | .error fault =>
          complain self (if fault = .isDirectory then "read error: " ++ fault.wording
            else "cannot open " ++ quotedName path ++ " for reading: " ++ fault.wording)
          return 1
      return if statuses.any (· ≠ 0) then 1 else 0

end ClassLens.Tool
