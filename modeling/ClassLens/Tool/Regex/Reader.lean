import ClassLens.Tool.Regex

/-! # Reading regular expressions

The basic form of expressions, where a backslash makes operators of parentheses, braces and the signs of
alternatives and repetitions, and the extended one, where these are operators by themselves. Programs
differ in what they refuse.

* `Regex.Style`: a form of expressions.
* `Regex.parse`: an expression of a text, or what is wrong with it. -/

namespace ClassLens.Tool

open Shell (PatternItem)

namespace Regex

/-- A form of expressions. -/
structure Style where
  extended : Bool
  /-- Whether a repetition with nothing before it is refused where it stands for nothing else. -/
  refusesIdle : Bool := false
  /-- Whether a repetition of a repetition is refused. -/
  refusesDouble : Bool := false
  /-- Whether a closing parenthesis stands for itself where none was opened. -/
  closesFreely : Bool := false
  /-- Whether a brace stands for itself where no bounds follow. -/
  bracesFreely : Bool := false
  /-- Whether a set that looks like the name of a class is refused. -/
  refusesBareClass : Bool := true
  /-- Whether lines are looked at one by one in a text of many. -/
  byLine : Bool := false
  /-- Whether a repetition may follow a place that is no character, as the start of a word, and whether bounds
  with nothing before them are passed over as a whole. -/
  repeatsPlaces : Bool := false

/-- The basic form, as most programs read it. -/
def basic : Style := { extended := false, refusesDouble := true }

/-- The basic form of a program that searches. -/
def basicSearch : Style := { extended := false }

/-- The extended form. -/
def extended : Style := { extended := true, refusesIdle := true }

/-- The extended form of a program that searches. -/
def extendedSearch : Style := { extended := true, closesFreely := true, bracesFreely := true }

/-- A sign of an expression. -/
inductive Sign where
  | finish
  | char (c : Char)
  | item (i : PatternItem)
  | either
  | opening
  | closing
  | times (least : Nat) (most : Option Nat)
  | openBound
  | closeBound
  | set
  | anchor (r : Regex)
  | again (n : Nat)
  | slash

/-- A class of characters that is named by a letter. -/
def letterClass? (c : Char) : Option PatternItem :=
  match c with
  | 'w' => some (.among false [('_', '_')] ["alnum"])
  | 'W' => some (.among true [('_', '_')] ["alnum"])
  | 's' => some (.among false [] ["space"])
  | 'S' => some (.among true [] ["space"])
  | _ => none

/-- A character, but for a line break where lines are looked at one by one. -/
def anyItem (x : Style) : PatternItem :=
  if x.byLine then .among true [('\n', '\n')] [] else .any

/-- The sign that a backslash and a character make. -/
def escapedSign (x : Style) (c : Char) : Sign :=
  match c with
  | '<' => .anchor wordStart
  | '>' => .anchor wordEnd
  | 'b' => .anchor (wordEdge true)
  | 'B' => .anchor (wordEdge false)
  | '`' => .anchor lineStart
  | '\'' => .anchor lineEnd
  | c =>
    match letterClass? c with
    | some i => .item i
    | none =>
      if '1' ≤ c ∧ c ≤ '9' then .again (c.toNat - 48)
      else if x.extended then .char c
      else
        match c with
        | '|' => .either
        | '(' => .opening
        | ')' => .closing
        | '+' => .times 1 none
        | '?' => .times 0 (some 1)
        | '\x7b' => .openBound
        | '\x7d' => .closeBound
        | c => .char c

/-- The sign at the start of a text, but for a dollar sign, and what follows it; `opens` tells whether a
caret stands for the start of a line here. -/
def plainSign (x : Style) (opens : Bool) (s : List Char) : Sign × List Char :=
  match s with
  | [] => (.finish, [])
  | ['\\'] => (.slash, [])
  | '\\' :: c :: s => (escapedSign x c, s)
  | c :: s =>
    let sign : Sign := match c with
      | '*' => .times 0 none
      | '[' => .set
      | '.' => .item (anyItem x)
      | '^' => if x.extended || opens then .anchor (if x.byLine then rowStart else lineStart) else .char c
      | c =>
        if !x.extended then .char c
        else
          match c with
          | '|' => .either
          | '(' => .opening
          | ')' => .closing
          | '+' => .times 1 none
          | '?' => .times 0 (some 1)
          | '\x7b' => .openBound
          | '\x7d' => .closeBound
          | c => .char c
    (sign, s)

/-- The sign at the start of a text, and what follows it. -/
def signOf (x : Style) (opens : Bool) (s : List Char) : Sign × List Char :=
  match s with
  | '$' :: rest =>
    let closes := match (plainSign x false rest).1 with
      | .finish => rest.isEmpty
      | .either | .closing => true
      | _ => false
    (if x.extended || closes then .anchor (if x.byLine then rowEnd else lineEnd) else .char '$', rest)
  | s => plainSign x opens s

/-- Where a reader stands: at a sign, before the rest of the text. -/
structure Cursor where
  sign : Sign
  rest : List Char
  /-- How many groups were opened, and those that were closed. -/
  groups : Nat := 0
  closed : List Nat := []

/-- Goes on to the next sign. -/
def Cursor.next (x : Style) (opens : Bool) (c : Cursor) : Cursor :=
  let (sign, rest) := signOf x opens c.rest
  { c with sign, rest }

/-! ### Sets -/

/-- The number of a class name's characters at most. -/
def longestName : Nat := 32

/-- A name in a set between a pair of signs, and what follows it. -/
def setName (delim : Char) : Nat → List Char → List Char → Except String (List Char × List Char)
  | 0, _, _ => .error "Unmatched [, [^, [:, [., or [="
  | n + 1, found, s =>
    match s with
    | c :: d :: rest =>
      if c == delim && d == ']' then .ok (found.reverse, rest) else setName delim n (c :: found) (d :: rest)
    | _ => .error "Unmatched [, [^, [:, [., or [="

/-- An element of a set. -/
inductive Element where
  | char (c : Char)
  | named (name : String)
  | alike (c : Char)

/-- The classes of characters by their names. -/
def classNames : List String :=
  ["alpha", "digit", "alnum", "upper", "lower", "space", "blank", "punct", "cntrl", "print", "graph",
    "xdigit"]

/-- An element at the start of a text, and what follows it. -/
def element (mayDash : Bool) (s : List Char) : Except String (Element × List Char) :=
  match s with
  | '[' :: ':' :: s =>
    match setName ':' longestName [] s with
    | .ok (name, s) =>
      let name := String.ofList name
      if classNames.contains name then .ok (.named name, s) else .error "Invalid character class name"
    | .error e => .error e
  | '[' :: '=' :: s =>
    match setName '=' longestName [] s with
    | .ok ([c], s) => .ok (.alike c, s)
    | .ok _ => .error "Invalid collation character"
    | .error e => .error e
  | '[' :: '.' :: s =>
    match setName '.' longestName [] s with
    | .ok ([c], s) => .ok (.char c, s)
    | .ok _ => .error "Invalid collation character"
    | .error e => .error e
  | '-' :: '-' :: '-' :: s => .ok (.char '-', s)
  | '-' :: s =>
    if mayDash || s.head? == some ']' then .ok (.char '-', s) else .error "Invalid range end"
  | c :: s => .ok (.char c, s)
  | [] => .error "Unmatched [, [^, [:, [., or [="

/-- The elements of a set up to its closing bracket. -/
def elements : Nat → Bool → List (Char × Char) → List String → List Char →
    Except String (List (Char × Char) × List String × List Char)
  | 0, _, _, _, _ => .error "Unmatched [, [^, [:, [., or [="
  | n + 1, isFirst, ranges, classes, s =>
    let finish (ranges : List (Char × Char)) (classes : List String) (s : List Char) :
        Except String (List (Char × Char) × List String × List Char) :=
      match s with
      | [] => .error "Unmatched [, [^, [:, [., or [="
      | ']' :: s => .ok (ranges, classes, s)
      | s => elements n false ranges classes s
    match element isFirst s with
    | .error e => .error e
    | .ok (.named name, s) => finish ranges (classes ++ [name]) s
    | .ok (.alike c, s) => finish (ranges ++ [(c, c)]) classes s
    | .ok (.char a, s) =>
      let single : Except String (List (Char × Char) × List String × List Char) :=
        finish (ranges ++ [(a, a)]) classes s
      match s with
      | '-' :: '-' :: '-' :: _ => single
      | '-' :: ']' :: _ => single
      | '-' :: [] => .error "Unmatched [, [^, [:, [., or [="
      | '-' :: s =>
        match element true s with
        | .error e => .error e
        | .ok (.char b, s) =>
          if b < a then .error "Invalid range end" else finish (ranges ++ [(a, b)]) classes s
        | .ok _ => .error "Invalid range end"
      | _ => single

/-- What is wrong with a set that looks like the name of a class. -/
def bareClassFault : String := "character class syntax is [[:space:]], not [:space:]"

/-- Whether the inside of a set, all of it single characters, looks like the name of a class. -/
def isBareClass (ranges : List (Char × Char)) (classes : List String) : Bool :=
  classes.isEmpty && ranges.all (fun r => r.1 == r.2) && ranges.any (fun r => r.1 != ':') &&
    ranges.head?.any (fun r => r.1 == ':') && ranges.getLast?.any fun r => r.1 == ':'

/-- The set after an opening bracket. -/
def set? (x : Style) (s : List Char) : Except String (PatternItem × List Char) :=
  let (negated, inner) := match s with
    | '^' :: s => (true, s)
    | s => (false, s)
  if inner.isEmpty then .error "Invalid regular expression"
  else
    match elements (inner.length + 1) true [] [] inner with
    | .ok (ranges, classes, rest) =>
      if x.refusesBareClass && isBareClass ranges classes then .error bareClassFault
      else
        let ranges := if negated && x.byLine then ranges ++ [('\n', '\n')] else ranges
        .ok (.among negated ranges classes, rest)
    | .error e => .error e

/-! ### Bounds -/

/-- What comes of reading bounds. -/
inductive Bounds where
  | found (least : Nat) (most : Option Nat) (c : Cursor)
  /-- What follows is no pair of bounds. -/
  | none
  | refused (message : String)

/-- The greatest number that may be a bound. -/
def greatestBound : Nat := 32767

/-- A number up to a comma or a closing brace: none if there is none, `bad` if it is none. -/
def boundNumber (x : Style) : Nat → Option Nat → Bool → Cursor → Option Nat × Bool × Cursor
  | 0, n, bad, c => (n, bad, c)
  | fuel + 1, n, bad, c =>
    let c := c.next x false
    match c.sign with
    | .finish => (n, true, c)
    | .closeBound => (n, bad, c)
    | .char ',' => (n, bad, c)
    | .char d =>
      if d.isDigit && !bad then
        boundNumber x fuel (some (min (greatestBound + 1) (n.getD 0 * 10 + (d.toNat - 48)))) false c
      else boundNumber x fuel n true c
    | _ => boundNumber x fuel n true c

/-- The bounds after an opening brace. -/
def bounds (x : Style) (c : Cursor) : Bounds :=
  let fuel := c.rest.length + 1
  let (low, bad, c) := boundNumber x fuel none false c
  let isComma (c : Cursor) : Bool := match c.sign with
    | .char ',' => true
    | _ => false
  let isClosed (c : Cursor) : Bool := match c.sign with
    | .closeBound => true
    | _ => false
  let invalid (c : Cursor) : Bounds :=
    if x.bracesFreely then .none
    else .refused (match c.sign with
      | .finish => "Unmatched \\\x7b"
      | _ => "Invalid content of \\\x7b\\\x7d")
  if !bad && low.isNone && !isComma c then .refused "Invalid content of \\\x7b\\\x7d"
  else if bad then invalid c
  else
    let low := low.getD 0
    let (high, bad, c) := if isClosed c then (some low, false, c)
      else if isComma c then boundNumber x fuel none false c
      else (none, true, c)
    if bad then invalid c
    else if !isClosed c || high.any (· < low) then .refused "Invalid content of \\\x7b\\\x7d"
    else if greatestBound < high.getD low then .refused "Regular expression too big"
    else .found low high c

/-! ### Expressions -/

/-- Whether an expression stands for a place only, or for places one after the other. -/
def isPlace : Regex → Bool
  | lineStart | lineEnd | rowStart | rowEnd | wordEdge _ | wordStart | wordEnd => true
  | seq a b => isPlace a && isPlace b
  | _ => false

/-- Whether nothing but places stands before a part. -/
def isIdle : Regex → Bool
  | nothing => true
  | r => isPlace r

mutual

/-- Alternatives; `nest` tells how many groups are open. What stands in one of them is not known to the
others. -/
def readEither (x : Style) (fuel nest : Nat) (known : List Nat) (c : Cursor) :
    Except String (Regex × Cursor) :=
  match fuel with
  | 0 => .error "Regular expression too big"
  | fuel + 1 =>
    match readBranch x fuel nest nothing { c with closed := known } with
    | .error e => .error e
    | .ok (first, c) =>
      match c.sign with
      | .either =>
        match readEither x fuel nest known (c.next x true) with
        | .ok (second, d) => .ok (either first second, { d with closed := c.closed ++ d.closed })
        | .error e => .error e
      | _ => .ok (first, c)

/-- A row of parts after those that were read before. -/
def readBranch (x : Style) (fuel nest : Nat) (before : Regex) (c : Cursor) :
    Except String (Regex × Cursor) :=
  match fuel with
  | 0 => .error "Regular expression too big"
  | fuel + 1 =>
    let append (r : Regex) : Regex := match before with
      | nothing => r
      | before => seq before r
    let more : Except String (Regex × Cursor) :=
      match readPart x fuel nest c with
      | .error e => .error e
      | .ok (r, c) =>
        if x.repeatsPlaces && isPlace r && (x.extended || !isIdle before) then
          match readTimes x fuel r c with
          | .error e => .error e
          | .ok (r, c) => readBranch x fuel nest (append r) c
        else readBranch x fuel nest (append r) c
    match c.sign with
    | .finish | .either => .ok (before, c)
    | .closing => if nest > 0 then .ok (before, c) else more
    | _ => more

/-- A part with its repetitions. -/
def readPart (x : Style) (fuel nest : Nat) (c : Cursor) : Except String (Regex × Cursor) :=
  match fuel with
  | 0 => .error "Regular expression too big"
  | fuel + 1 =>
    let plain (d : Char) : Except String (Regex × Cursor) :=
      readTimes x fuel (one (.one d)) (c.next x false)
    let idle (d : Char) : Except String (Regex × Cursor) :=
      if x.refusesIdle then .error "Invalid preceding regular expression"
      else if x.extended then readPart x fuel nest (c.next x false)
      else plain d
    match c.sign with
    | .finish | .either => .ok (nothing, c)
    | .slash => .error "Trailing backslash"
    | .char d => plain d
    | .item i => readTimes x fuel (one i) (c.next x false)
    | .set =>
      match set? x c.rest with
      | .error e => .error e
      | .ok (i, rest) => readTimes x fuel (one i) ({ c with rest }.next x false)
    | .opening =>
      let n := c.groups + 1
      let inner := { c with groups := n }.next x true
      match inner.sign with
      | .closing =>
        readTimes x fuel (group n nothing) ({ inner with closed := n :: inner.closed }.next x false)
      | _ =>
        match readEither x fuel (nest + 1) inner.closed inner with
        | .error e => .error e
        | .ok (body, c) =>
          match c.sign with
          | .closing =>
            readTimes x fuel (group n body) ({ c with closed := n :: c.closed }.next x false)
          | _ => .error "Unmatched ( or \\("
    | .again n =>
      if c.closed.contains n then readTimes x fuel (Regex.again n) (c.next x false)
      else .error "Invalid back reference"
    | .anchor r => .ok (r, c.next x false)
    | .closing =>
      if x.closesFreely then plain ')' else .error "Unmatched ) or \\)"
    | .closeBound => plain '\x7d'
    | .openBound =>
      if x.refusesDouble then .error "Invalid preceding regular expression"
      else if x.extended && x.repeatsPlaces then
        match bounds x c with
        | .found _ _ c => readPart x fuel nest (c.next x false)
        | _ => plain '\x7b'
      else idle '\x7b'
    | .times least most =>
      idle (if least = 1 then '+' else if most.isSome then '?' else '*')

/-- A part with the repetitions that follow it. -/
def readTimes (x : Style) (fuel : Nat) (r : Regex) (c : Cursor) : Except String (Regex × Cursor) :=
  match fuel with
  | 0 => .error "Regular expression too big"
  | fuel + 1 =>
    let again (r : Regex) (c : Cursor) : Except String (Regex × Cursor) :=
      match x.refusesDouble, c.sign with
      | true, .times 0 none | true, .openBound => .error "Invalid preceding regular expression"
      | _, _ => readTimes x fuel r c
    match c.sign with
    | .times least most => again (many least most r) (c.next x false)
    | .openBound =>
      match bounds x c with
      | .found least most c => again (many least most r) (c.next x false)
      | .none => .ok (r, { c with sign := .char '\x7b' })
      | .refused message => .error message
    | _ => .ok (r, c)

end

/-- The expression of a text, and how many groups it has. -/
def parse (x : Style) (text : List Char) : Except String (Regex × Nat) :=
  let (sign, rest) := signOf x true text
  match readEither x (8 * text.length + 16) 0 [] { sign, rest } with
  | .ok (r, c) => .ok (r, c.groups)
  | .error e => .error e

end Regex

end ClassLens.Tool
