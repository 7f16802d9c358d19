import ClassLens.Shell.Format
import ClassLens.Table

/-! # Values of records

What the fields of records and the variables of a program hold: numbers, texts, and texts of an input that
count as numbers where they look like such.

* `Value.text`, `Value.number`: a value as a text and as a number.
* `Value.compare`: how two values compare.
* `formatText`: some values in a format.
* `Group`: values under keys, with the order in which they are gone through. -/

namespace ClassLens.Tool.Records

open Shell (Floating Directive)

/-- A value. -/
inductive Value where
  /-- What a variable holds that nothing was assigned to. -/
  | unset
  | number (n : Float)
  | text (s : String)
  /-- A text of an input, which counts as a number where it looks like one. -/
  | input (s : String)
  deriving Inhabited

/-! ### Numbers -/

/-- A number as its exact value. What no number comes of has the sign that the machine gives it. -/
def exactOf (n : Float) : Floating :=
  let bits := n.toBits.toNat
  let negative := bits / Nat.pow 2 63 = 1
  let exponent := bits / Nat.pow 2 52 % 2048
  let fraction := bits % Nat.pow 2 52
  if exponent = 2047 then (if fraction = 0 then .infinite negative else .undefined true)
  else if exponent = 0 then .finite negative fraction (-1074)
  else .finite negative (fraction + Nat.pow 2 52) ((exponent : Int) - 1075)

/-- The number that has an exact value. -/
def ofExact : Floating → Float
  | .finite negative m e =>
    let n := Float.scaleB (Float.ofNat m) e
    if negative then -n else n
  | .infinite negative => if negative then -1.0 / 0.0 else 1.0 / 0.0
  | .undefined negative => if negative then 0.0 / 0.0 else -(0.0 / 0.0)

/-- The whole part of a number; what is too great or no number at all is kept between bounds. -/
def wholePart (n : Float) : Int :=
  let most : Int := Nat.pow 2 63 - 1
  match exactOf n with
  | .finite negative m e =>
    let size : Nat := if 0 ≤ e then m * Nat.pow 2 e.toNat else m / Nat.pow 2 (-e).toNat
    if negative then max (-most - 1) (-(size : Int)) else min most size
  | .infinite negative => if negative then -most - 1 else most
  | .undefined _ => -most - 1

/-- Whether a number is whole, and which one it is. -/
def whole? (n : Float) : Option Int :=
  match exactOf n with
  | .finite negative m e =>
    if 0 ≤ e then
      let size := m * Nat.pow 2 e.toNat
      if size < Nat.pow 2 63 then some (if negative then -(size : Int) else size) else none
    else
      let unit := Nat.pow 2 (-e).toNat
      if m % unit = 0 then some (if negative then -((m / unit : Nat) : Int) else ((m / unit : Nat) : Int)) else none
  | _ => none

/-- The number at the start of a text, and what follows it. -/
def readNumber (s : List Char) : Float × List Char :=
  let (x, rest, _) := Floating.read .double s
  (ofExact x, rest)

/-- A character that may stand around a number. -/
def isSpace (c : Char) : Bool := c == ' ' || (9 ≤ c.toNat && c.toNat ≤ 13)

/-- The number that a text looks like. -/
def looksLike? (s : String) : Option Float :=
  let cs := ((s.toList.dropWhile isSpace).reverse.dropWhile isSpace).reverse
  let startsWell := match cs with
    | c :: _ => c.isDigit || c == '+' || c == '-' || c == '.'
    | [] => false
  let endsWell := match cs.getLast? with
    | some c => c.isDigit || c == '.'
    | none => false
  if !startsWell || !endsWell then none
  else
    let (n, rest) := readNumber cs
    if rest.isEmpty then some n else none

/-! ### Formats -/

/-- How values become texts: the formats of numbers that are not whole. -/
structure Formats where
  convert : String := "%.6g"
  output : String := "%.6g"

/-- A directive of a format, with its conversion and whether its width and its precision are arguments. -/
structure Piece where
  directive : Directive
  conversion : Char
  widthArgument : Bool
  precisionArgument : Bool
  /-- Whether a letter for a size stands before the conversion. -/
  sized : Bool

/-- The directive after a percent sign, and what follows it. -/
def readPiece (s : List Char) : Piece × List Char :=
  let (d, s) := Shell.readFlags {} s
  let measure (s : List Char) : Option Nat × Bool × List Char :=
    match s with
    | '*' :: s => (none, true, s)
    | s =>
      let ds := s.takeWhile Char.isDigit
      (Shell.plainNumber? (String.ofList ds), false, s.drop ds.length)
  let (width, widthArgument, s) := measure s
  let (precision, precisionArgument, s) := match s with
    | '.' :: s =>
      let (n, isArgument, s) := measure s
      (some (n.getD 0), isArgument, s)
    | s => (none, false, s)
  let (sized, s) := match s with
    | 'l' :: s | 'h' :: s => (true, s)
    | s => (false, s)
  let directive := { d with width := width.getD 0, precision }
  ({ directive, conversion := s.headD '\x00', widthArgument, precisionArgument, sized }, s.tail)

/-- A directive with a width and a precision that are arguments. -/
def Directive.withMeasures (d : Directive) (width precision : Option Int) : Directive :=
  let d := match width with
    | some n => { d with width := n.natAbs, left := d.left || n < 0 }
    | none => d
  match precision with
  | some n => { d with precision := if n < 0 then none else some n.toNat }
  | none => d

/-- A number as a directive says that has a format of its own. -/
def realText (d : Directive) (conversion : Char) (n : Float) : String :=
  d.real .double conversion (exactOf n)

/-- A number in a format for numbers. -/
def numberIn (format : String) (n : Float) : String :=
  let rec go : Nat → List Char → String
    | 0, _ => ""
    | _ + 1, [] => ""
    | k + 1, '%' :: '%' :: s => "%" ++ go k s
    | k + 1, '%' :: s =>
      let (p, rest) := readPiece s
      let shown :=
        if "eEfFgG".toList.contains p.conversion then realText p.directive p.conversion n
        else if "dioxXu".toList.contains p.conversion then p.directive.whole p.conversion (wholePart n)
        else ""
      shown ++ go k rest
    | k + 1, c :: s => String.singleton c ++ go k s
  go (format.length + 1) format.toList

/-- A number as a text; the first one that is too great for a whole number is taken for the greatest one. -/
def numberText (format : String) (n : Float) : String :=
  match whole? n with
  | some n => toString n
  | none =>
    match exactOf n with
    | .infinite negative => if negative then "-inf" else "inf"
    | .undefined negative => if negative then "-nan" else "nan"
    | .finite negative m e =>
      let isLimit := m = Nat.pow 2 52 ∧ e = 11
      if isLimit then (if negative then "-" else "") ++ toString (Nat.pow 2 63 - 1)
      else if format = "%.6g" then realText {} 'g' n else numberIn format n

namespace Value

/-- A value as a text, numbers in a format. -/
def textIn (format : String) : Value → String
  | unset => ""
  | number n => numberText format n
  | text s | input s => s

/-- A value as a number. -/
def toNumber : Value → Float
  | unset => 0
  | number n => n
  | text s | input s => (readNumber s.toList).1

/-- A value with what it looks like decided. -/
def decided : Value → Value
  | input s =>
    match looksLike? s with
    | some n => number n
    | none => text s
  | v => v

/-- Whether a value counts as true. -/
def holds (v : Value) : Bool :=
  match v.decided with
  | unset => false
  | number n => n != 0
  | text s | input s => s ≠ ""

/-- A truth as a value. -/
def ofBool (b : Bool) : Value := number (if b then 1 else 0)

/-- How two values compare: whether the first one is less, and whether they are the same. -/
def compare (format : String) (a b : Value) : Bool × Bool :=
  let numbers (m n : Float) : Bool × Bool := (m < n, m == n)
  match a.decided, b.decided with
  | number m, number n => numbers m n
  | number m, unset => numbers m 0
  | unset, number n => numbers 0 n
  | unset, unset => (false, true)
  | a, b =>
    let s := a.textIn format
    let t := b.textIn format
    (s < t, s == t)

end Value

/-- A fault of a program while it runs. -/
inductive RunFault where
  | fewArguments (who format : String)
  | badDirective (number : Nat) (who format : String)
  | negativeField (n : Int)

/-- How a fault is told. -/
def RunFault.message : RunFault → String
  | fewArguments who format => "not enough arguments passed to " ++ who ++ "(\"" ++ format ++ "\")"
  | badDirective n who format =>
    "improper conversion(number " ++ toString n ++ ") in " ++ who ++ "(\"" ++ format ++ "\")"
  | negativeField n => "negative field index $" ++ toString n

/-- Some values in a format, up to the first fault. -/
def formatText (who : String) (formats : Formats) (format : String) (args : List Value) :
    String × Option RunFault :=
  let rec go : Nat → Nat → List Value → List Char → List String → String × Option RunFault
    | 0, _, _, _, found => (String.join found.reverse, none)
    | _ + 1, _, _, [], found => (String.join found.reverse, none)
    | k + 1, count, args, '%' :: '%' :: s, found => go k count args s ("%" :: found)
    | k + 1, count, args, '%' :: s, found =>
      let (p, rest) := readPiece s
      let take (wanted : Bool) (args : List Value) : Option Int × List Value :=
        if wanted then (some (wholePart (args.headD .unset).toNumber), args.tail) else (none, args)
      let (width, args) := take p.widthArgument args
      let (precision, args) := take p.precisionArgument args
      let d := Directive.withMeasures p.directive width precision
      match args with
      | [] => (String.join found.reverse, some (.fewArguments who format))
      | v :: args =>
        let count := count + 1
        let add (s : String) : String × Option RunFault := go k count args rest (s :: found)
        let bad : String × Option RunFault := (String.join found.reverse, some (.badDirective count who format))
        match p.conversion with
        | 's' =>
          let s := v.textIn formats.convert
          if p.sized then bad
          else add (d.pad (match d.precision with
            | some n => (s.take n).toString
            | none => s))
        | 'c' =>
          if p.sized then bad
          else
            let asInput : Value := match v with
              | .text s => .input s
              | v => v
            let s := match asInput.decided with
              | .number n => String.singleton (Char.ofNat ((wholePart n) % 256).toNat)
              | v =>
                match (v.textIn formats.convert).toList with
                | c :: _ => String.singleton c
                | [] => "\x00"
            add (d.pad s)
        | c =>
          if "dioxXu".toList.contains c then add (d.whole c (wholePart v.toNumber))
          else if "eEfFgG".toList.contains c then add (realText d c v.toNumber)
          else bad
    | k + 1, count, args, c :: s, found => go k count args s (String.singleton c :: found)
  go (format.length + 1) 0 args format.toList []

/-! ### Groups -/

/-- A value under a key. A key that was used as a text has its place in a row of texts, and one that was used
as a number in a row of numbers; the marks tell how late it was used last. -/
structure Entry where
  value : Value := .unset
  code : Nat
  textMark : Option Nat := none
  numberMark : Option Nat := none

/-- Values under keys. -/
structure Group where
  entries : Table String Entry := .empty
  /-- How many rows there are, less one. -/
  rows : Nat := 63
  /-- Whether keys have been used as texts. -/
  hasTexts : Bool := false
  nextMark : Nat := 1

namespace Group

/-- The number of a key that is a text: its bytes are mixed one after the other. -/
def codeOf (key : String) : Nat :=
  key.toList.foldl (fun h c => (h ^^^ (c.toNat % 256)) * 16777619 % Nat.pow 2 32) 2166136261

/-- Whether a key is a number, and its row. -/
def rowOfNumber (g : Group) (n : Int) : Nat := (n % (g.rows + 1 : Nat)).toNat

/-- The keys in the order of their rows, those of a row from the latest one on. -/
def inRows (g : Group) (row : String × Entry → Option (Nat × Nat)) : List String :=
  let placed := g.entries.entries.filterMap fun e => (row e).map fun r => (r, e.1)
  (placed.mergeSort fun a b => a.1.1 < b.1.1 || (a.1.1 = b.1.1 && a.1.2 ≥ b.1.2)).map Prod.snd

/-- A group in which all keys have their places as texts. -/
def withTexts (g : Group) : Group :=
  if g.hasTexts then g
  else
    let keys := g.inRows fun (key, e) =>
      match e.textMark, e.numberMark with
      | none, some mark => (key.toInt?).map fun n => (g.rowOfNumber n, mark)
      | _, _ => none
    keys.foldl (fun g key =>
      { g with
        entries := g.entries.modify key fun e => { e with textMark := some g.nextMark }
        nextMark := g.nextMark + 1 }) { g with hasTexts := true }

/-- A group with room for one more key. -/
def grown (g : Group) : Group :=
  if g.entries.size > (g.rows + 1) * 2 then { g with rows := 2 * g.rows + 1 } else g

/-- Finds a key that is a text, or makes it. -/
def touchText (g : Group) (key : String) : Group :=
  let g := g.withTexts
  match g.entries.get? key with
  | some _ =>
    { g with
      entries := g.entries.modify key fun e => { e with textMark := some g.nextMark }
      nextMark := g.nextMark + 1 }
  | none =>
    let e : Entry := { code := codeOf key, textMark := some g.nextMark }
    ({ g with entries := g.entries.insert key e, nextMark := g.nextMark + 1 } : Group).grown

/-- Finds a key that is a number, or makes it. -/
def touchNumber (g : Group) (n : Int) : Group :=
  let key := toString n
  let mark (g : Group) : Group :=
    { g with
      entries := g.entries.modify key fun e => { e with numberMark := some g.nextMark }
      nextMark := g.nextMark + 1 }
  match g.entries.get? key with
  | some e => if e.numberMark.isSome then mark g else mark (g.touchText key)
  | none =>
    if g.hasTexts then mark (g.touchText key)
    else
      let e : Entry := { code := codeOf key, numberMark := some g.nextMark }
      ({ g with entries := g.entries.insert key e, nextMark := g.nextMark + 1 } : Group).grown

/-- The key that a value is, and the number that it is. -/
def keyOf (format : String) (v : Value) : String × Option Int :=
  match v with
  | .number n => (numberText format n, whole? n)
  | v => (v.textIn format, none)

/-- Finds a key or makes it. -/
def touch (g : Group) (key : String × Option Int) : Group :=
  match key.2 with
  | some n => g.touchNumber n
  | none => g.touchText key.1

/-- The value under a key. -/
def get (g : Group) (key : String) : Value := ((g.entries.get? key).map Entry.value).getD .unset

/-- Puts a value under a key that is there. -/
def put (g : Group) (key : String) (v : Value) : Group :=
  { g with entries := g.entries.modify key fun e => { e with value := v } }

/-- Takes a key out. -/
def erase (g : Group) (key : String) : Group :=
  let g := { g with entries := g.entries.erase key }
  if g.entries.size = 0 then {} else g

/-- The keys in the order in which they are gone through. -/
def keys (g : Group) : List String :=
  g.withTexts.inRows fun (_, e) => e.textMark.map fun mark => (e.code % (g.rows + 1), mark)

/-- Values under the numbers from one on. -/
def ofList (vs : List Value) : Group :=
  (vs.zipIdx 1).foldl (fun g (v, i) => (g.touchNumber i).put (toString i) v) {}

end Group

end ClassLens.Tool.Records
