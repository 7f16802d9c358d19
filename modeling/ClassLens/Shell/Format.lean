import ClassLens.Shell.Floating
import ClassLens.Shell.Quoting

/-! # Formats

What `printf` writes, in the shell's own form and in that of the program of the same name, and the escapes
that `echo` knows.

* `unescape`: a text with its escapes replaced.
* `Format.run`: what a format writes for some arguments, and the faults that it meets. -/

namespace ClassLens.Shell

/-- Who formats: the shell, the program `printf`, or the program `echo`. They know different escapes and
word their faults in different ways. -/
inductive Formatter where
  | builtin
  | program
  | echo
  deriving DecidableEq

/-- The character of a one-letter escape. -/
def escapeChar? : Char → Option Char
  | 'n' => some '\n'
  | 't' => some '\t'
  | 'r' => some '\r'
  | 'a' => some '\x07'
  | 'b' => some '\x08'
  | 'f' => some '\x0c'
  | 'v' => some '\x0b'
  | 'e' => some '\x1b'
  | '\\' => some '\\'
  | _ => none

/-- The numbers with a point that one who formats reckons with. -/
def Formatter.precision : Formatter → Precision
  | .builtin => .double
  | _ => .extended

/-- What an escape stands for. -/
inductive Unescaped where
  /-- Some characters, and what follows the escape. -/
  | chars (cs rest : List Char)
  /-- The end of all output. -/
  | stop
  /-- Nothing: it is not well formed. -/
  | fault (message : String)

/-- A code point by its digits, where no character set but the plain one is at hand. -/
def codePoint (letter : Char) (width : Nat) (s : List Char) : Unescaped :=
  let hs := (s.take width).takeWhile isHex
  if hs.length < width then .fault "missing hexadecimal number in escape"
  else
    let n := digitValue 16 hs
    if (n ≤ 0x9F ∧ n ≠ 0x24 ∧ n ≠ 0x40 ∧ n ≠ 0x60) ∨ (0xD800 ≤ n ∧ n ≤ 0xDFFF) then
      .fault ("invalid universal character name \\" ++ String.singleton letter ++
        String.ofList (hs.map Char.toLower))
    else if n < 0x80 then .chars [Char.ofNat n] (s.drop width)
    else
      let upper := hs.map Char.toUpper
      let shown := if n < 0x10000 then 'u' :: upper.drop (width - 4)
        else 'U' :: upper
      .chars ('\\' :: shown) (s.drop width)

/-- What an escape stands for, `s` being what follows its backslash. In words, unlike formats, a zero may
stand before octal digits. -/
def escape (who : Formatter) (inWord : Bool) (s : List Char) : Unescaped :=
  match s with
  | [] => .chars ['\\'] []
  | c :: rest =>
    let ds := (s.take (if inWord && c == '0' then 4 else 3)).takeWhile isOctal
    if !ds.isEmpty then .chars [Char.ofNat (digitValue 8 ds % 256)] (s.drop ds.length)
    else if c == 'c' && (inWord || who != .builtin) then .stop
    else if c == '"' && who == .program then .chars ['"'] rest
    else if c == 'x' && who != .builtin then
      let hs := (rest.take 2).takeWhile isHex
      if !hs.isEmpty then .chars [Char.ofNat (digitValue 16 hs)] (rest.drop hs.length)
      else if who == .program then .fault "missing hexadecimal number in escape"
      else .chars ['\\', 'x'] rest
    else if c == 'u' && who == .program then codePoint 'u' 4 rest
    else if c == 'U' && who == .program then codePoint 'U' 8 rest
    else
      match escapeChar? c with
      | some d => .chars [d] rest
      | none => if who == .builtin then .chars ['\\'] s else .chars ['\\', c] rest

/-- How a text with escapes ends. -/
inductive TextEnd where
  | whole
  | stopped
  | faulty (message : String)

/-- A text with its escapes replaced, and how it ends. -/
def unescape (who : Formatter) : Nat → List Char → List Char × TextEnd
  | 0, _ => ([], .whole)
  | _ + 1, [] => ([], .whole)
  | n + 1, '\\' :: s =>
    match escape who true s with
    | .stop => ([], .stopped)
    | .fault e => ([], .faulty e)
    | .chars cs rest =>
      let (more, ended) := unescape who n rest
      (cs ++ more, ended)
  | n + 1, c :: s =>
    let (more, ended) := unescape who n s
    (c :: more, ended)

/-! ### Numbers -/

/-- A number as its digits in a base. -/
def inBase (base : Nat) (upper : Bool) (n : Nat) : String :=
  let s := String.ofList (Nat.toDigits base n)
  if upper then s.toUpper else s

/-! ### Directives -/

/-- A directive of a format. -/
structure Directive where
  left : Bool := false
  plus : Bool := false
  space : Bool := false
  hash : Bool := false
  zero : Bool := false
  width : Nat := 0
  precision : Option Nat := none

/-- The greatest width that is filled up, and the most places that are written. -/
def widest : Nat := 4194304

/-- A text filled up to the width of a directive. -/
def Directive.pad (d : Directive) (s : String) : String :=
  let gap := min d.width widest - s.length
  if d.left then s ++ String.ofList (List.replicate gap ' ')
  else String.ofList (List.replicate gap ' ') ++ s

/-- A number filled up to the width of a directive, with its sign before zeros. -/
def Directive.padNumber (d : Directive) (sign digits : String) (zeros : Bool) : String :=
  let body := sign ++ digits
  if zeros && d.zero && !d.left then
    sign ++ String.ofList (List.replicate (min d.width widest - body.length) '0') ++ digits
  else d.pad body

/-- What a format has done so far. -/
structure Printing where
  args : List String
  output : String := ""
  /-- What is told of arguments and of the format, each after so much of the output. -/
  messages : List (Nat × String) := []
  /-- Whether one of the messages tells of a fault. -/
  isFaulty : Bool := false
  /-- Whether nothing more is written. -/
  isOver : Bool := false
  /-- Whether a fault ended it. -/
  isBroken : Bool := false

/-- Writes. -/
def Printing.add (p : Printing) (s : String) : Printing := { p with output := p.output ++ s }

/-- Takes note of something that is no fault. -/
def Printing.mention (p : Printing) : Option String → Printing
  | some s => { p with messages := p.messages ++ [(p.output.length, s)] }
  | none => p

/-- Takes note of a fault. -/
def Printing.blame (p : Printing) : Option String → Printing
  | some s => { p with messages := p.messages ++ [(p.output.length, s)], isFaulty := true }
  | none => p

/-- Ends with a fault. -/
def Printing.fail (p : Printing) (s : String) : Printing :=
  { p.blame (some s) with isOver := true, isBroken := true }

/-- Ends without one; the program then forgets what went wrong before. -/
def Printing.stop (who : Formatter) (p : Printing) : Printing :=
  { p with isOver := true, isFaulty := p.isFaulty && who == .builtin }

/-- The next argument. -/
def Printing.next (p : Printing) : Option String × Printing :=
  (p.args.head?, { p with args := p.args.tail })

/-- What is wrong with an argument that is to be a number, `rest` being what follows the number in it. -/
def numberFault? (who : Formatter) (s : String) (rest : List Char) (isOut : Bool) : Option String :=
  let range := "Numerical result out of range"
  if who == .builtin then
    if !rest.isEmpty then
      some (s ++ (if rest = s.toList then ": expected numeric value" else ": not completely converted"))
    else if isOut then some (s ++ ": " ++ range) else none
  else
    let shown := quoted s
    if isOut then some (shown ++ ": " ++ range)
    else if !rest.isEmpty then
      some (shown ++ (if rest = s.toList then ": expected a numeric value"
        else ": value not completely converted"))
    else none

/-- The character that a quote at the start of an argument names, and what is told of further ones. -/
def namedChar? (who : Formatter) (s : String) : Option (Nat × Option String) :=
  match s.toList with
  | q :: cs =>
    if q == '\'' || q == '"' then
      match cs with
      | [] => if who == .builtin then some (0, none) else none
      | [c] => some (c.toNat, none)
      | c :: more =>
        some (c.toNat, if who == .builtin then none
          else some ("warning: " ++ String.ofList more ++
            ": character(s) following character constant have been ignored"))
    else none
  | [] => none

/-- The whole number that an argument is, without one zero. -/
def Printing.takeWhole (who : Formatter) (isSigned : Bool) (p : Printing) : Int × Printing :=
  match p.next with
  | (none, p) => (0, p)
  | (some s, p) =>
    match namedChar? who s with
    | some (n, warning) => (n, p.mention warning)
    | none =>
      let body := s.toList.dropWhile fun c => c == ' ' || (9 ≤ c.toNat && c.toNat ≤ 13)
      let (negative, ds) := match body with
        | '-' :: ds => (true, ds)
        | '+' :: ds => (false, ds)
        | ds => (false, ds)
      let (n, rest) := if ds.head?.any Char.isDigit then Arithmetic.wholeNumber ds else (0, s.toList)
      let limit : Int := Nat.pow 2 64 - 1
      let top : Int := if !isSigned then limit
        else if negative then Nat.pow 2 63 else Nat.pow 2 63 - 1
      let isOut := n > top
      let value := if isOut then (if negative && isSigned then -top else top)
        else if negative then -n else n
      (value, p.blame (numberFault? who s rest isOut))

/-- The number with a point that an argument is. -/
def Printing.takeReal (who : Formatter) (p : Printing) : Floating × Printing :=
  match p.next with
  | (none, p) => (.finite false 0 0, p)
  | (some s, p) =>
    match namedChar? who s with
    | some (n, warning) => (.finite false n 0, p.mention warning)
    | none =>
      let (x, rest, isOut) := Floating.read who.precision s.toList
      (x, p.blame (numberFault? who s rest isOut))

/-- Writes a whole number as a directive says. -/
def Directive.whole (d : Directive) (conversion : Char) (n : Int) : String :=
  let isSigned := conversion == 'd' || conversion == 'i'
  let magnitude := if isSigned then n.natAbs else (n % Int.ofNat (Nat.pow 2 64)).toNat
  let digits := match conversion with
    | 'o' => inBase 8 false magnitude
    | 'x' => inBase 16 false magnitude
    | 'X' => inBase 16 true magnitude
    | _ => toString magnitude
  let digits := if d.precision = some 0 ∧ magnitude = 0 then "" else digits
  let digits := String.ofList (List.replicate (d.precision.getD 0 - digits.length) '0') ++ digits
  let digits := if d.hash && conversion == 'o' && !digits.startsWith "0" then "0" ++ digits else digits
  let sign := if isSigned && n < 0 then "-" else if isSigned && d.plus then "+"
    else if isSigned && d.space then " "
    else if d.hash && magnitude ≠ 0 && conversion == 'x' then "0x"
    else if d.hash && magnitude ≠ 0 && conversion == 'X' then "0X" else ""
  d.padNumber sign digits d.precision.isNone

/-- Writes a number with a point as a directive says. -/
def Directive.real (d : Directive) (precision : Precision) (conversion : Char) (x : Floating) : String :=
  let sign (negative : Bool) : String := if negative then "-" else if d.plus then "+"
    else if d.space then " " else ""
  let cased (s : String) : String := if conversion.isUpper then s.toUpper else s
  match x with
  | .infinite negative => d.pad (sign negative ++ cased "inf")
  | .undefined negative => d.pad (sign negative ++ cased "nan")
  | .finite negative m e =>
    let places := d.precision.getD 6
    let (n, x) := Floating.decimalOf m e
    let digits := match conversion.toLower with
      | 'f' => Floating.withPoint d.hash (Floating.fixed n x places)
      | 'e' =>
        let (mantissa, x) := Floating.scientific n x places
        Floating.withPoint d.hash mantissa ++ Floating.exponentText 'e' x 2
      | 'a' => Floating.hexadecimal precision m e d.precision d.hash
      | _ => Floating.general n x places d.hash
    let (lead, digits) := if conversion.toLower == 'a' then ("0x", (digits.drop 2).toString) else ("", digits)
    d.padNumber (sign negative ++ cased lead) (cased digits) true

/-- The flags of a directive and what follows them. -/
def readFlags (d : Directive) : List Char → Directive × List Char
  | '-' :: s => readFlags { d with left := true } s
  | '+' :: s => readFlags { d with plus := true } s
  | ' ' :: s => readFlags { d with space := true } s
  | '#' :: s => readFlags { d with hash := true } s
  | '0' :: s => readFlags { d with zero := true } s
  | s => (d, s)

/-- A width or a precision, and what follows it; a star takes an argument. -/
def readMeasure (who : Formatter) (what : String) (p : Printing) (s : List Char) :
    Int × Printing × List Char :=
  match s with
  | '*' :: s =>
    let arg := p.args.headD ""
    let (n, p) := if p.isOver then (0, p) else p.takeWhole who true
    if who == .builtin then (Int.bmod n (Nat.pow 2 32), p, s)
    else if n > 2147483647 ∨ (n < -2147483648 ∧ what = "field width") then
      (0, p.fail ("invalid " ++ what ++ ": " ++ quoted arg), s)
    else (n, p, s)
  | s =>
    let ds := s.takeWhile Char.isDigit
    (digitValue 10 ds, p, s.drop ds.length)

/-- The conversions that a directive of the program may have with its flags. -/
def Directive.allows (d : Directive) (hasPrecision : Bool) (conversion : Char) : Bool :=
  "aAcdeEfFgGiosuxX".toList.contains conversion &&
    !(d.hash && "cdisu".toList.contains conversion) &&
    !(d.zero && "cs".toList.contains conversion) && !(hasPrecision && conversion == 'c')

/-- Writes an argument as a directive says; none where there is no such directive. -/
def Directive.write (who : Formatter) (d : Directive) (conversion : Char) (p : Printing) :
    Option Printing :=
  let cut (s : String) : String := match d.precision with
    | some n => (s.take n).toString
    | none => s
  if conversion == 's' then
    let (arg, p) := p.next
    some (p.add (d.pad (cut (arg.getD ""))))
  else if conversion == 'c' then
    let (arg, p) := p.next
    some (p.add (d.pad (String.singleton ((arg.getD "").toList.headD '\x00'))))
  else if conversion == 'b' then
    let (arg, p) := p.next
    let s := arg.getD ""
    let (cs, ended) := unescape who (s.length + 1) s.toList
    let p := p.add (d.pad (cut (String.ofList cs)))
    match ended with
    | .whole => some p
    | .stopped => some (p.stop who)
    | .faulty e => some (p.fail e)
  else if "diouxX".toList.contains conversion then
    let (n, p) := p.takeWhole who (conversion == 'd' || conversion == 'i')
    some (p.add (d.whole conversion n))
  else if "aAfeEgGF".toList.contains conversion then
    let (x, p) := p.takeReal who
    some (p.add (d.real who.precision conversion x))
  else none

/-- One pass over a format. -/
def formatOnce (who : Formatter) : Nat → List Char → Printing → Printing
  | 0, _, p => p
  | _ + 1, [], p => p
  | n + 1, '%' :: '%' :: s, p => formatOnce who n s (p.add "%")
  | n + 1, '%' :: s, p =>
    match who, s with
    | .program, 'b' :: after =>
      match Directive.write who {} 'b' p with
      | some p => if p.isOver then p else formatOnce who n after p
      | none => p
    | .program, 'q' :: after =>
      let (arg, p) := p.next
      formatOnce who n after (p.add ((arg.map (shellWord [])).getD ""))
    | _, _ =>
      let (d, rest) := readFlags {} s
      let (width, p, rest) := readMeasure who "field width" p rest
      let d := { d with width := width.natAbs, left := d.left || width < 0 }
      let hasPrecision := rest.head? == some '.'
      let (d, p, rest) := match rest with
        | '.' :: rest =>
          let (precision, p, rest) := readMeasure who "precision" p rest
          ({ d with precision := if precision < 0 then none else some (min precision.toNat widest) }, p, rest)
        | rest => (d, p, rest)
      if p.isOver then p
      else
        let rest := if who == .builtin then rest else rest.dropWhile "lhjzLt".toList.contains
        match rest with
        | c :: after =>
          let written := if who == .program && !d.allows hasPrecision c then none else d.write who c p
          match written with
          | some p => if p.isOver then p else formatOnce who n after p
          | none =>
            let shown := String.ofList ('%' :: s.take (s.length - after.length))
            p.fail (shown ++ (if who == .program then ": invalid conversion specification"
              else ": invalid directive"))
        | [] =>
          p.fail (if who == .program then String.ofList ('%' :: s) ++ ": invalid conversion specification"
            else "missing format character")
  | n + 1, '\\' :: s, p =>
    match escape who false s with
    | .stop => p.stop who
    | .fault e => p.fail e
    | .chars cs rest => formatOnce who n rest (p.add (String.ofList cs))
  | n + 1, c :: s, p => formatOnce who n s (p.add (String.singleton c))

/-- A format applied again until no arguments are left. -/
def formatAll (who : Formatter) (format : String) : Nat → Printing → Printing
  | 0, p => p
  | n + 1, p =>
    let q := formatOnce who (format.length + 1) format.toList p
    if q.isOver || q.args.isEmpty || q.args.length == p.args.length then q
    else formatAll who format n q

/-- What a format writes for some arguments. -/
def printFormat (who : Formatter) (format : String) (args : List String) : Printing :=
  formatAll who format (args.length + 1) { args }

end ClassLens.Shell
