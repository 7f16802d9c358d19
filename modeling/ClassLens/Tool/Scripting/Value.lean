import ClassLens.Tool.Records.Value

/-! # Values of scripts

What the variables of a script hold: texts, numbers, and references to what stands in the memory.

* `Value.toText`, `Value.toNumeric`, `Value.holds`: a value as a text, as a number, and as an answer.
* `Numeric`: whole numbers of 64 bits and numbers with a point. Whole numbers stay whole as long as they fit.
* `following`: the text after a text, as `az` stands before `ba`.
* `formatted`: values in a format. -/

namespace ClassLens.Tool.Scripting

open Shell (Floating Directive digitValue inBase)
open Records (exactOf ofExact isSpace)

/-! ## Values -/

/-- A number. -/
inductive Numeric where
  | whole (n : Int)
  | real (x : Float)
  deriving Inhabited

/-- A value. -/
inductive Value where
  | undefined
  | text (s : String)
  | number (n : Numeric)
  /-- References to what stands at a place in the memory. -/
  | cell (n : Nat)
  | list (n : Nat)
  | table (n : Nat)
  | code (n : Nat)
  /-- A regular expression with its flags. -/
  | pattern (flags source : String)
  | handle (name : String)
  /-- What the system says of a fault, by its number. -/
  | fault (number : Nat)
  deriving Inhabited

/-- What the system calls a fault by its number. -/
def faultWording : Nat → String
  | 0 => ""
  | 1 => "Operation not permitted"
  | 2 => "No such file or directory"
  | 3 => "No such process"
  | 9 => "Bad file descriptor"
  | 10 => "No child processes"
  | 13 => "Permission denied"
  | 17 => "File exists"
  | 20 => "Not a directory"
  | 21 => "Is a directory"
  | 22 => "Invalid argument"
  | 25 => "Inappropriate ioctl for device"
  | 32 => "Broken pipe"
  | 36 => "File name too long"
  | 39 => "Directory not empty"
  | 40 => "Too many levels of symbolic links"
  | n => "Unknown error " ++ toString n

namespace Numeric

/-- A number as one with a point. -/
def toFloat : Numeric → Float
  | whole n => Float.ofInt n
  | real x => x

/-- A whole number, or the nearest number with a point where it does not fit. -/
def ofInt (n : Int) : Numeric :=
  if -(Nat.pow 2 63 : Int) ≤ n ∧ n < Nat.pow 2 64 then whole n else real (Float.ofInt n)

/-- A number that is whole and small enough to be exact, as a whole one. -/
def settled : Numeric → Numeric
  | real x =>
    match Records.whole? x with
    | some n => if n.natAbs < Nat.pow 2 53 then whole n else real x
    | none => real x
  | n => n

/-- The whole part of a number, kept between the bounds of 64 bits. -/
def toInt : Numeric → Int
  | whole n => n
  | real x =>
    match exactOf x with
    | .finite negative m e =>
      let size : Nat := if 0 ≤ e then m * Nat.pow 2 e.toNat else m / Nat.pow 2 (-e).toNat
      if negative then max (-(Nat.pow 2 63 : Int)) (-(size : Int)) else min (Nat.pow 2 64 - 1 : Int) size
    | .infinite negative => if negative then -(Nat.pow 2 63 : Int) else (Nat.pow 2 64 - 1 : Int)
    | .undefined _ => 0

/-- A number with a point as a text: with at most fifteen digits. -/
def realText (x : Float) : String :=
  match exactOf x with
  | .infinite negative => if negative then "-Inf" else "Inf"
  | .undefined _ => "NaN"
  | .finite negative m e =>
    let (n, e) := Floating.decimalOf m e
    (if negative && m ≠ 0 then "-" else "") ++ Floating.general n e 15 false

/-- A number as a text. -/
def toText : Numeric → String
  | whole n => toString n
  | real x => realText x

/-- Whether a number is zero. -/
def isZero : Numeric → Bool
  | whole n => n == 0
  | real x => x == 0

/-- Computes with whole numbers if both numbers are whole, and with a point otherwise. -/
def operate (wholes : Int → Int → Int) (reals : Float → Float → Float) (a b : Numeric) : Numeric :=
  match a.settled, b.settled with
  | whole m, whole n => ofInt (wholes m n)
  | a, b => real (reals a.toFloat b.toFloat)

/-- The sum. -/
def add : Numeric → Numeric → Numeric := operate (· + ·) (· + ·)

/-- The difference. -/
def sub : Numeric → Numeric → Numeric := operate (· - ·) (· - ·)

/-- The product. -/
def mul : Numeric → Numeric → Numeric := operate (· * ·) (· * ·)

/-- The quotient of a number and one that is not zero. -/
def div (a b : Numeric) : Numeric :=
  match a.settled, b.settled with
  | whole m, whole n =>
    if n ≠ 0 ∧ m % n = 0 then ofInt (m / n) else real (Float.ofInt m / Float.ofInt n)
  | a, b => real (a.toFloat / b.toFloat)

/-- What a division of the whole parts leaves, with the sign of the second number, which is not zero. -/
def rem (a b : Numeric) : Numeric := ofInt (a.toInt.fmod b.toInt)

/-- How many bits a whole number takes. -/
def bitsOf (n : Int) : Nat := if n = 0 then 0 else Nat.log2 n.natAbs + 1

/-- A power; one of whole numbers is exact if it surely fits. -/
def pow (a b : Numeric) : Numeric :=
  match a.settled, b.settled with
  | whole m, whole n =>
    let isPowerOfTwo := m.natAbs ≠ 0 ∧ Nat.pow 2 (bitsOf m - 1) = m.natAbs
    if 0 ≤ n ∧ ¬isPowerOfTwo ∧ bitsOf m * n.natAbs ≤ 64 then
      let size := Nat.pow m.natAbs n.toNat
      ofInt (if m < 0 ∧ n % 2 = 1 then -(size : Int) else size)
    else (real ((Float.ofInt m).pow (Float.ofInt n))).settled
  | a, b => real (a.toFloat.pow b.toFloat)

/-- The number with the other sign. -/
def neg : Numeric → Numeric
  | whole n => ofInt (-n)
  | real x => real (-x)

/-- Whether a number is less than another one, and whether they are equal; nothing if they do not compare. -/
def compare? (a b : Numeric) : Option Ordering :=
  match a, b with
  | whole m, whole n => some (Ord.compare m n)
  | a, b =>
    let x := a.toFloat
    let y := b.toFloat
    if x < y then some .lt else if y < x then some .gt else if x == y then some .eq else none

/-- A number without what stands after its point. -/
def truncated : Numeric → Numeric
  | whole n => whole n
  | real x => (real (if x < 0 then x.ceil else x.floor)).settled

/-- The number at the start of a text. -/
def ofText (s : String) : Numeric :=
  let cs := s.toList.dropWhile isSpace
  let (negative, ds) := match cs with
    | '-' :: ds => (true, ds)
    | '+' :: ds => (false, ds)
    | ds => (false, ds)
  let digits := ds.takeWhile Char.isDigit
  let rest := ds.drop digits.length
  let goesOn := match rest with
    | '.' :: _ => true
    | e :: _ => e == 'e' || e == 'E'
    | [] => false
  if !digits.isEmpty && !goesOn then
    let n : Int := digitValue 10 digits
    ofInt (if negative then -n else n)
  else if digits.isEmpty && !(rest.head? == some '.') && !Floating.startsLike "inf" ds && !Floating.startsLike "nan" ds
    then whole 0
  else
    match Floating.read .double cs with
    | (.undefined _, _, _) => real (0.0 / 0.0)
    | (x, _, _) => real (ofExact x)

end Numeric

namespace Value

/-- A whole number as a value. -/
def ofInt (n : Int) : Value := .number (.ofInt n)

/-- A count as a value. -/
def ofNat (n : Nat) : Value := ofInt n

/-- An answer as a value. -/
def ofBool (b : Bool) : Value := if b then ofInt 1 else .text ""

/-- Where a reference seems to point. -/
def address : Value → Nat
  | cell n => 0x55d0c0a00000 + 24 * n
  | list n => 0x55d0c0b00000 + 24 * n
  | table n => 0x55d0c0c00000 + 24 * n
  | code n => 0x55d0c0d00000 + 24 * n
  | _ => 0x55d0c0e00000

/-- What a reference points to; nothing for a value that is no reference. -/
def kind : Value → String
  | cell _ => "SCALAR"
  | list _ => "ARRAY"
  | table _ => "HASH"
  | code _ => "CODE"
  | pattern .. => "Regexp"
  | handle _ => "GLOB"
  | _ => ""

/-- A value as a text. -/
def toText : Value → String
  | undefined => ""
  | text s => s
  | number n => n.toText
  | fault n => faultWording n
  | pattern flags source => "(?^" ++ flags ++ ":" ++ source ++ ")"
  | v => v.kind ++ "(0x" ++ String.ofList (Nat.toDigits 16 v.address) ++ ")"

/-- A value as a number. -/
def toNumeric : Value → Numeric
  | undefined => .whole 0
  | text s => .ofText s
  | number n => n
  | fault n => .whole n
  | v => .whole v.address

/-- A value as a whole number. -/
def toInt (v : Value) : Int := v.toNumeric.toInt

/-- Whether a value counts as yes. -/
def holds : Value → Bool
  | undefined => false
  | text s => s ≠ "" && s ≠ "0"
  | number n => !n.isZero
  | fault n => n ≠ 0
  | _ => true

/-- Whether a value is there. -/
def isDefined : Value → Bool
  | undefined => false
  | _ => true

/-- Whether a text is a number as a whole, blanks around it apart. -/
def isNumberText (s : String) : Bool :=
  let cs := (s.toList.dropWhile isSpace).reverse.dropWhile isSpace |>.reverse
  let cs := match cs with
    | '-' :: cs | '+' :: cs => cs
    | cs => cs
  let whole := cs.takeWhile Char.isDigit
  let rest := cs.drop whole.length
  let (part, rest) := match rest with
    | '.' :: rest => (rest.takeWhile Char.isDigit, rest.dropWhile Char.isDigit)
    | rest => ([], rest)
  let isEnd := match rest with
    | [] => true
    | e :: rest =>
      let ds := match rest with
        | '-' :: ds | '+' :: ds => ds
        | ds => ds
      (e == 'e' || e == 'E') && !ds.isEmpty && ds.all Char.isDigit
  if whole.isEmpty && part.isEmpty then
    ["inf", "infinity", "nan"].contains (String.ofList cs).toLower
  else isEnd

/-- Whether a value looks like a number as a whole. -/
def looksLikeNumber : Value → Bool
  | number _ => true
  | text s => isNumberText s
  | _ => false

end Value

/-- The text after a text of letters and digits, counted from its end. -/
def following (s : String) : String :=
  let rec go : List Char → Char → List Char
    | [], last => [if last.isDigit then '1' else if last.isUpper then 'A' else 'a']
    | 'z' :: cs, _ => 'a' :: go cs 'z'
    | 'Z' :: cs, _ => 'A' :: go cs 'Z'
    | '9' :: cs, _ => '0' :: go cs '9'
    | c :: cs, _ => Char.ofNat (c.toNat + 1) :: cs
  String.ofList (go s.toList.reverse 'a').reverse

/-- Whether a text is counted on letter by letter and not as a number. -/
def countsLetters (s : String) : Bool :=
  let rest := s.toList.dropWhile Char.isAlpha
  s ≠ "" && (s.toList.head?.any Char.isAlpha) && rest.all Char.isDigit

/-- The value after a value. -/
def Value.next : Value → Value
  | text s => if countsLetters s then text (following s) else number ((Numeric.ofText s).add (.whole 1))
  | v => number (v.toNumeric.add (.whole 1))

/-- The texts from one to another one, or up to those that are longer. -/
def textsBetween (start stop : String) : Nat → List String
  | 0 => []
  | n + 1 =>
    if start = stop then [start]
    else if start.length > stop.length then []
    else start :: textsBetween (following start) stop n

/-! ## Formats -/

/-- The values that a format has not used. -/
structure Supply where
  all : Array Value
  next : Nat := 0

/-- The next value. -/
def Supply.take (s : Supply) : Value × Supply :=
  ((s.all[s.next]?).getD .undefined, { s with next := s.next + 1 })

/-- A width or a precision: a number, or a star for a value. -/
def measureAt (s : List Char) (v : Supply) : Option Int × List Char × Supply :=
  match s with
  | '*' :: rest =>
    let (value, v) := v.take
    (some value.toInt, rest, v)
  | s =>
    let ds := s.takeWhile Char.isDigit
    (if ds.isEmpty then none else some (digitValue 10 ds), s.drop ds.length, v)

/-- A value in a directive; nothing if there is no such conversion. -/
def shown? (d : Directive) (conversion : Char) (v : Value) : Option String :=
  let cut (s : String) : String := match d.precision with
    | some n => (s.take n).toString
    | none => s
  let padded (s : String) : String :=
    if d.zero && !d.left then String.ofList (List.replicate (d.width - s.length) '0') ++ s else d.pad s
  let whole : Int := v.toNumeric.truncated.toInt
  match conversion with
  | 's' => some (padded (cut v.toText))
  | 'c' => some (padded (String.singleton (Char.ofNat whole.toNat)))
  | 'd' | 'i' =>
    match v.toNumeric with
    | .real x => if (exactOf x) matches .finite .. then some (d.whole 'd' whole) else some (d.pad (Numeric.realText x))
    | _ => some (d.whole 'd' whole)
  | 'u' | 'o' | 'x' | 'X' => some (d.whole conversion whole)
  | 'D' => some (d.whole 'd' whole)
  | 'U' => some (d.whole 'u' whole)
  | 'O' => some (d.whole 'o' whole)
  | 'b' | 'B' =>
    let magnitude := (whole % Int.ofNat (Nat.pow 2 64)).toNat
    let digits := inBase 2 false magnitude
    let digits := String.ofList (List.replicate (d.precision.getD 0 - digits.length) '0') ++ digits
    some (d.padNumber (if d.hash && magnitude ≠ 0 then "0" ++ String.singleton conversion else "") digits d.precision.isNone)
  | 'e' | 'E' | 'f' | 'F' | 'g' | 'G' | 'a' | 'A' =>
    let x := v.toNumeric.toFloat
    if (exactOf x) matches .finite .. then some (d.real .double conversion (exactOf x))
    else some (d.pad (if d.plus && 0 < x then "+" ++ Numeric.realText x else Numeric.realText x))
  | _ => none

/-- The rest of a format with values in it. -/
def formattedFrom : Nat → List Char → Supply → String → String
  | 0, _, _, done => done
  | _ + 1, [], _, done => done
  | fuel + 1, '%' :: '%' :: s, v, done => formattedFrom fuel s v (done ++ "%")
  | fuel + 1, '%' :: s, v, done =>
    let ds := s.takeWhile Char.isDigit
    let (chosen, body) : Option Nat × List Char := match s.drop ds.length with
      | '$' :: rest => if ds.isEmpty then (none, s) else (some (digitValue 10 ds), rest)
      | _ => (none, s)
    let (d, rest) := Shell.readFlags {} body
    let (isVector, rest) := match rest with
      | 'v' :: rest => (true, rest)
      | rest => (false, rest)
    let (width, rest, v) := measureAt rest v
    let d := { d with width := (width.getD 0).natAbs, left := d.left || width.any (· < 0) }
    let (d, rest, v) := match rest with
      | '.' :: rest =>
        let (precision, rest, v) := measureAt rest v
        let precision := precision.getD 0
        ({ d with precision := if precision < 0 then none else some precision.toNat }, rest, v)
      | rest => (d, rest, v)
    let rest := rest.dropWhile "hlqLVzt".toList.contains
    match rest with
    | c :: after =>
      let (value, w) : Value × Supply := match chosen with
        | some n => ((v.all[n - 1]?).getD .undefined, v)
        | none => v.take
      let text : Option String :=
        if isVector then
          some (d.pad (".".intercalate (value.toText.toList.map fun c => toString c.toNat)))
        else shown? d c value
      match text with
      | some text => formattedFrom fuel after w (done ++ text)
      | none =>
        let raw := s.take (s.length - after.length)
        formattedFrom fuel after v (done ++ "%" ++ String.ofList raw)
    | [] => done ++ "%" ++ String.ofList s
  | fuel + 1, c :: s, v, done => formattedFrom fuel s v (done.push c)

/-- Values in a format. -/
def formatted (format : String) (values : List Value) : String :=
  formattedFrom (format.length + 1) format.toList { all := values.toArray } ""

end ClassLens.Tool.Scripting
