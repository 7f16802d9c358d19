import ClassLens.Shell.Arithmetic

/-! # Numbers with a point

Binary numbers with a point that moves: how a text is read as the nearest one, a half going to the even
neighbour, and the forms in which such a number is written.

* `Floating.read`: the number at the start of a text.
* `Floating.fixed`, `Floating.scientific`, `Floating.general`, `Floating.hexadecimal`: its forms. All
  four work on the exact value of the number. -/

namespace ClassLens.Shell

/-- The value of digits of a base. -/
def digitValue (base : Nat) (ds : List Char) : Nat :=
  ds.foldl (fun n c =>
    n * base + (if c.isDigit then c.toNat - 48 else if c ≤ 'F' then c.toNat - 55 else c.toNat - 87)) 0

/-- The number whose digits a text is. -/
def plainNumber? (s : String) : Option Nat :=
  if s.isEmpty || !s.toList.all Char.isDigit then none else some (digitValue 10 s.toList)

/-- Whether a character is an octal digit. -/
def isOctal (c : Char) : Bool := '0' ≤ c && c ≤ '7'

/-- Whether a character is a hexadecimal digit. -/
def isHex (c : Char) : Bool := c.isDigit || ('a' ≤ c && c ≤ 'f') || ('A' ≤ c && c ≤ 'F')

/-- How many bits a number has, and between which powers of two its last bit lies. -/
structure Precision where
  bits : Nat
  least : Int
  most : Int

/-- Numbers of 64 bits, of which 53 hold the digits. -/
def Precision.double : Precision := ⟨53, -1074, 971⟩

/-- Numbers of 80 bits, of which 64 hold the digits. -/
def Precision.extended : Precision := ⟨64, -16445, 16320⟩

/-- A number with a point. -/
inductive Floating where
  /-- The number `m * 2 ^ e`, or its negative. -/
  | finite (negative : Bool) (m : Nat) (e : Int)
  | infinite (negative : Bool)
  | undefined (negative : Bool)

/-- A fraction rounded to a whole number, a half to the even one. -/
def roundFraction (num den : Nat) : Nat :=
  let q := num / den
  let r := num % den
  if den < 2 * r ∨ (2 * r = den ∧ q % 2 = 1) then q + 1 else q

namespace Floating

/-! ### Reading -/

/-- A quotient as a fraction of two whole numbers after a shift by a power of two. -/
def shifted (num den : Nat) (e : Int) : Nat × Nat :=
  if 0 ≤ e then (num, den * Nat.pow 2 e.toNat) else (num * Nat.pow 2 (-e).toNat, den)

/-- The number nearest to a fraction, and whether the fraction is too great or too small for it. -/
def nearest (p : Precision) (negative : Bool) (num den : Nat) : Floating × Bool :=
  if num = 0 then (finite negative 0 0, false)
  else
    let guess : Int := (Nat.log2 num : Int) - Nat.log2 den - p.bits
    let fits (e : Int) : Bool :=
      let (n, d) := shifted num den e
      n < d * Nat.pow 2 p.bits
    let e := if fits guess then guess else if fits (guess + 1) then guess + 1 else guess + 2
    let e := max e p.least
    let (n, d) := shifted num den e
    let rounded := roundFraction n d
    let isExact := n % d = 0
    let (m, e) := if rounded = Nat.pow 2 p.bits then (rounded / 2, e + 1) else (rounded, e)
    if e > p.most then (infinite negative, true)
    else (finite negative m e, !isExact && m < Nat.pow 2 (p.bits - 1))

/-- A power of ten or two times a whole number, as a fraction. -/
def scaledFraction (base n : Nat) (e : Int) : Nat × Nat :=
  if 0 ≤ e then (n * Nat.pow base e.toNat, 1) else (n, Nat.pow base (-e).toNat)

/-- The exponent after its letter, kept between bounds that no number reaches, and what follows it. Without
digits there is none. -/
def readExponent (letters : List Char) (s : List Char) : Int × List Char :=
  match s with
  | c :: rest =>
    if letters.contains c then
      let (negative, ds) := match rest with
        | '-' :: ds => (true, ds)
        | '+' :: ds => (false, ds)
        | ds => (false, ds)
      let digits := ds.takeWhile Char.isDigit
      if digits.isEmpty then (0, s)
      else
        let n := min (digitValue 10 digits) 40000
        (if negative then -(n : Int) else n, ds.drop digits.length)
    else (0, s)
  | [] => (0, s)

/-- The digits of a number around a point, and what follows them. -/
def readDigits (isDigit : Char → Bool) (s : List Char) : List Char × List Char × List Char :=
  let whole := s.takeWhile isDigit
  match s.drop whole.length with
  | '.' :: rest =>
    let part := rest.takeWhile isDigit
    if whole.isEmpty && part.isEmpty then ([], [], s) else (whole, part, rest.drop part.length)
  | rest => (whole, [], rest)

/-- What a text starts with, in letters of either case. -/
def startsLike (word : String) (s : List Char) : Bool :=
  (s.take word.length).map Char.toLower == word.toList

/-- The number at the start of a text, what follows it, and whether it is out of range. Where there is none,
the whole text follows. -/
def read (p : Precision) (text : List Char) : Floating × List Char × Bool :=
  let body := text.dropWhile fun c => c == ' ' || (9 ≤ c.toNat && c.toNat ≤ 13)
  let (negative, s) := match body with
    | '-' :: s => (true, s)
    | '+' :: s => (false, s)
    | s => (false, s)
  let isHexadecimal := match s with
    | '0' :: x :: rest =>
      (x == 'x' || x == 'X') && (let d := readDigits isHex rest; !(d.1.isEmpty && d.2.1.isEmpty))
    | _ => false
  if isHexadecimal then
    let (whole, part, rest) := readDigits isHex (s.drop 2)
    let (e, rest) := readExponent ['p', 'P'] rest
    let (num, den) := scaledFraction 2 (digitValue 16 (whole ++ part)) (e - 4 * part.length)
    let (x, isOut) := nearest p negative num den
    (x, rest, isOut)
  else
    let (whole, part, rest) := readDigits Char.isDigit s
    if !(whole.isEmpty && part.isEmpty) then
      let (e, rest) := readExponent ['e', 'E'] rest
      let (num, den) := scaledFraction 10 (digitValue 10 (whole ++ part)) (e - part.length)
      let (x, isOut) := nearest p negative num den
      (x, rest, isOut)
    else if startsLike "infinity" s then (infinite negative, s.drop 8, false)
    else if startsLike "inf" s then (infinite negative, s.drop 3, false)
    else if startsLike "nan" s then
      let rest := s.drop 3
      let rest := match rest with
        | '(' :: inner =>
          match inner.dropWhile fun c => c.isAlphanum || c == '_' with
          | ')' :: after => after
          | _ => rest
        | _ => rest
      (undefined negative, rest, false)
    else (finite false 0 0, text, false)

/-! ### Writing -/

/-- A whole number times a power of two as one times a power of ten. -/
def decimalOf (m : Nat) (e : Int) : Nat × Int :=
  if 0 ≤ e then (m * Nat.pow 2 e.toNat, 0) else (m * Nat.pow 5 (-e).toNat, e)

/-- `m * 10 ^ e` with so many places. -/
def fixed (m : Nat) (e : Int) (places : Nat) : String :=
  let shift := e + places
  let n := if 0 ≤ shift then m * Nat.pow 10 shift.toNat else roundFraction m (Nat.pow 10 (-shift).toNat)
  let ds := toString n
  let ds := String.ofList (List.replicate (places + 1 - ds.length) '0') ++ ds
  let head := ds.dropEnd places
  if places = 0 then head.toString else head.toString ++ "." ++ (ds.drop (ds.length - places)).toString

/-- The exponent of the first digit of `m * 10 ^ e`. -/
def firstExponent (m : Nat) (e : Int) : Int :=
  if m = 0 then 0 else e + (toString m).length - 1

/-- `m * 10 ^ e` with one digit before the point and so many after it, and its exponent. -/
def scientific (m : Nat) (e : Int) (places : Nat) : String × Int :=
  let x := firstExponent m e
  let shown := fixed m (e - x) places
  if (shown.takeWhile (· != '.')).toString.length > 1 then (fixed m (e - x - 1) places, x + 1)
  else (shown, x)

/-- An exponent as it is written after a mantissa. -/
def exponentText (letter : Char) (x : Int) (width : Nat) : String :=
  let ds := toString x.natAbs
  String.singleton letter ++ (if x < 0 then "-" else "+") ++
    String.ofList (List.replicate (width - ds.length) '0') ++ ds

/-- A text with a point, which some forms always have. -/
def withPoint (always : Bool) (s : String) : String :=
  if always && !s.toList.contains '.' then s ++ "." else s

/-- A decimal text without the zeros at its end. -/
def dropZeros (s : String) : String :=
  if s.toList.contains '.' then
    let cs := s.toList.reverse.dropWhile (· == '0')
    String.ofList (match cs with
      | '.' :: cs => cs.reverse
      | cs => cs.reverse)
  else s

/-- `m * 10 ^ e` in the shorter of the two forms, with so many digits that count. With `keeps` the zeros
at its end stay. -/
def general (m : Nat) (e : Int) (digits : Nat) (keeps : Bool) : String :=
  let digits := if digits = 0 then 1 else digits
  let (mantissa, x) := scientific m e (digits - 1)
  let finish (s : String) : String := if keeps then withPoint true s else dropZeros s
  if x < -4 ∨ x ≥ digits then finish mantissa ++ exponentText 'e' x 2
  else finish (fixed m e (((digits : Int) - 1 - x).toNat))

/-- A number of four bits as a digit. -/
def hexDigit (n : Nat) : Char := (Nat.toDigits 16 n).headD '0'

/-- `m * 2 ^ e` with hexadecimal digits, as many after the point as are given or as it takes. -/
def hexadecimal (p : Precision) (m : Nat) (e : Int) (places : Option Nat) (always : Bool) : String :=
  let total := (p.bits - 1) / 4
  let shift := p.bits - 1 - Nat.log2 m
  let shift := min shift (e - p.least).toNat
  let (m, e) := if m = 0 then (0, -(4 * total : Int)) else (m * Nat.pow 2 shift, e - shift)
  let (m, count) := match places with
    | some n => if n < total then (roundFraction m (Nat.pow 16 (total - n)), n) else (m, total)
    | none => (m, total)
  let ds := (List.range count).map fun i => hexDigit (m / Nat.pow 16 (count - 1 - i) % 16)
  let ds := match places with
    | some n => ds ++ List.replicate (n - count) '0'
    | none => (ds.reverse.dropWhile (· == '0')).reverse
  let first := m / Nat.pow 16 count
  let (first, e) := if first = 16 then (1, e + 4) else (first, e)
  let body := String.singleton (hexDigit first) ++ (if ds.isEmpty then "" else "." ++ String.ofList ds)
  "0x" ++ withPoint always body ++ exponentText 'p' (e + 4 * total) 1

end Floating

end ClassLens.Shell
