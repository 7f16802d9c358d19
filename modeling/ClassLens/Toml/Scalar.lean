import ClassLens.Toml.Lexeme

/-! # TOML: numbers, dates and truth values

These values are runs of letters, digits and the signs `+ - . _ :`, which `ofWord?` takes as a whole;
only a date may go on after a blank, with a time.

What they become as JSON: whole numbers and truth values themselves; a date an object with the one
member `dateKey`; what is no number, or infinite, becomes `null`. -/

namespace ClassLens.Toml

open Json (Value Number natOfDigits doubleBound topPower)

/-- A character of the words that are numbers, dates or truth values. -/
def isWordChar (c : Char) : Bool :=
  c.isAlphanum || c == '+' || c == '-' || c == '.' || c == '_' || c == ':'

/-! ### Numbers -/

/-- Digits of a kind, with single underscores between them: the digits alone. -/
def digitRun? (isDigit : Char → Bool) : List Char → Option (List Char)
  | [] => none
  | [c] => if isDigit c then some [c] else none
  | c :: '_' :: rest => if isDigit c then (digitRun? isDigit rest).map (c :: ·) else none
  | c :: rest => if isDigit c then (digitRun? isDigit rest).map (c :: ·) else none

/-- The digits of a decimal number, which does not start with a zero unless it is zero. -/
def decimalRun? (s : List Char) : Option (List Char) :=
  match s with
  | '0' :: _ :: _ => none
  | s => digitRun? Char.isDigit s

/-- A sign and what follows it. -/
def splitSign : List Char → Bool × List Char
  | '-' :: s => (true, s)
  | '+' :: s => (false, s)
  | s => (false, s)

/-- The greatest whole number. -/
def maxWhole : Nat := Nat.pow 2 63 - 1

/-- The value of a row of digits below sixteen in some base. -/
def valueInBase (base : Nat) (ds : List Char) : Nat :=
  ds.foldl (fun n c => n * base + (Json.hexDigit? c).getD 0) 0

/-- A whole number with a base, after the letter that tells it. -/
def baseWhole? (base : Nat) (isDigit : Char → Bool) (s : List Char) : Option Int := do
  let ds ← digitRun? isDigit s
  let n := valueInBase base ds
  if n ≤ maxWhole then some n else none

/-- A whole number. -/
def whole? (s : List Char) : Option Int :=
  match s with
  | '0' :: 'x' :: s => baseWhole? 16 (fun c => (Json.hexDigit? c).isSome) s
  | '0' :: 'o' :: s => baseWhole? 8 (fun c => '0' ≤ c && c ≤ '7') s
  | '0' :: 'b' :: s => baseWhole? 2 (fun c => c == '0' || c == '1') s
  | s =>
    let (negative, s) := splitSign s
    match decimalRun? s with
    | none => none
    | some ds =>
      let n := natOfDigits ds
      if negative then if n ≤ maxWhole + 1 then some (-(n : Int)) else none
      else if n ≤ maxWhole then some n
      else none

/-- An exponent after its letter. -/
def exponent? (s : List Char) : Option Int := do
  let (negative, s) := splitSign s
  let ds ← digitRun? Char.isDigit s
  return if negative then -(natOfDigits ds : Int) else natOfDigits ds

/-- Whether a character starts an exponent. -/
def isExponentMark (c : Char) : Bool :=
  c == 'e' || c == 'E'

/-- The digits and the power of ten of a number with a point or an exponent. -/
def scientific? (s : List Char) : Option (Nat × Int) := do
  let before := s.takeWhile fun c => c != '.' && !isExponentMark c
  let ds ← decimalRun? before
  match s.dropWhile fun c => c != '.' && !isExponentMark c with
  | '.' :: s => do
    let places ← digitRun? Char.isDigit (s.takeWhile fun c => !isExponentMark c)
    let e ← match s.dropWhile fun c => !isExponentMark c with
      | [] => some 0
      | _ :: s => exponent? s
    return (natOfDigits (ds ++ places), e - places.length)
  | _ :: s => do
    let e ← exponent? s
    return (natOfDigits ds, e)
  | [] => none

/-- Whether `m * 10 ^ e` is nearer to infinity than to the greatest finite double. -/
def roundsToInfinity (m : Nat) : Int → Bool
  | .ofNat e =>
    m ≠ 0 && (decide (topPower < e) || decide (doubleBound ≤ m * Nat.pow 10 e))
  | .negSucc e =>
    decide (3 * e ≤ m.log2) && decide (doubleBound * Nat.pow 10 (e + 1) ≤ m)

/-- A number with a point or an exponent, or a special one. A number too great for a double is
refused, and one too small is infinite. -/
def real? (s : List Char) : Option Value :=
  let (negative, s) := splitSign s
  if s = "inf".toList ∨ s = "nan".toList then some .null
  else
    match scientific? s with
    | none => none
    | some (m, e) =>
      if roundsToInfinity m e then if negative then some .null else none
      else some (.number .real)

/-! ### Dates -/

/-- The value of two digits, if it is within bounds. -/
def twoDigits? (low high : Nat) (a b : Char) : Option Nat :=
  if a.isDigit && b.isDigit then
    let n := natOfDigits [a, b]
    if low ≤ n ∧ n ≤ high then some n else none
  else
    none

/-- Whether a year has a leap day. -/
def isLeap (year : Nat) : Bool :=
  year % 4 == 0 && (year % 100 != 0 || year % 400 == 0)

/-- Days of a month. -/
def daysIn (year month : Nat) : Nat :=
  if month = 2 then if isLeap year then 29 else 28
  else if month = 4 ∨ month = 6 ∨ month = 9 ∨ month = 11 then 30
  else 31

/-- What follows a date at the start of a text. -/
def afterDate? : List Char → Option (List Char)
  | a :: b :: c :: d :: '-' :: e :: f :: '-' :: g :: h :: s => do
    if [a, b, c, d].all Char.isDigit then
      let month ← twoDigits? 1 12 e f
      let day ← twoDigits? 1 31 g h
      if day ≤ daysIn (natOfDigits [a, b, c, d]) month then some s else none
    else none
  | _ => none

/-- What follows the fraction of a second, if there is one. -/
def afterFraction? : List Char → Option (List Char)
  | '.' :: c :: s => if c.isDigit then some (s.dropWhile Char.isDigit) else none
  | '.' :: [] => none
  | s => some s

/-- What follows a time of day at the start of a text. -/
def afterTime? : List Char → Option (List Char)
  | a :: b :: ':' :: c :: d :: ':' :: e :: f :: s => do
    let _ ← twoDigits? 0 23 a b
    let _ ← twoDigits? 0 59 c d
    let _ ← twoDigits? 0 60 e f
    afterFraction? s
  | _ => none

/-- Whether a text is nothing or the distance to universal time. -/
def isOffset : List Char → Bool
  | [] => true
  | ['Z'] | ['z'] => true
  | [sign, a, b, ':', c, d] =>
    (sign == '+' || sign == '-') && (twoDigits? 0 23 a b).isSome && (twoDigits? 0 59 c d).isSome
  | _ => false

/-- Whether a text is a time of day with or without a distance to universal time. -/
def isTimeWithOffset (s : List Char) : Bool :=
  (afterTime? s).any isOffset

/-- The name under which a date stands in its object. -/
def dateKey : String := "$__toml_private_datetime"

/-- A date as JSON. -/
def dateValue (s : List Char) : Value :=
  .object [(dateKey, .string (String.ofList s))]

/-- Whether a text is a date, a time of day, or both. -/
def isDate (s : List Char) : Bool :=
  match afterDate? s with
  | some [] => true
  | some (c :: s) => (c == 'T' || c == 't') && isTimeWithOffset s
  | none => (afterTime? s).any List.isEmpty

/-- Whether the text of a string is a date, a time of day, or both. -/
def isDateText (s : List Char) : Bool :=
  match afterDate? s with
  | some (' ' :: s) => isTimeWithOffset s
  | _ => isDate s

/-! ### Words -/

/-- The value of a whole word. -/
def ofWord? (s : List Char) : Option Value :=
  if s = "true".toList then some (.bool true)
  else if s = "false".toList then some (.bool false)
  else if isDate s then some (dateValue s)
  else
    match whole? s with
    | some n => some (.number (.whole n))
    | none => real? s

/-- A number, date or truth value at the start of a text, and what follows it. -/
def readScalar? (s : List Char) : Option (Value × List Char) :=
  let word := s.takeWhile isWordChar
  let rest := s.dropWhile isWordChar
  match afterDate? word, rest with
  | some [], ' ' :: more =>
    let time := more.takeWhile isWordChar
    if isTimeWithOffset time then
      some (dateValue (word ++ ' ' :: time), more.dropWhile isWordChar)
    else (ofWord? word).map (·, rest)
  | _, _ => (ofWord? word).map (·, rest)

end ClassLens.Toml
