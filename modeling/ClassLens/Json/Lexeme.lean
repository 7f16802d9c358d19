import ClassLens.Json.Basic
import ClassLens.Text.Measure

/-! # The written form of JSON strings and numbers

A string is read in two ways. A reader that wants its characters (`readString`) refuses an escape
that names half of a surrogate pair; a reader that only passes over it (`skipString`) does not
look. A number (`readNumber`) is read in one way.

* `readString s`: the characters of the string whose opening quote stands before `s`, and what
  follows its closing quote.
* `skipString s`: what follows the closing quote.
* `readNumber s`: the parts of a number at the start of `s`, and what follows it.
* `Numeral.toNumber`: its value, as far as it is looked at.

**Main statements.** `skipString_length`, `readNumber_length`: what is left is shorter. -/

namespace ClassLens.Json

open Text (byteLength)

/-! ### Strings -/

/-- The value of a hexadecimal digit. -/
def hexDigit? (c : Char) : Option Nat :=
  if '0' ≤ c ∧ c ≤ '9' then some (c.toNat - '0'.toNat)
  else if 'a' ≤ c ∧ c ≤ 'f' then some (c.toNat - 'a'.toNat + 10)
  else if 'A' ≤ c ∧ c ≤ 'F' then some (c.toNat - 'A'.toNat + 10)
  else none

/-- The value of four hexadecimal digits. -/
def hexUnit? (a b c d : Char) : Option Nat := do
  let a ← hexDigit? a
  let b ← hexDigit? b
  let c ← hexDigit? c
  let d ← hexDigit? d
  return ((a * 16 + b) * 16 + c) * 16 + d

/-- What is wrong where four hexadecimal digits should stand: with fewer than four bytes left the
text ended too early. -/
def hexFault (s : List Char) : Fault :=
  if byteLength (s.take 4) < 4 then .truncated else .malformed

/-- What is wrong where one particular character should stand. -/
def missingFault : List Char → Fault
  | [] => .truncated
  | _ :: _ => .malformed

/-- The character that a one-letter escape stands for. -/
def shortEscape? : Char → Option Char
  | '"' => some '"'
  | '\\' => some '\\'
  | '/' => some '/'
  | 'b' => some '\x08'
  | 'f' => some '\x0c'
  | 'n' => some '\n'
  | 'r' => some '\r'
  | 't' => some '\t'
  | _ => none

/-- A control character, which a string may hold as an escape only. -/
def isControl (c : Char) : Bool :=
  c.toNat < 0x20

/-- The first half of a surrogate pair. -/
def isHighHalf (n : Nat) : Bool :=
  0xD800 ≤ n && n ≤ 0xDBFF

/-- The second half of a surrogate pair. -/
def isLowHalf (n : Nat) : Bool :=
  0xDC00 ≤ n && n ≤ 0xDFFF

/-- The character of a surrogate pair. -/
def pairChar (high low : Nat) : Char :=
  Char.ofNat (0x10000 + (high - 0xD800) * 0x400 + (low - 0xDC00))

/-- Puts a character in front of the string that was read. -/
def prepend (c : Char) (r : Except Fault (List Char × List Char)) :
    Except Fault (List Char × List Char) :=
  r.map fun (cs, rest) => (c :: cs, rest)

/-- The characters of the string whose opening quote stands before the text, and what follows its
closing quote. -/
def readString : List Char → Except Fault (List Char × List Char)
  | [] => .error .truncated
  | '"' :: rest => .ok ([], rest)
  | ['\\'] => .error .truncated
  | '\\' :: 'u' :: a :: b :: c :: d :: rest =>
    match hexUnit? a b c d with
    | none => .error (hexFault [a, b, c, d])
    | some n =>
      if isLowHalf n then .error .malformed
      else if isHighHalf n then
        match rest with
        | '\\' :: 'u' :: e :: f :: g :: h :: rest' =>
          match hexUnit? e f g h with
          | none => .error (hexFault [e, f, g, h])
          | some m => if isLowHalf m then prepend (pairChar n m) (readString rest') else .error .malformed
        | '\\' :: 'u' :: digits => .error (hexFault digits)
        | '\\' :: after => .error (missingFault after)
        | other => .error (missingFault other)
      else prepend (Char.ofNat n) (readString rest)
  | '\\' :: 'u' :: digits => .error (hexFault digits)
  | '\\' :: c :: rest =>
    match shortEscape? c with
    | some e => prepend e (readString rest)
    | none => .error .malformed
  | c :: rest => if isControl c then .error .malformed else prepend c (readString rest)

/-- What follows the closing quote of the string whose opening quote stands before the text. -/
def skipString : List Char → Except Fault (List Char)
  | [] => .error .truncated
  | '"' :: rest => .ok rest
  | ['\\'] => .error .truncated
  | '\\' :: 'u' :: a :: b :: c :: d :: rest =>
    match hexUnit? a b c d with
    | none => .error (hexFault [a, b, c, d])
    | some _ => skipString rest
  | '\\' :: 'u' :: digits => .error (hexFault digits)
  | '\\' :: c :: rest =>
    match shortEscape? c with
    | some _ => skipString rest
    | none => .error .malformed
  | c :: rest => if isControl c then .error .malformed else skipString rest

theorem skipString_length {s rest : List Char} (h : skipString s = .ok rest) :
    rest.length < s.length := by
  fun_induction skipString s with
  | case1 => simp at h
  | case2 r => simp at h; subst h; simp
  | case3 => simp at h
  | case4 => simp at h
  | case5 a b c d r n hn ih => have := ih h; simp only [List.length_cons]; omega
  | case6 => simp at h
  | case7 c r _ _ e hc ih => have := ih h; simp only [List.length_cons]; omega
  | case8 => simp at h
  | case9 => simp at h
  | case10 c r _ _ _ _ _ _ ih => have := ih h; simp only [List.length_cons]; omega

/-! ### Numbers -/

/-- The parts of a written number. -/
structure Numeral where
  negative : Bool
  digits : List Char
  /-- The digits after the point, if there is one. -/
  fraction : Option (List Char)
  /-- Whether the exponent is negative, and its digits, if there is one. -/
  exponent : Option (Bool × List Char)
  deriving Repr

/-- The digits at the start of a text and what follows them. -/
def spanDigits (s : List Char) : List Char × List Char :=
  (s.takeWhile Char.isDigit, s.dropWhile Char.isDigit)

/-- At least one digit, and what follows the digits. -/
def readDigits (s : List Char) : Except Fault (List Char × List Char) :=
  match s with
  | [] => .error .truncated
  | c :: _ => if c.isDigit then .ok (spanDigits s) else .error .malformed

/-- At least one digit, taken by `make`, and what follows the digits. -/
def readDigitsAs {α : Type} (make : List Char → α) (s : List Char) : Except Fault (α × List Char) :=
  match readDigits s with
  | .ok (ds, rest) => .ok (make ds, rest)
  | .error fault => .error fault

/-- The digits before the point: no zero stands before another digit. -/
def readWhole (s : List Char) : Except Fault (List Char × List Char) :=
  match s with
  | '0' :: c :: rest => if c.isDigit then .error .malformed else .ok (['0'], c :: rest)
  | s => readDigits s

/-- The point and the digits after it, if there is a point. -/
def readFraction (s : List Char) : Except Fault (Option (List Char) × List Char) :=
  match s with
  | '.' :: rest => readDigitsAs some rest
  | s => .ok (none, s)

/-- The exponent, if there is one. -/
def readExponent (s : List Char) : Except Fault (Option (Bool × List Char) × List Char) :=
  match s with
  | [] => .ok (none, [])
  | e :: rest =>
    if e = 'e' ∨ e = 'E' then
      match rest with
      | '+' :: rest => readDigitsAs (fun ds => some (false, ds)) rest
      | '-' :: rest => readDigitsAs (fun ds => some (true, ds)) rest
      | rest => readDigitsAs (fun ds => some (false, ds)) rest
    else
      .ok (none, e :: rest)

/-- The number at the start of a text, after its sign, and what follows it. -/
def readUnsigned (negative : Bool) (s : List Char) : Except Fault (Numeral × List Char) := do
  let (digits, s) ← readWhole s
  let (fraction, s) ← readFraction s
  let (exponent, s) ← readExponent s
  return (⟨negative, digits, fraction, exponent⟩, s)

/-- The number at the start of a text, and what follows it. -/
def readNumber (s : List Char) : Except Fault (Numeral × List Char) :=
  match s with
  | '-' :: rest => readUnsigned true rest
  | s => readUnsigned false s

/-! ### Values of numbers

A number that is not whole is worked out in doubles: the digits that 64 bits hold, as a double, times a
power of ten, as a double. So rounding decides near the greatest double whether a number is too great,
and it decides otherwise than the exact value in some cases. -/

/-- The number that a row of decimal digits denotes. -/
def natOfDigits (ds : List Char) : Nat :=
  ds.foldl (fun n c => n * 10 + (c.toNat - '0'.toNat)) 0

/-- The first number that 64 bits do not hold. -/
def wordBound : Nat := Nat.pow 2 64

/-- Reads digits on from a number, as long as 64 bits hold it: the number, and how many digits were
read. -/
def absorb (n : Nat) : List Char → Nat × Nat
  | [] => (n, 0)
  | c :: cs =>
    let next := n * 10 + (c.toNat - '0'.toNat)
    if next < wordBound then
      let (m, count) := absorb next cs
      (m, count + 1)
    else (n, 0)

/-- The double next to a natural number, of two the one with the even mantissa. -/
def roundToDouble (n : Nat) : Nat :=
  let unit := Nat.pow 2 (n.log2 - 52)
  let floor := n / unit
  let rest := n % unit
  let up := unit < 2 * rest || (unit == 2 * rest && floor % 2 == 1)
  (if up then floor + 1 else floor) * unit

/-- The least number that is rounded to more than the greatest finite double. -/
def doubleBound : Nat :=
  Nat.pow 2 1024 - Nat.pow 2 970

/-- The greatest power of ten that a double holds. -/
def topPower : Int := 308

/-- Whether `mantissa * 10 ^ exponent` is too great for a double when it is worked out in doubles. -/
def exceedsDouble (mantissa : Nat) (exponent : Int) : Bool :=
  if mantissa = 0 ∨ exponent < 0 then false
  else if topPower < exponent then true
  else decide (doubleBound ≤ roundToDouble mantissa * roundToDouble (Nat.pow 10 exponent.toNat))

/-- The exponent of a numeral. -/
def Numeral.exponentValue (n : Numeral) : Int :=
  match n.exponent with
  | none => 0
  | some (negative, ds) => if negative then -(natOfDigits ds : Int) else natOfDigits ds

/-- The digits of a numeral that count, as one number, and the power of ten that belongs to it. -/
def Numeral.scaled (n : Numeral) : Nat × Int :=
  let (m, read) := absorb 0 n.digits
  let (m, places) := absorb m (n.fraction.getD [])
  (m, n.exponentValue + (n.digits.length - read : Nat) - places)

/-- The value of a numeral, as far as it is looked at: without fraction and exponent it is whole
if 64 bits hold it, and `-0` is not whole. -/
def Numeral.toNumber (n : Numeral) : Number :=
  let value := natOfDigits n.digits
  if n.fraction.isNone && n.exponent.isNone && !n.negative && decide (value < wordBound) then
    .whole value
  else if n.fraction.isNone && n.exponent.isNone && n.negative && value ≠ 0
      && decide (value ≤ Nat.pow 2 63) then
    .whole (-(value : Int))
  else
    let (mantissa, exponent) := n.scaled
    if exceedsDouble mantissa exponent then .huge else .real

/-! ### What is left after a number -/

theorem length_spanDigits (s : List Char) : (spanDigits s).2.length ≤ s.length := by
  unfold spanDigits
  have := congrArg List.length (@List.takeWhile_append_dropWhile _ Char.isDigit s)
  simp only [List.length_append] at this
  simp only
  omega

theorem readDigits_length {s ds rest : List Char} (h : readDigits s = .ok (ds, rest)) :
    rest.length < s.length := by
  unfold readDigits at h
  split at h
  · simp at h
  · rename_i c cs
    split at h
    · rename_i hc
      simp only [Except.ok.injEq, spanDigits, Prod.mk.injEq] at h
      obtain ⟨-, rfl⟩ := h
      rw [List.dropWhile_cons, if_pos hc]
      have := length_spanDigits cs
      simp only [spanDigits] at this
      simp only [List.length_cons]
      omega
    · simp at h

theorem readWhole_length {s ds rest : List Char} (h : readWhole s = .ok (ds, rest)) :
    rest.length < s.length := by
  unfold readWhole at h
  split at h
  · split at h
    · simp at h
    · simp only [Except.ok.injEq, Prod.mk.injEq] at h
      obtain ⟨-, rfl⟩ := h
      simp
  · exact readDigits_length h

theorem readDigitsAs_length {α : Type} {make : List Char → α} {s rest : List Char} {a : α}
    (h : readDigitsAs make s = .ok (a, rest)) : rest.length < s.length := by
  unfold readDigitsAs at h
  split at h
  · rename_i hd
    simp only [Except.ok.injEq, Prod.mk.injEq] at h
    have := readDigits_length hd
    rwa [h.2] at this
  · simp at h

theorem readFraction_length {s rest : List Char} {f : Option (List Char)}
    (h : readFraction s = .ok (f, rest)) : rest.length ≤ s.length := by
  unfold readFraction at h
  split at h
  · have := readDigitsAs_length h
    simp only [List.length_cons]
    omega
  · simp only [Except.ok.injEq, Prod.mk.injEq] at h
    simp [h.2]

theorem readExponent_length {s rest : List Char} {e : Option (Bool × List Char)}
    (h : readExponent s = .ok (e, rest)) : rest.length ≤ s.length := by
  unfold readExponent at h
  split at h
  · simp only [Except.ok.injEq, Prod.mk.injEq] at h
    simp [h.2]
  · split at h
    · split at h
      · have := readDigitsAs_length h; simp only [List.length_cons]; omega
      · have := readDigitsAs_length h; simp only [List.length_cons]; omega
      · have := readDigitsAs_length h; simp only [List.length_cons]; omega
    · simp only [Except.ok.injEq, Prod.mk.injEq] at h
      simp [h.2]

theorem readUnsigned_length {negative : Bool} {s rest : List Char} {n : Numeral}
    (h : readUnsigned negative s = .ok (n, rest)) : rest.length < s.length := by
  unfold readUnsigned at h
  cases hw : readWhole s with
  | error e => simp [hw, bind, Except.bind] at h
  | ok w =>
    cases hf : readFraction w.2 with
    | error e => simp [hw, hf, bind, Except.bind] at h
    | ok f =>
      cases he : readExponent f.2 with
      | error e => simp [hw, hf, he, bind, Except.bind] at h
      | ok e =>
        simp only [hw, hf, he, bind, Except.bind, pure, Except.pure, Except.ok.injEq,
          Prod.mk.injEq] at h
        have h1 := readWhole_length (show readWhole s = .ok (w.1, w.2) from hw)
        have h2 := readFraction_length (show readFraction w.2 = .ok (f.1, f.2) from hf)
        have h3 := readExponent_length (show readExponent f.2 = .ok (e.1, e.2) from he)
        rw [h.2] at h3
        omega

theorem readNumber_length {s rest : List Char} {n : Numeral}
    (h : readNumber s = .ok (n, rest)) : rest.length < s.length := by
  unfold readNumber at h
  split at h
  · have := readUnsigned_length h; simp only [List.length_cons]; omega
  · exact readUnsigned_length h

end ClassLens.Json
