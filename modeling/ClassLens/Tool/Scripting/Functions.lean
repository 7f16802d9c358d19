import ClassLens.Shell.Calendar
import ClassLens.Tool.Encoding
import ClassLens.Tool.Scripting.Files
import ClassLens.Tool.Scripting.Template

/-! # Functions of values

The functions that are there from the start and that only ask for the values of their arguments.

* `compute`: an operator between two values.
* `simpleResult`: what a function gives. -/

namespace ClassLens.Tool.Scripting

open Shell (digitValue isHex isOctal momentOf)

/-! ### Operators -/

/-- A whole number of 64 bits without a sign. -/
def wordOf (v : Value) : Nat := (v.toNumeric.truncated.toInt % Int.ofNat (Nat.pow 2 64)).toNat

/-- A text again and again. -/
def repeated (s : String) (n : Int) : String :=
  String.join (List.replicate (min n.toNat 100000000) s)

/-- The answer to whether two numbers stand in an order. -/
def ordered (a b : Value) (holds : Ordering → Bool) : Value :=
  .ofBool ((a.toNumeric.compare? b.toNumeric).any holds)

/-- The answer to whether two texts stand in an order. -/
def spelled (a b : Value) (holds : Ordering → Bool) : Value :=
  .ofBool (holds (compare a.toText b.toText))

/-- The number of an order. -/
def orderValue : Ordering → Value
  | .lt => .ofInt (-1)
  | .eq => .ofInt 0
  | .gt => .ofInt 1

/-- An operator between two values. -/
def compute (op : String) (a b : Value) : Exec Value := do
  let number (f : Numeric → Numeric → Numeric) : Exec Value := return .number (f a.toNumeric b.toNumeric)
  let word (f : Nat → Nat → Nat) : Exec Value := return .ofNat (f (wordOf a) (wordOf b) % Nat.pow 2 64)
  match op with
  | "+" => number .add
  | "-" => number .sub
  | "*" => number .mul
  | "**" => number .pow
  | "/" => if b.toNumeric.isZero then fail "Illegal division by zero" else number .div
  | "%" => if b.toInt = 0 then fail "Illegal modulus zero" else number .rem
  | "." => return .text (a.toText ++ b.toText)
  | "x" => return .text (repeated a.toText b.toInt)
  | "==" => return ordered a b (· == .eq)
  | "!=" => return .ofBool !((a.toNumeric.compare? b.toNumeric) == some .eq)
  | "<" => return ordered a b (· == .lt)
  | ">" => return ordered a b (· == .gt)
  | "<=" => return ordered a b (· != .gt)
  | ">=" => return ordered a b (· != .lt)
  | "<=>" => return ((a.toNumeric.compare? b.toNumeric).map orderValue).getD .undefined
  | "eq" => return spelled a b (· == .eq)
  | "ne" => return spelled a b (· != .eq)
  | "lt" => return spelled a b (· == .lt)
  | "gt" => return spelled a b (· == .gt)
  | "le" => return spelled a b (· != .gt)
  | "ge" => return spelled a b (· != .lt)
  | "cmp" => return orderValue (compare a.toText b.toText)
  | "xor" => return .ofBool (a.holds != b.holds)
  | "&" => word (· &&& ·)
  | "|" => word (· ||| ·)
  | "^" => word (· ^^^ ·)
  | "<<" => word fun m n => if n ≥ 64 then 0 else m * Nat.pow 2 n
  | ">>" => word fun m n => if n ≥ 64 then 0 else m / Nat.pow 2 n
  | op => fail ("syntax error, near \"" ++ op ++ "\"")

/-- The value with the other sign; a name gets a sign before it. -/
def negated (v : Value) : Value :=
  match v with
  | .text s =>
    match s.toList with
    | '-' :: rest => if v.looksLikeNumber then .number (v.toNumeric.neg) else .text ("+" ++ String.ofList rest)
    | '+' :: rest => if v.looksLikeNumber then .number (v.toNumeric.neg) else .text ("-" ++ String.ofList rest)
    | c :: _ => if startsWord c && !v.looksLikeNumber then .text ("-" ++ s) else .number (v.toNumeric.neg)
    | [] => .ofInt 0
  | v => .number v.toNumeric.neg

/-! ### Texts -/

/-- Where a part of a text of some length starts and ends; nothing if it lies outside. -/
def partOf (size : Nat) (start : Int) (length : Option Int) : Option (Nat × Nat) :=
  let first : Int := if start < 0 then size + start else start
  let stop : Int := match length with
    | none => size
    | some n => if n < 0 then size + n else first + n
  if first > size ∨ (first < 0 ∧ stop < 0) then none
  else
    let low := max first 0
    let high := max low (min stop size)
    some (low.toNat, high.toNat)

/-- The first place of a text in another one, not before some place. -/
def indexFrom (s t : List Char) (start : Int) : Int :=
  let rec go : Nat → List Char → Int
    | n, cs =>
      if t.isPrefixOf cs then n
      else
        match cs with
        | [] => -1
        | _ :: cs => go (n + 1) cs
  let start := min (max start 0).toNat s.length
  go start (s.drop start)

/-- The last place of a text in another one, not after some place. -/
def lastIndexTo (s t : List Char) (stop : Option Int) : Int :=
  let most : Int := (s.length : Int) - t.length
  let from_ : Int := match stop with
    | some n => min n most
    | none => most
  let rec go : Nat → Int
    | 0 => if t.isPrefixOf s then 0 else -1
    | n + 1 => if t.isPrefixOf (s.drop (n + 1)) then (n + 1 : Nat) else go n
  if from_ < 0 then (if t.isEmpty then 0 else -1) else go from_.toNat

/-- A text with another first character. -/
def withFirst (f : Char → Char) (s : String) : String :=
  match s.toList with
  | c :: cs => String.ofList (f c :: cs)
  | [] => s

/-- The number of hexadecimal, octal or binary digits, as their start tells. -/
def octal (s : String) : Numeric :=
  let cs := (s.toList.dropWhile Records.isSpace).filter (· != '_')
  let digits (base : Nat) (isDigit : Char → Bool) (cs : List Char) : Numeric :=
    .ofInt (digitValue base (cs.takeWhile isDigit))
  match cs with
  | '0' :: 'x' :: rest | '0' :: 'X' :: rest | 'x' :: rest => digits 16 isHex rest
  | '0' :: 'b' :: rest | '0' :: 'B' :: rest | 'b' :: rest => digits 2 (fun c => c == '0' || c == '1') rest
  | '0' :: 'o' :: rest | 'o' :: rest => digits 8 isOctal rest
  | cs => digits 8 isOctal cs

/-- The number of hexadecimal digits. -/
def hexadecimal (s : String) : Numeric :=
  let cs := s.toList.filter (· != '_')
  let cs := match cs with
    | '0' :: 'x' :: rest | '0' :: 'X' :: rest => rest
    | cs => cs
  .ofInt (digitValue 16 (cs.takeWhile isHex))

/-- Bytes as letters for six bits, in lines that end in some text. -/
def sixBitText (s stop : String) : String :=
  let letters := encodeSixBits sixBitLetters (s.toList.map Char.toNat)
  let rec rows : Nat → List Char → String
    | 0, _ => ""
    | fuel + 1, cs => if cs.isEmpty then "" else String.ofList (cs.take 76) ++ stop ++ rows fuel (cs.drop 76)
  rows (letters.length + 1) letters

/-- The bytes of letters for six bits. -/
def sixBitBytes (s : String) : String :=
  let letters := s.toList.filter fun c => sixBitLetters.contains c || c == '='
  String.ofList ((decodeSixBits sixBitLetters letters).1.map Char.ofNat)

/-! ### Functions -/

/-- The whole numbers that values are added up to, and their like. -/
def folded (f : Numeric → Numeric → Numeric) (vs : List Value) : Value :=
  match vs with
  | [] => .undefined
  | v :: vs => .number (vs.foldl (fun n v => f n v.toNumeric) (v.toNumeric.add (.whole 0)))

/-- The value that others do not come before, in an order. -/
def chosen (better : Value → Value → Bool) (vs : List Value) : Value :=
  match vs with
  | [] => .undefined
  | v :: vs => vs.foldl (fun best v => if better v best then v else best) v

/-- A time in seconds as second, minute, hour, day, month, year, day of the week, and day of the year. -/
def calendar (seconds : Int) : List Int :=
  let m := momentOf seconds
  [m.second, m.minute, m.hour, m.day, m.month - 1, m.year - 1900, m.weekDay, m.yearDay]

/-- A time as a line. -/
def timeLine (seconds : Int) : String := (momentOf seconds).write false "%a %b %e %H:%M:%S %Y"

/-- The time. -/
def now : Exec Int := return ((← Shell.present) / 1000000000 : Nat)

/-- Waits for some billionths of a second. -/
def wait (n : Nat) : Exec Unit := do
  flush "STDERR"
  Shell.pass (some n) 64

/-- What a function gives for the values of its arguments; nothing if there is no such function. -/
def simpleResult (name : String) (vs : List Value) : Exec (Option (List Value)) := do
  let first := vs.headD .undefined
  let second := vs.getD 1 .undefined
  let one (v : Value) : Exec (Option (List Value)) := return some [v]
  let text (s : String) : Exec (Option (List Value)) := one (.text s)
  let number (n : Numeric) : Exec (Option (List Value)) := one (.number n)
  let real (f : Float → Float) : Exec (Option (List Value)) := number (.real (f first.toNumeric.toFloat))
  match name with
  | "length" => if first.isDefined then one (.ofNat first.toText.length) else one .undefined
  | "lc" | "fc" => text (first.toText.map Char.toLower)
  | "uc" => text (first.toText.map Char.toUpper)
  | "lcfirst" => text (withFirst Char.toLower first.toText)
  | "ucfirst" => text (withFirst Char.toUpper first.toText)
  | "quotemeta" => text (withBackslashes first.toText)
  | "chr" => text (String.singleton (Char.ofNat first.toInt.toNat))
  | "ord" => one (.ofNat ((first.toText.toList.headD '\x00').toNat))
  | "int" => number first.toNumeric.truncated
  | "abs" => number (if (first.toNumeric.compare? (.whole 0)) == some .lt then first.toNumeric.neg else first.toNumeric)
  | "sqrt" =>
    if first.toNumeric.toFloat < 0 then fail ("Can't take sqrt of " ++ first.toNumeric.toText)
    else number (Numeric.real (first.toNumeric.toFloat.sqrt)).settled
  | "log" =>
    if first.toNumeric.toFloat ≤ 0 then fail ("Can't take log of " ++ first.toNumeric.toText) else real Float.log
  | "exp" => real Float.exp
  | "sin" => real Float.sin
  | "cos" => real Float.cos
  | "atan2" => number (.real (first.toNumeric.toFloat.atan2 second.toNumeric.toFloat))
  | "hex" => number (hexadecimal first.toText)
  | "oct" => number (octal first.toText)
  | "rand" =>
    modify fun m => { m with random := (m.random * 25214903917 + 11) % Nat.pow 2 48 }
    let top := first.toNumeric.toFloat
    let top := if top == 0 then 1 else top
    number (.real (Float.scaleB (Float.ofNat (← get).random) (-48) * top))
  | "srand" =>
    modify fun m => { m with random := (first.toInt.toNat * 65536 + 13070) % Nat.pow 2 48 }
    one first
  | "join" => text (first.toText.intercalate (vs.tail.map Value.toText))
  | "sprintf" => text (formatted first.toText vs.tail)
  | "index" =>
    one (.ofInt (indexFrom first.toText.toList second.toText.toList ((vs[2]?).map Value.toInt |>.getD 0)))
  | "rindex" =>
    one (.ofInt (lastIndexTo first.toText.toList second.toText.toList ((vs[2]?).map Value.toInt)))
  | "pack" =>
    match Template.packed first.toText vs.tail with
    | .ok s => text s
    | .error e => fail e
  | "unpack" =>
    match Template.unpacked first.toText second.toText with
    | .ok vs => return some vs
    | .error e => fail e
  | "ref" => text first.kind
  | "time" => one (.ofInt (← now))
  | "times" => return some (List.replicate 4 (.ofInt 0))
  | "sleep" =>
    let x := first.toNumeric.toFloat
    let seconds := if x < 0 then 0 else x
    wait (Numeric.real (seconds * 1000000000)).truncated.toInt.toNat
    number (Numeric.real seconds).truncated
  | "usleep" =>
    wait (first.toInt.toNat * 1000)
    one first
  | "kill" =>
    let name := first.toText
    let bare := if name.startsWith "SIG" then (name.drop 3).toString else name
    let signal := (Shell.signalOf? true bare).getD 0
    let sent ← vs.tail.mapM fun v => do
      flushAll
      Shell.signalTo v.toInt.toNat signal
    one (.ofNat (sent.filter id).length)
  | "getppid" => one (.ofNat (← Shell.shell).parent)
  | "wait" | "waitpid" => one (.ofInt (-1))
  | "lock" | "study" | "require" => one (.ofInt 1)
  | "bless" => one first
  | "sum" => one (folded .add vs)
  | "sum0" => one (if vs.isEmpty then .ofInt 0 else folded .add vs)
  | "product" => one (if vs.isEmpty then .ofInt 1 else folded .mul vs)
  | "max" => one (chosen (fun v best => (v.toNumeric.compare? best.toNumeric) == some .gt) vs)
  | "min" => one (chosen (fun v best => (v.toNumeric.compare? best.toNumeric) == some .lt) vs)
  | "maxstr" => one (chosen (fun v best => compare v.toText best.toText == .gt) vs)
  | "minstr" => one (chosen (fun v best => compare v.toText best.toText == .lt) vs)
  | "uniq" =>
    return some (vs.foldl (fun done v => if done.any fun w => w.toText == v.toText then done else done ++ [v]) [])
  | "shuffle" => return some vs
  | "floor" => number (Numeric.real first.toNumeric.toFloat.floor).settled
  | "ceil" => number (Numeric.real first.toNumeric.toFloat.ceil).settled
  | "fmod" =>
    let (x, y) := (first.toNumeric.toFloat, second.toNumeric.toFloat)
    let q := x / y
    number (Numeric.real (x - (if q < 0 then q.ceil else q.floor) * y)).settled
  | "pow" => number (first.toNumeric.pow second.toNumeric)
  | "looks_like_number" => one (.ofBool first.looksLikeNumber)
  | "reftype" | "blessed" => one (if name = "reftype" && first.kind ≠ "" then .text first.kind else .undefined)
  | "encode_base64" => text (sixBitText first.toText ((vs[1]?).map Value.toText |>.getD "\n"))
  | "decode_base64" => text (sixBitBytes first.toText)
  | "encode_utf8" => text (Shell.ofText first.toText)
  | "decode_utf8" => text (decodedText first.toText)
  | "encode" => text (Shell.ofText second.toText)
  | "decode" => text (decodedText second.toText)
  | "fileno" =>
    match first.toText with
    | "STDIN" => one (.ofInt 0)
    | "STDOUT" => one (.ofInt 1)
    | "STDERR" => one (.ofInt 2)
    | _ => one (.ofInt 3)
  | "fork" | "alarm" | "select" | "vec" | "crypt" | "chroot" | "sysopen" | "pipe" => return some [.undefined]
  | name =>
    match name.toList with
    | ['-', letter] => one (← askFile letter first)
    | _ => fileResult name vs

end ClassLens.Tool.Scripting
