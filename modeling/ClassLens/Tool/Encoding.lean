import ClassLens.Tool.Copying

/-! # Bytes as text

`base64` and its like write bytes as letters and read them back.

* `Encoding`: how bytes become letters.
* `encodings`: the encodings by their names. -/

namespace ClassLens.Tool

open Shell

/-- How bytes become letters and letters bytes: what could be read, and whether all could. -/
structure Encoding where
  letters : List Char
  encode : List Char → List Nat → List Char
  decode : List Char → List Char → List Nat × Bool
  /-- What is wrong with a row of so many bytes or letters, before they are looked at. -/
  refuses : Bool → Nat → Option String := fun _ _ => none
  /-- Whether letters may be filled up with equals signs. -/
  fills : Bool := false

/-- The letter of a number. -/
def letterAt (letters : List Char) (n : Nat) : Char := (letters[n]?).getD ' '

/-- The number of a letter. -/
def numberOf? (letters : List Char) (c : Char) : Option Nat := letters.findIdx? (· == c)

/-! ### Six bits a letter -/

/-- The letters for six bits. -/
def sixBitLetters : List Char :=
  "ABCDEFGHIJKLMNOPQRSTUVWXYZabcdefghijklmnopqrstuvwxyz0123456789+/".toList

/-- The letters for six bits that may stand in addresses. -/
def sixBitLettersForNames : List Char := sixBitLetters.take 62 ++ ['-', '_']

/-- Bytes as letters, three of them as four. -/
def encodeSixBits (letters : List Char) : List Nat → List Char
  | [] => []
  | [a] => [letterAt letters (a / 4), letterAt letters (a % 4 * 16), '=', '=']
  | [a, b] =>
    [letterAt letters (a / 4), letterAt letters (a % 4 * 16 + b / 16), letterAt letters (b % 16 * 4), '=']
  | a :: b :: c :: rest =>
    letterAt letters (a / 4) :: letterAt letters (a % 4 * 16 + b / 16) ::
      letterAt letters (b % 16 * 4 + c / 64) :: letterAt letters (c % 64) :: encodeSixBits letters rest

/-- The bytes of letters, and whether all of them could be read. -/
def decodeSixBits (letters : List Char) : List Char → List Nat × Bool
  | a :: b :: c :: d :: rest =>
    match numberOf? letters a, numberOf? letters b with
    | some x, some y =>
      let first := x * 4 + y / 16
      match c, d with
      | '=', '=' =>
        let (more, ok) := decodeSixBits letters rest
        (first :: more, ok)
      | c, d =>
        match numberOf? letters c with
        | none => ([first], false)
        | some z =>
          let second := y % 16 * 16 + z / 4
          if d = '=' then
            let (more, ok) := decodeSixBits letters rest
            (first :: second :: more, ok)
          else
            match numberOf? letters d with
            | none => ([first, second], false)
            | some w =>
              let (more, ok) := decodeSixBits letters rest
              (first :: second :: (z % 4 * 64 + w) :: more, ok)
    | _, _ => ([], false)
  | [a, b, c] =>
    match numberOf? letters a, numberOf? letters b, numberOf? letters c with
    | some x, some y, some z => ([x * 4 + y / 16, y % 16 * 16 + z / 4], false)
    | some x, some y, none => ([x * 4 + y / 16], false)
    | _, _, _ => ([], false)
  | [a, b] =>
    match numberOf? letters a, numberOf? letters b with
    | some x, some y => ([x * 4 + y / 16], false)
    | _, _ => ([], false)
  | [_] => ([], false)
  | [] => ([], true)

/-! ### Five bits a letter -/

/-- The letters for five bits. -/
def fiveBitLetters : List Char := "ABCDEFGHIJKLMNOPQRSTUVWXYZ234567".toList

/-- The letters for five bits in the order of their codes. -/
def fiveBitLettersInOrder : List Char := "0123456789ABCDEFGHIJKLMNOPQRSTUV".toList

/-- The digits of a number in a base, the highest first. -/
def digitsOfNumber (base count n : Nat) : List Nat :=
  (List.range count).reverse.map fun i => n / Nat.pow base i % base

/-- The number of digits in a base. -/
def numberOfDigits (base : Nat) (ds : List Nat) : Nat := ds.foldl (fun n d => n * base + d) 0

/-- Rows of so many items. -/
def rowsOfSize {α : Type} (size : Nat) : Nat → List α → List (List α)
  | 0, _ => []
  | n + 1, items => if items.isEmpty then [] else items.take size :: rowsOfSize size n (items.drop size)

/-- Bytes as letters, five of them as eight. -/
def encodeFiveBits (letters : List Char) (bytes : List Nat) : List Char :=
  (rowsOfSize 5 bytes.length bytes).flatMap fun row =>
    let n := numberOfDigits 256 (row ++ List.replicate (5 - row.length) 0)
    let count := (8 * row.length + 4) / 5
    ((digitsOfNumber 32 8 n).take count).map (letterAt letters) ++ List.replicate (8 - count) '='

/-- The bytes of eight letters, and whether all of them could be read: each byte needs one or two letters
more, and what follows the last one is filled up. -/
def decodeEight (letters row : List Char) : List Nat × Bool :=
  if row.length ≠ 8 then ([], false)
  else
    let body := row.takeWhile fun c => (numberOf? letters c).isSome
    let count := body.length
    let ds := body.filterMap (numberOf? letters)
    let bytes := digitsOfNumber 256 5 (numberOfDigits 32 (ds ++ List.replicate (8 - count) 0))
    let read := if count = 8 then 5 else if count ≥ 7 then 4 else if count ≥ 5 then 3
      else if count ≥ 4 then 2 else if count ≥ 2 then 1 else 0
    (bytes.take read, [2, 4, 5, 7, 8].contains count && (row.drop count).all (· == '='))

/-- Decodes rows up to the first one that cannot be read. -/
def decodeRows (decode : List Char → List Nat × Bool) : List (List Char) → List Nat × Bool
  | [] => ([], true)
  | row :: rows =>
    let (bytes, ok) := decode row
    if !ok then (bytes, false)
    else
      let (more, ok) := decodeRows decode rows
      (bytes ++ more, ok)

/-! ### Digits -/

/-- The encoding of a byte as so many digits of a base. -/
def digitEncoding (letters : List Char) (base count : Nat) (lowFirst : Bool) : Encoding where
  letters
  encode letters bytes := bytes.flatMap fun b =>
    let ds := (digitsOfNumber base count b).map (letterAt letters)
    if lowFirst then ds.reverse else ds
  decode letters s :=
    let ds := (s.takeWhile fun c => (numberOf? letters c).isSome).filterMap (numberOf? letters)
    let rows := rowsOfSize count ds.length ds
    let whole := rows.filter fun row => row.length = count
    (whole.map fun row => numberOfDigits base (if lowFirst then row.reverse else row),
      ds.length = s.length && whole.length = rows.length)

/-- The letters for 85 values. -/
def manyLetters : List Char :=
  "0123456789abcdefghijklmnopqrstuvwxyzABCDEFGHIJKLMNOPQRSTUVWXYZ.-:+=^!/*?&<>()[]\x7b\x7d@%$#".toList

/-- The encoding of four bytes as five letters. -/
def manyEncoding : Encoding where
  letters := manyLetters
  encode letters bytes := (rowsOfSize 4 bytes.length bytes).flatMap fun row =>
    (digitsOfNumber 85 5 (numberOfDigits 256 row)).map (letterAt letters)
  decode letters s := decodeRows (fun row =>
    match (row.mapM (numberOf? letters)).map (numberOfDigits 85) with
    | some n => if row.length = 5 ∧ n < Nat.pow 2 32 then (digitsOfNumber 256 4 n, true) else ([], false)
    | none => ([], false)) (rowsOfSize 5 s.length s)
  refuses decodes n :=
    if decodes || n % 4 = 0 then none else some "invalid input (length must be multiple of 4 characters)"

/-- The encodings by their names. -/
def encodings : List (String × Encoding) :=
  let six (letters : List Char) : Encoding := {
    letters
    encode := encodeSixBits
    decode := decodeSixBits
    fills := true }
  let five (letters : List Char) : Encoding := {
    letters
    encode := encodeFiveBits
    decode := fun letters s => decodeRows (decodeEight letters) (rowsOfSize 8 s.length s)
    fills := true }
  [("base64", six sixBitLetters), ("base64url", six sixBitLettersForNames), ("base32", five fiveBitLetters),
    ("base32hex", five fiveBitLettersInOrder),
    ("base16", digitEncoding "0123456789ABCDEF".toList 16 2 false),
    ("base2msbf", digitEncoding ['0', '1'] 2 8 false), ("base2lsbf", digitEncoding ['0', '1'] 2 8 true),
    ("z85", manyEncoding)]

/-- Letters in lines of a width; zero is one line without an end. -/
def wrapLetters (width : Nat) : Nat → List Char → List Char
  | 0, s => s
  | n + 1, s =>
    if s.isEmpty then []
    else if width = 0 then s
    else s.take width ++ '\n' :: wrapLetters width n (s.drop width)

/-- Writes bytes as letters, or letters as bytes, by the encoding that the options choose. -/
def encoder (names : List (String × Char)) (choose : Given → Option Encoding) : Tool := fun self args =>
  let o : Options := {
    flags := ['d', 'i'] ++ names.map Prod.snd
    valued := ['w']
    names := [("decode", 'd'), ("ignore-garbage", 'i'), ("wrap", 'w')] ++ names }
  o.read self args 1 fun g => do
    let width := (g.value? 'w').getD "76"
    match ((g.values 'w').map natOf?).foldl (fun a b => a.bind fun _ => b) (natOf? "76") with
    | none =>
      complain self ("invalid wrap size: " ++ quoted (((g.values 'w').find? fun v => (natOf? v).isNone).getD width))
      return 1
    | some width =>
      let some e := choose g
        | return ← usage self "missing encoding type" 1
      match g.operands.tail.head? with
      | some extra => usage self ("extra operand " ++ quoted extra) 1
      | none =>
        let path := g.operands.headD "-"
        match ← readInput path with
        | .error fault =>
          complain self ((if fault = .isDirectory then "read error" else named path) ++ ": " ++ fault.wording)
          return 1
        | .ok content =>
          let cs := content.toList
          let decodes := g.has 'd'
          let kept := if !decodes then cs
            else cs.filter fun c =>
              c != '\n' && (!g.has 'i' || e.letters.contains c || (e.fills && c == '='))
          match e.refuses decodes kept.length with
          | some message =>
            complain self message
            return 1
          | none =>
            if decodes then
              let (bytes, ok) := e.decode e.letters kept
              say (String.ofList (bytes.map fun n => Char.ofNat (n % 256)))
              if ok then return 0
              complain self "invalid input"
              return 1
            else
              let letters := e.encode e.letters (cs.map Char.toNat)
              say (String.ofList (wrapLetters width (letters.length + 1) letters))
              return 0

/-- Writes bytes as letters for six bits. -/
def base64 : Tool := encoder [] fun _ => encodings.lookup "base64"

/-- Writes bytes as letters for five bits. -/
def base32 : Tool := encoder [] fun _ => encodings.lookup "base32"

/-- Writes bytes as letters of an encoding that is named. -/
def basenc : Tool :=
  let names := encodings.zipIdx.map fun (e, i) => (e.1, Char.ofNat (i + 1))
  encoder names fun g =>
    let last := g.options.reverse.find? fun o => names.any fun n => n.2 == o.1
    last.bind fun o => (names.find? fun n => n.2 == o.1).bind fun n => encodings.lookup n.1

end ClassLens.Tool
