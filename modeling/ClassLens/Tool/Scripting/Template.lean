import ClassLens.Tool.Scripting.Value

/-! # Bytes by templates

Values as rows of bytes that a template describes, and back.

* `Template.read`: the pieces of a template.
* `Template.pack`, `Template.unpack`: values as bytes, and bytes as values. -/

namespace ClassLens.Tool.Scripting.Template

open Shell (digitValue)
open Shell.Floating (hexDigit)

/-- How often something stands. -/
inductive Count where
  /-- Once, since nothing is said. -/
  | once
  | times (n : Nat)
  /-- As often as there is something for it. -/
  | all
  deriving DecidableEq

/-- A piece of a template. -/
inductive Piece where
  /-- A letter, whether its numbers have their greatest byte first if that is said, and whether a sign for another
  width follows it. -/
  | one (letter : Char) (greatFirst : Option Bool) (marked : Bool) (count : Count)
  | group (body : List Piece) (count : Count)
  /-- What the first piece gives is how often the second one stands. -/
  | counted (number body : Piece)
  /-- The sum of what the piece gives, in so many bits. -/
  | sum (bits : Nat) (body : Piece)

instance : Inhabited Piece := ⟨.one 'x' none false .once⟩

/-- How often a piece stands, where nothing else counts it. -/
def Count.number (c : Count) (most : Nat) : Nat :=
  match c with
  | .once => 1
  | .times n => n
  | .all => most

/-- Passes over blanks and comments. -/
def skipBlanks : Nat → List Char → List Char
  | 0, s => s
  | n + 1, s =>
    match s with
    | '#' :: rest => skipBlanks n (rest.dropWhile (· != '\n'))
    | c :: rest => if Records.isSpace c then skipBlanks n rest else s
    | [] => []

/-- The count after a letter. -/
def readCount (s : List Char) : Count × List Char :=
  match s with
  | '*' :: rest => (.all, rest)
  | '[' :: rest =>
    let ds := rest.takeWhile (· != ']')
    (.times (if ds.all Char.isDigit then digitValue 10 ds else 1), rest.drop (ds.length + 1))
  | s =>
    let ds := s.takeWhile Char.isDigit
    if ds.isEmpty then (.once, s) else (.times (digitValue 10 ds), s.drop ds.length)

/-- The letters of templates. -/
def letters : List Char := "aAZbBhHcCWUsSlLqQjJfdFDpPuwxX@.nNvViI".toList

/-- The pieces of a template up to its end or to the parenthesis that closes it; the letter that is none is told
of. -/
def readPieces (command : String) : Nat → List Char → Except String (List Piece × List Char)
  | 0, s => .ok ([], s)
  | n + 1, s =>
    match skipBlanks (s.length + 1) s with
    | [] => .ok ([], [])
    | ')' :: rest => .ok ([], rest)
    | c :: rest => do
      let (piece, rest) ← readPiece command n c rest
      -- a slash makes the piece before it a count
      let rest := skipBlanks (rest.length + 1) rest
      match rest with
      | '/' :: more =>
        match skipBlanks (more.length + 1) more with
        | d :: more =>
          let (body, rest) ← readPiece command n d more
          let (pieces, rest) ← readPieces command n rest
          return (.counted piece body :: pieces, rest)
        | [] => throw ("Code missing after '/' in " ++ command)
      | rest =>
        let (pieces, rest) ← readPieces command n rest
        return (piece :: pieces, rest)
where
  /-- One piece after its first letter. -/
  readPiece (command : String) : Nat → Char → List Char → Except String (Piece × List Char)
    | 0, c, s => .ok (.one c none false .once, s)
    | n + 1, c, s => do
      if c == '(' then
        let (body, rest) ← readPieces command n s
        let (count, rest) := readCount rest
        return (.group body count, rest)
      else if c == '%' then
        let (count, rest) := readCount s
        match skipBlanks (rest.length + 1) rest with
        | d :: rest =>
          let (body, rest) ← readPiece command n d rest
          return (.sum (match count with
            | .times bits => bits
            | _ => 16) body, rest)
        | [] => throw "'%' may not be used in pack"
      else if !letters.contains c then
        throw ("Invalid type '" ++ String.singleton c ++ "' in " ++ command)
      else
        let marks := s.takeWhile fun d => d == '<' || d == '>' || d == '!'
        let order := marks.findSome? fun d =>
          if d == '>' then some true else if d == '<' then some false else none
        let (count, rest) := readCount (s.drop marks.length)
        return (.one c order (marks.contains '!') count, rest)

/-- The pieces of a template. -/
def read (command template : String) : Except String (List Piece) :=
  (readPieces command (2 * template.length + 4) template.toList).map Prod.fst

/-! ### Numbers -/

/-- The bytes of a number, the greatest one first, or last. -/
def numberBytes (count : Nat) (greatFirst : Bool) (n : Int) : List Char :=
  let n := (n % Int.ofNat (Nat.pow 256 count)).toNat
  let small := (List.range count).map fun i => Char.ofNat (n / Nat.pow 256 i % 256)
  if greatFirst then small.reverse else small

/-- The number of some bytes. -/
def bytesNumber (greatFirst : Bool) (bs : List Char) : Nat :=
  (if greatFirst then bs else bs.reverse).foldl (fun n c => n * 256 + c.toNat) 0

/-- How many bytes a number takes for a letter, whether the greatest one usually stands first, and whether it may
be negative. -/
def width? (marked : Bool) : Char → Option (Nat × Bool × Bool)
  | 'c' => some (1, false, true)
  | 'C' => some (1, false, false)
  | 'n' => some (2, true, marked)
  | 'v' => some (2, false, marked)
  | 's' => some (2, false, true)
  | 'S' => some (2, false, false)
  | 'N' => some (4, true, marked)
  | 'V' => some (4, false, marked)
  | 'l' => some (if marked then 8 else 4, false, true)
  | 'L' => some (if marked then 8 else 4, false, false)
  | 'i' => some (4, false, true)
  | 'I' => some (4, false, false)
  | 'q' | 'j' => some (8, false, true)
  | 'Q' | 'J' => some (8, false, false)
  | _ => none

/-- A number in rows of seven bits, of which all but the last one have an eighth bit. -/
def sevenBits (n : Nat) : List Char :=
  let rec go : Nat → Nat → List Char → List Char
    | 0, _, done => done
    | fuel + 1, n, done =>
      let done := Char.ofNat (n % 128 + (if done.isEmpty then 0 else 128)) :: done
      if n < 128 then done else go fuel (n / 128) done
  go (Nat.log2 n + 2) n []

/-- The bytes of a number with a point. -/
def realBytes (letter : Char) (greatFirst : Bool) (x : Float) : List Char :=
  if letter == 'f' then numberBytes 4 greatFirst x.toFloat32.toBits.toNat
  else numberBytes 8 greatFirst x.toBits.toNat

/-- The number with a point of some bytes. -/
def bytesReal (letter : Char) (greatFirst : Bool) (bs : List Char) : Float :=
  let n := bytesNumber greatFirst bs
  if letter == 'f' then (Float32.ofBits (UInt32.ofNat n)).toFloat else Float.ofBits (UInt64.ofNat n)

/-! ### Packing -/

/-- The value of a digit of another base; letters have the value of their last bits. -/
def digitBits (c : Char) : Nat := if c.isAlpha then (c.toNat + 9) % 16 else c.toNat % 16

/-- Bytes by hexadecimal digits. -/
def hexBytes (greatFirst : Bool) : List Char → List Char
  | a :: b :: s =>
    let (x, y) := (digitBits a, digitBits b)
    Char.ofNat (if greatFirst then x * 16 + y else y * 16 + x) :: hexBytes greatFirst s
  | [a] => [Char.ofNat (if greatFirst then digitBits a * 16 else digitBits a)]
  | [] => []

/-- Bytes by binary digits, eight at a time. -/
def bitBytes (greatFirst : Bool) : Nat → List Char → List Char
  | 0, _ => []
  | _ + 1, [] => []
  | fuel + 1, s =>
    let row := (s.take 8).map fun c => if c.toNat % 2 = 1 then '1' else '0'
    let row := row ++ List.replicate (8 - row.length) '0'
    Char.ofNat (digitValue 2 (if greatFirst then row else row.reverse)) :: bitBytes greatFirst fuel (s.drop 8)

/-- A byte of six bits as a character that can be shown. -/
def shownSix (n : Nat) : Char := if n % 64 = 0 then '\x60' else Char.ofNat (n % 64 + 32)

/-- Bytes as lines of characters that can be shown, which start with their length. -/
def shownLines (perLine : Nat) : Nat → List Char → List Char
  | 0, _ => []
  | _ + 1, [] => []
  | fuel + 1, s =>
    let row := s.take perLine
    let rec go : List Char → List Char
      | [] => []
      | a :: rest =>
        let b := rest.headD '\x00'
        let c := rest.tail.headD '\x00'
        let n := a.toNat * 65536 + b.toNat * 256 + c.toNat
        shownSix (n / 262144) :: shownSix (n / 4096) :: shownSix (n / 64) :: shownSix n :: goOn rest
    -- two more bytes belong to those that were taken
    shownSix row.length :: go row ++ '\n' :: shownLines perLine fuel (s.drop perLine)
where
  /-- The rows after the next two bytes. -/
  goOn : List Char → List Char
    | _ :: _ :: a :: rest =>
      let b := rest.headD '\x00'
      let c := rest.tail.headD '\x00'
      let n := a.toNat * 65536 + b.toNat * 256 + c.toNat
      shownSix (n / 262144) :: shownSix (n / 4096) :: shownSix (n / 64) :: shownSix n :: goOn rest
    | _ => []

/-- Values as bytes that pieces describe, after those that are there; what is left of the values, and whether
something is wrong. -/
def pack : Nat → List Piece → List Value → List Char → Except String (List Char × List Value)
  | 0, _, vs, done => .ok (done, vs)
  | _ + 1, [], vs, done => .ok (done, vs)
  | fuel + 1, piece :: rest, vs, done => do
    match piece with
    | .group body count =>
      let n := count.number vs.length
      let turn (state : List Char × List Value) (_ : Nat) : Except String (List Char × List Value) := do
        if state.2.isEmpty && count = .all then return state
        let (bytes, vs) ← pack fuel body state.2 []
        return (state.1 ++ bytes, vs)
      let (done, vs) ← (List.range n).foldlM turn (done, vs)
      pack fuel rest vs done
    | .sum .. => throw "'%' may not be used in pack"
    | .counted number body =>
      match body with
      | .one letter order marked count =>
        if "aAZ".toList.contains letter then
          let text := (vs.headD .undefined).toText
          let text := match count with
            | .times n => (text.take n).toString
            | _ => text
          let size := text.length + (if letter == 'Z' && count ≠ .all then 0 else if letter == 'Z' then 1 else 0)
          let (lead, _) ← pack fuel [number] [.ofNat size] []
          let tail := if letter == 'Z' && count = .all then ['\x00'] else []
          pack fuel rest vs.tail (done ++ lead ++ text.toList ++ tail)
        else
          let n := match count with
            | .times n => min n vs.length
            | _ => vs.length
          let (lead, _) ← pack fuel [number] [.ofNat n] []
          let (bytes, vs) ← pack fuel [.one letter order marked (.times n)] vs []
          pack fuel rest vs (done ++ lead ++ bytes)
      | .group inner count =>
        let n := count.number vs.length
        let (lead, _) ← pack fuel [number] [.ofNat n] []
        let (bytes, vs) ← pack fuel [.group inner (.times n)] vs []
        pack fuel rest vs (done ++ lead ++ bytes)
      | _ => throw "'/' must follow a numeric type in unpack"
    | .one letter order marked count =>
      let text := ((vs.headD .undefined).toText).toList
      let filled (filler : Char) : List Char :=
        let n := count.number text.length
        text.take n ++ List.replicate (n - text.length) filler
      let go (bytes : List Char) (vs : List Value) : Except String (List Char × List Value) :=
        pack fuel rest vs (done ++ bytes)
      match letter with
      | 'a' => go (filled '\x00') vs.tail
      | 'A' => go (filled ' ') vs.tail
      | 'Z' =>
        match count with
        | .all => go (text ++ ['\x00']) vs.tail
        | count =>
          let n := count.number 1
          let kept := text.take (n - 1)
          go (kept ++ List.replicate (n - kept.length) '\x00') vs.tail
      | 'H' | 'h' =>
        let n := count.number text.length
        let digits := text.take n
        go (hexBytes (letter == 'H') (digits ++ List.replicate (n - digits.length) '0')) vs.tail
      | 'B' | 'b' =>
        let n := count.number text.length
        let digits := text.take n
        go (bitBytes (letter == 'B') (n + 1) (digits ++ List.replicate (n - digits.length) '0')) vs.tail
      | 'x' =>
        if marked then
          let n := max (count.number 1) 1
          go (List.replicate ((n - done.length % n) % n) '\x00') vs
        else go (List.replicate (count.number 0) '\x00') vs
      | 'X' =>
        let n := if marked then done.length % max (count.number 1) 1 else count.number 0
        if done.length < n then throw "'X' outside of string in pack"
        pack fuel rest vs (done.take (done.length - n))
      | '@' =>
        let n := count.number 0
        pack fuel rest vs (done.take n ++ List.replicate (n - done.length) '\x00')
      | '.' =>
        let n := (vs.headD .undefined).toInt.toNat
        pack fuel rest vs.tail (done.take n ++ List.replicate (n - done.length) '\x00')
      | 'u' =>
        let perLine := match count with
          | .times n => if n ≤ 2 then 45 else min (n / 3 * 3) 63
          | _ => 45
        go (shownLines perLine (text.length + 1) text) vs.tail
      | letter =>
        let n := count.number vs.length
        let some_ := vs.take n ++ List.replicate (n - vs.length) Value.undefined
        match letter, width? marked letter with
        | 'U', _ | 'W', _ => go (some_.map fun v => Char.ofNat v.toInt.toNat) (vs.drop n)
        | 'w', _ =>
          if some_.any fun v => v.toInt < 0 then throw "Cannot compress negative numbers in pack"
          go (some_.flatMap fun v => sevenBits v.toInt.toNat) (vs.drop n)
        | 'f', _ | 'd', _ | 'F', _ | 'D', _ =>
          go (some_.flatMap fun v => realBytes letter (order.getD false) v.toNumeric.toFloat) (vs.drop n)
        | _, some (width, greatFirst, _) =>
          go (some_.flatMap fun v => numberBytes width (order.getD greatFirst) v.toInt) (vs.drop n)
        | _, none => go [] vs

/-! ### Unpacking -/

/-- Numbers of so many bytes each. -/
def readNumbers (width : Nat) (value : List Char → Value) : Nat → List Char → List Value × List Char
  | 0, s => ([], s)
  | n + 1, s =>
    if s.length < width || width = 0 then ([], s)
    else
      let (vs, rest) := readNumbers width value n (s.drop width)
      (value (s.take width) :: vs, rest)

/-- Numbers in rows of seven bits. -/
def readSevenBits : Nat → List Char → List Value × List Char
  | 0, s => ([], s)
  | n + 1, s =>
    if s.isEmpty then ([], [])
    else
      let lead := s.takeWhile fun c => c.toNat ≥ 128
      let all := lead ++ (s.drop lead.length).take 1
      let value := all.foldl (fun n c => n * 128 + c.toNat % 128) 0
      let (vs, rest) := readSevenBits n (s.drop all.length)
      (.ofNat value :: vs, rest)

/-- The bytes of lines of characters that can be shown. -/
def hiddenLines : Nat → List Char → List Char
  | 0, _ => []
  | fuel + 1, s =>
    match s with
    | [] => []
    | c :: rest =>
      let size := (c.toNat - 32) % 64
      let row := rest.takeWhile (· != '\n')
      let six (c : Char) : Nat := (c.toNat - 32) % 64
      let rec go : List Char → List Char
        | a :: b :: c :: d :: more =>
          let n := six a * 262144 + six b * 4096 + six c * 64 + six d
          Char.ofNat (n / 65536 % 256) :: Char.ofNat (n / 256 % 256) :: Char.ofNat (n % 256) :: go more
        | _ => []
      (go row).take size ++ hiddenLines fuel (rest.drop (row.length + 1))

/-- Bytes as values that pieces describe: `all` is the text, and `s` what is left of it. -/
def unpack (all : List Char) : Nat → List Piece → List Char → Except String (List Value × List Char)
  | 0, _, s => .ok ([], s)
  | _ + 1, [], s => .ok ([], s)
  | fuel + 1, piece :: rest, s => do
    let go (vs : List Value) (s : List Char) : Except String (List Value × List Char) := do
      let (more, s) ← unpack all fuel rest s
      return (vs ++ more, s)
    match piece with
    | .group body count =>
      let n := count.number s.length
      let turn (state : List Value × List Char) (_ : Nat) : Except String (List Value × List Char) := do
        if state.2.isEmpty && count = .all then return state
        let (vs, s) ← unpack state.2 fuel body state.2
        return (state.1 ++ vs, s)
      let (vs, s) ← (List.range n).foldlM turn ([], s)
      go vs s
    | .sum bits body =>
      let (vs, s) ← unpack all fuel [match body with
        | .one letter order marked count => .one letter order marked count
        | body => body] s
      let digits : Nat := match body with
        | .one 'b' .. | .one 'B' .. => ((vs.headD .undefined).toText.toList.filter (· == '1')).length
        | _ => 0
      let total : Int := if digits > 0 then digits else vs.foldl (fun (n : Int) v => n + v.toInt) 0
      let total := if bits < 64 then total % Int.ofNat (Nat.pow 2 bits) else total
      go [.ofInt total] s
    | .counted number body =>
      let (vs, s) ← unpack all fuel [number] s
      match vs with
      | [] => return ([], s)
      | v :: _ =>
        let n := v.toInt.toNat
        let (vs, s) ← unpack all fuel [match body with
          | .one letter order marked _ => .one letter order marked (.times n)
          | .group inner _ => .group inner (.times n)
          | body => body] s
        go vs s
    | .one letter order marked count =>
      let text (n : Nat) (f : List Char → List Char) : Except String (List Value × List Char) :=
        go [.text (String.ofList (f (s.take n)))] (s.drop n)
      match letter with
      | 'a' => text (count.number s.length) id
      | 'A' =>
        text (count.number s.length) fun t => (t.reverse.dropWhile fun c => Records.isSpace c || c == '\x00').reverse
      | 'Z' =>
        match count with
        | .all =>
          let kept := s.takeWhile (· != '\x00')
          go [.text (String.ofList kept)] (s.drop (kept.length + 1))
        | count => text (count.number 1) fun t => t.takeWhile (· != '\x00')
      | 'H' | 'h' =>
        let n := min (count.number (2 * s.length)) (2 * s.length)
        let digits (b : Char) : List Char :=
          let (x, y) := (hexDigit (b.toNat / 16 % 16), hexDigit (b.toNat % 16))
          if letter == 'H' then [x, y] else [y, x]
        go [.text (String.ofList ((s.flatMap digits).take n))] (s.drop ((n + 1) / 2))
      | 'B' | 'b' =>
        let n := min (count.number (8 * s.length)) (8 * s.length)
        let digits (b : Char) : List Char :=
          let row := (List.range 8).map fun i => if b.toNat / Nat.pow 2 i % 2 = 1 then '1' else '0'
          if letter == 'B' then row.reverse else row
        go [.text (String.ofList ((s.flatMap digits).take n))] (s.drop ((n + 7) / 8))
      | 'x' =>
        let place := all.length - s.length
        let n := if marked then
            let unit := max (count.number 1) 1
            (unit - place % unit) % unit
          else count.number s.length
        if s.length < n then throw "'x' outside of string in unpack"
        go [] (s.drop n)
      | 'X' =>
        let place := all.length - s.length
        let n := if marked then place % max (count.number 1) 1 else count.number 0
        if place < n then throw "'X' outside of string in unpack"
        go [] (all.drop (place - n))
      | '@' =>
        let n := count.number 0
        if all.length < n then throw "'@' outside of string in unpack"
        go [] (all.drop n)
      | '.' => go [.ofNat (all.length - s.length)] s
      | 'u' => go [.text (String.ofList (hiddenLines (s.length + 1) s))] []
      | 'U' | 'W' =>
        let n := count.number s.length
        go ((s.take n).map fun c => Value.ofNat c.toNat) (s.drop n)
      | 'w' =>
        let (vs, s) := readSevenBits (count.number s.length) s
        go vs s
      | 'f' | 'd' | 'F' | 'D' =>
        let width := if letter == 'f' then 4 else 8
        let (vs, s) := readNumbers width (fun bs => .number (.real (bytesReal letter (order.getD false) bs)))
          (count.number s.length) s
        go vs s
      | letter =>
        match width? marked letter with
        | some (width, greatFirst, isSigned) =>
          let value (bs : List Char) : Value :=
            let n := bytesNumber (order.getD greatFirst) bs
            let half := Nat.pow 256 width / 2
            if isSigned && n ≥ half then .ofInt ((n : Int) - 2 * half) else .ofNat n
          let (vs, s) := readNumbers width value (count.number s.length) s
          go vs s
        | none => go [] s

/-- Values as the bytes of a template. -/
def packed (template : String) (vs : List Value) : Except String String := do
  let pieces ← read "pack" template
  let (bytes, _) ← pack (4 * template.length + 64) pieces vs []
  return String.ofList bytes

/-- The values of bytes by a template. -/
def unpacked (template text : String) : Except String (List Value) := do
  let pieces ← read "unpack" template
  let (vs, _) ← unpack text.toList (4 * template.length + 64) pieces text.toList
  return vs

end ClassLens.Tool.Scripting.Template
