import ClassLens.Shell.Floating
import ClassLens.Tool.Basic

/-! # Bytes as numbers

`od` shows bytes as characters or as numbers of one or several bytes, in rows with the place of each row.

* `Shown`: one way of showing bytes.
* `dumpRows`: the rows of some bytes. -/

namespace ClassLens.Tool

open Shell

/-! ### Ways of showing -/

/-- What bytes are shown as. -/
inductive ShownAs where
  | name
  | char
  | signed
  | unsigned
  | octal
  | hex
  | real
  deriving DecidableEq

/-- A way of showing bytes, so many at a time; with `texts` a row ends with its characters. -/
structure Shown where
  kind : ShownAs
  size : Nat
  texts : Bool := false

/-- A number in a base, filled up with zeros. -/
def digitsIn (base width : Nat) (n : Nat) : String :=
  let s := String.ofList (Nat.toDigits base n)
  String.ofList (List.replicate (width - s.length) '0') ++ s

/-- How many octal digits so many bytes take. -/
def octalWidth (size : Nat) : Nat := (8 * size + 2) / 3

/-- The width of one item, without the gap before it. -/
def Shown.width (k : Shown) : Nat :=
  match k.kind with
  | .name | .char => 3
  | .hex => 2 * k.size
  | .octal => octalWidth k.size
  | .unsigned => (toString (Nat.pow 2 (8 * k.size) - 1)).length
  | .signed => 1 + (toString (Nat.pow 2 (8 * k.size - 1))).length
  | .real => if k.size = 4 then 15 else if k.size = 8 then 24 else 29

/-- A byte as a character. -/
def shownChar (n : Nat) : String :=
  match n with
  | 0 => "\\0"
  | n =>
    match escapeLetter? (Char.ofNat n) with
    | some letter => String.ofList ['\\', letter]
    | none => if 32 ≤ n ∧ n < 127 then String.singleton (Char.ofNat n) else digitsIn 8 3 n

/-- The names of characters that are not shown as they are. -/
def controlNames : List String :=
  ["nul", "soh", "stx", "etx", "eot", "enq", "ack", "bel", "bs", "ht", "nl", "vt", "ff", "cr", "so", "si",
    "dle", "dc1", "dc2", "dc3", "dc4", "nak", "syn", "etb", "can", "em", "sub", "esc", "fs", "gs", "rs",
    "us", "sp"]

/-- A byte by its name, its highest bit left out. -/
def nameOfChar (n : Nat) : String :=
  let n := n % 128
  (controlNames[n]?).getD (if n = 127 then "del" else String.singleton (Char.ofNat n))

/-- Numbers of 32 bits, of which 24 hold the digits. -/
def singlePrecision : Precision := ⟨24, -149, 104⟩

/-- The number whose bits a whole number has, where `bits` of them are the digits after the first one. -/
def floatingOfBits (p : Precision) (size n : Nat) : Floating :=
  let fraction := n % Nat.pow 2 (p.bits - 1)
  let top := n / Nat.pow 2 (p.bits - 1)
  let limit := Nat.pow 2 (8 * size - p.bits)
  let negative := top ≥ limit
  let exponent := top % limit
  if exponent = limit - 1 then
    if fraction = 0 then .infinite negative else .undefined negative
  else if exponent = 0 then .finite negative fraction p.least
  else .finite negative (fraction + Nat.pow 2 (p.bits - 1)) (p.least + exponent - 1)

/-- The number of 80 bits whose bits a whole number has: its first digit is one of them. -/
def extendedOfBits (n : Nat) : Floating :=
  let m := n % Nat.pow 2 64
  let top := n / Nat.pow 2 64 % 65536
  let negative := top ≥ 32768
  let exponent := top % 32768
  let whole := m ≥ Nat.pow 2 63
  if exponent = 32767 then
    if m = Nat.pow 2 63 then .infinite negative else .undefined negative
  else if exponent = 0 then .finite negative m (-16445)
  else if whole then .finite negative m (exponent - 16446) else .undefined negative

/-- Whether two numbers are the same. -/
def sameReal : Floating → Floating → Bool
  | .finite p m e, .finite q n f =>
    let least := min e f
    let a := m * Nat.pow 2 (e - least).toNat
    let b := n * Nat.pow 2 (f - least).toNat
    a = b && (p == q || a = 0)
  | .infinite p, .infinite q => p == q
  | _, _ => false

/-- A number with as few digits as tell it from others, but no fewer than `least`. -/
def shortReal (p : Precision) (least most : Nat) (x : Floating) : String :=
  match x with
  | .infinite negative => if negative then "-inf" else "inf"
  | .undefined negative => if negative then "-nan" else "nan"
  | .finite negative m e =>
    let (d, x10) := Floating.decimalOf m e
    let text (digits : Nat) : String := (if negative then "-" else "") ++ Floating.general d x10 digits false
    let least := if Nat.log2 m + 1 < p.bits && e = p.least && m ≠ 0 then 1 else least
    let rec go : Nat → Nat → String
      | 0, digits => text digits
      | n + 1, digits =>
        if digits ≥ most || sameReal (Floating.read p (text digits).toList).1 x then text digits
        else go n (digits + 1)
    go most least

/-- One item, its lowest byte first. -/
def Shown.item (k : Shown) (bytes : List Nat) : String :=
  let n := bytes.reverse.foldl (fun n b => n * 256 + b) 0
  match k.kind with
  | .char => shownChar n
  | .name => nameOfChar n
  | .hex => digitsIn 16 (2 * k.size) n
  | .octal => digitsIn 8 (octalWidth k.size) n
  | .unsigned => toString n
  | .signed =>
    let half := Nat.pow 2 (8 * k.size - 1)
    if n ≥ half then "-" ++ toString (2 * half - n) else toString n
  | .real =>
    if k.size = 4 then shortReal singlePrecision 6 9 (floatingOfBits singlePrecision 4 n)
    else if k.size = 8 then shortReal .double 15 17 (floatingOfBits .double 8 n)
    else shortReal .extended 18 21 (extendedOfBits n)

/-! ### Reading ways of showing -/

/-- The size that stands after the letter of a way of showing, and what follows. -/
def readSize (letters : List (Char × Nat)) (usual : Nat) (s : List Char) : Nat × List Char :=
  match s with
  | c :: rest =>
    match letters.lookup c with
    | some n => (n, rest)
    | none =>
      let ds := s.takeWhile Char.isDigit
      if ds.isEmpty then (usual, s) else (digitValue 10 ds, s.drop ds.length)
  | [] => (usual, [])

/-- The ways of showing that a text names, or what is wrong with it. -/
def readShown (whole : String) : Nat → List Char → Except String (List Shown)
  | 0, _ => .ok []
  | _, [] => .ok []
  | n + 1, c :: rest => do
    let kinds : List (Char × ShownAs) :=
      [('a', .name), ('c', .char), ('d', .signed), ('u', .unsigned), ('o', .octal), ('x', .hex), ('f', .real)]
    let some kind := kinds.lookup c
      | throw ("invalid character " ++ quoted (String.singleton c) ++ " in type string " ++ quoted whole)
    let (size, rest) ←
      if kind = .name ∨ kind = .char then pure (1, rest)
      else if kind = .real then
        let (size, rest) := readSize [('F', 4), ('D', 8), ('L', 16)] 8 rest
        if [4, 8, 16].contains size then pure (size, rest)
        else throw (sizeFault "floating point" size)
      else
        let (size, rest) := readSize [('C', 1), ('S', 2), ('I', 4), ('L', 8)] 4 rest
        if [1, 2, 4, 8].contains size then pure (size, rest)
        else throw (sizeFault "integral" size)
    let (texts, rest) := match rest with
      | 'z' :: rest => (true, rest)
      | rest => (false, rest)
    return ⟨kind, size, texts⟩ :: (← readShown whole n rest)
where
  /-- What is said of a size that there is not. -/
  sizeFault (what : String) (size : Nat) : String :=
    "invalid type string " ++ quoted whole ++ ";\nthis system doesn't provide a " ++ toString size ++
      "-byte " ++ what ++ " type"

/-- The ways of showing that stand for single letters. -/
def oldLetters : List (Char × Shown) :=
  [('a', ⟨.name, 1, false⟩), ('b', ⟨.octal, 1, false⟩), ('B', ⟨.octal, 2, false⟩), ('c', ⟨.char, 1, false⟩),
    ('D', ⟨.unsigned, 4, false⟩), ('d', ⟨.unsigned, 2, false⟩), ('e', ⟨.real, 8, false⟩),
    ('F', ⟨.real, 8, false⟩), ('f', ⟨.real, 4, false⟩), ('h', ⟨.hex, 2, false⟩), ('H', ⟨.hex, 4, false⟩),
    ('i', ⟨.signed, 4, false⟩), ('I', ⟨.signed, 8, false⟩), ('l', ⟨.signed, 8, false⟩),
    ('L', ⟨.signed, 8, false⟩), ('o', ⟨.octal, 2, false⟩), ('O', ⟨.octal, 4, false⟩),
    ('s', ⟨.signed, 2, false⟩), ('x', ⟨.hex, 2, false⟩), ('X', ⟨.hex, 4, false⟩)]

/-! ### Rows -/

/-- How rows are written. -/
structure Dump where
  kinds : List Shown
  width : Nat
  highFirst : Bool
  repeats : Bool
  address : Nat → String

/-- The bytes of a row in groups, the last of which is filled up with zeros. -/
def groupsOf (size : Nat) : Nat → List Nat → List (List Nat)
  | 0, _ => []
  | n + 1, bytes =>
    if bytes.isEmpty then []
    else
      let group := bytes.take size
      (group ++ List.replicate (size - group.length) 0) :: groupsOf size n (bytes.drop size)

/-- The columns of a row that one way of showing leaves for gaps. -/
def Dump.gaps (d : Dump) (k : Shown) : Nat :=
  let widest := d.kinds.foldl (fun n k => max n ((k.width + 1) * (d.width / k.size))) 0
  widest - k.width * (d.width / k.size)

/-- A row in one way. -/
def Dump.row (d : Dump) (k : Shown) (bytes : List Nat) : String :=
  let fields := d.width / k.size
  let blank := (d.width - bytes.length) / k.size
  let gaps := d.gaps k
  let groups := groupsOf k.size (bytes.length + 1) bytes
  let items := groups.zipIdx.map fun (group, i) =>
    let left := gaps * (fields - i) / fields
    let next := gaps * (fields - i - 1) / fields
    padLeft (left - next + k.width) (k.item (if d.highFirst then group.reverse else group))
  let texts := if !k.texts then ""
    else
      String.ofList (List.replicate (blank * k.width + gaps * blank / fields) ' ') ++ "  >" ++
        String.ofList (bytes.map fun n => if 32 ≤ n ∧ n < 127 then Char.ofNat n else '.') ++ "<"
  String.join items ++ texts

/-- The rows of bytes from a place on. -/
def Dump.rows (d : Dump) : Nat → Nat → Option (List Nat) → Bool → List Nat → String → String
  | 0, _, _, _, _, out => out
  | n + 1, place, before, starred, bytes, out =>
    if bytes.isEmpty then out
    else
      let row := bytes.take d.width
      let rest := bytes.drop d.width
      if !d.repeats && before == some row then
        d.rows n (place + row.length) before true rest (if starred then out else out ++ "*\n")
      else
        let address := d.address place
        let gap := String.ofList (List.replicate address.length ' ')
        let text := String.join (d.kinds.zipIdx.map fun (k, i) =>
          (if i = 0 then address else gap) ++ d.row k row ++ "\n")
        d.rows n (place + row.length) (some row) false rest (out ++ text)

/-! ### The program -/

/-- A number in any base that its start says, with a unit. -/
def countOf? (s : String) : Option Nat :=
  let cs := s.toList
  let (base, isDigit, body) : Nat × (Char → Bool) × List Char := match cs with
    | '0' :: x :: rest => if x == 'x' || x == 'X' then (16, isHex, rest) else (8, isOctal, cs)
    | _ => (10, Char.isDigit, cs)
  let ds := body.takeWhile isDigit
  if ds.isEmpty then none
  else (unit? (String.ofList (body.drop ds.length))).map fun u => digitValue base ds * u

/-- Rows of characters that can be shown, of some length and more, each before a zero byte. -/
def stringsIn (least : Nat) (bytes : List Nat) (place : Nat) : List (Nat × String) :=
  let step := fun (s : List (Nat × String) × List Nat × Nat) (n : Nat) =>
    let (found, run, place) := s
    if 32 ≤ n ∧ n < 127 then (found, n :: run, place + 1)
    else if n = 0 && run.length ≥ least then
      ((place - run.length, String.ofList (run.reverse.map Char.ofNat)) :: found, [], place + 1)
    else (found, [], place + 1)
  (bytes.foldl step ([], [], place)).1.reverse

/-- The options of `od`. -/
def dumpOptions : Options := {
  flags := 'v' :: oldLetters.map Prod.fst
  valued := ['A', 't', 'N', 'j', 'S', '\x01']
  optional := ['w', '\x02']
  names := [("address-radix", 'A'), ("format", 't'), ("read-bytes", 'N'), ("skip-bytes", 'j'),
    ("width", 'w'), ("output-duplicates", 'v'), ("strings", '\x02'), ("endian", '\x01')] }

/-- What is wrong with an option. -/
def dumpFault? (o : Char × String) : Option String :=
  match o.1 with
  | 'A' =>
    let c := o.2.toList.headD ' '
    if "doxn".toList.contains c then none
    else some ("invalid output address radix " ++ quoted (String.singleton c) ++
      "; it must be one character from [doxn]")
  | 't' =>
    match readShown o.2 (o.2.length + 1) o.2.toList with
    | .ok _ => none
    | .error e => some e
  | 'j' | 'N' | 'w' | 'S' | '\x02' =>
    if (o.1 == 'w' || o.1 == '\x02') && o.2 = "" then none
    else if (countOf? o.2).isSome then none
    else
      let name := if o.1 == '\x02' then "--strings" else "-" ++ String.singleton o.1
      some ("invalid " ++ name ++ " argument " ++ quoted o.2)
  | _ => none

/-- Shows bytes as numbers. -/
def od : Tool := fun self args =>
  dumpOptions.read self args 1 fun g => do
    let orders : List (String × Bool) := [("little", false), ("big", true)]
    for o in g.options do
      if let some e := dumpFault? o then
        complain self e
        return 1
      if o.1 == '\x01' && (wordOf? orders o.2).isNone then
        return ← refuseWord self "--endian" o.2 orders 1
    let kinds := g.options.flatMap fun o =>
      match oldLetters.lookup o.1 with
      | some k => [k]
      | none => if o.1 == 't' then (readShown o.2 (o.2.length + 1) o.2.toList).toOption.getD [] else []
    let forTexts := g.has 'S' || g.has '\x02'
    if forTexts && !kinds.isEmpty then
      complain self "no type may be specified when dumping strings"
      return 1
    let kinds := if kinds.isEmpty then [⟨.octal, 2, false⟩] else kinds
    let (content, status) ← gather self g.operands
    let skipped := ((g.value? 'j').bind countOf?).getD 0
    if skipped > content.length then
      complain self "cannot skip past end of combined input"
      return 1
    let bytes := (content.toList.drop skipped).map Char.toNat
    let bytes := match (g.value? 'N').bind countOf? with
      | some n => bytes.take n
      | none => bytes
    let address (n : Nat) : String :=
      match (g.value? 'A').map fun s => s.toList.headD 'o' with
      | some 'n' => ""
      | some 'x' => digitsIn 16 6 n
      | some 'd' => digitsIn 10 7 n
      | _ => digitsIn 8 7 n
    if forTexts then
      let given := g.options.reverse.find? fun o => o.1 == 'S' || o.1 == '\x02'
      let least := (given.bind fun o => countOf? o.2).getD 3
      for (place, s) in stringsIn least bytes skipped do
        say ((if g.value? 'A' == some "n" then "" else address place ++ " ") ++ s ++ "\n")
      return status
    let unit := kinds.foldl (fun n k => Nat.lcm n k.size) 1
    let usual := if unit < 16 then unit * (16 / unit) else unit
    let wanted := (g.value? 'w').map fun s => if s = "" then 32 else (countOf? s).getD 0
    let width := match wanted with
      | none => usual
      | some n => if 0 < n ∧ n % unit = 0 then n else unit
    if let some n := wanted then
      if !(0 < n && n % unit = 0) then
        complain self ("warning: invalid width " ++ toString n ++ "; using " ++ toString unit ++ " instead")
    let highFirst := ((g.value? '\x01').bind (wordOf? orders)).getD false
    let d : Dump := { kinds, width, highFirst, repeats := g.has 'v', address }
    let last : String := address (skipped + bytes.length)
    let text : String := d.rows (bytes.length + 1) skipped none false bytes ""
    say (text ++ (if last.isEmpty then "" else last ++ "\n"))
    return status

end ClassLens.Tool
