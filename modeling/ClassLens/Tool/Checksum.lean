import ClassLens.Tool.Basic
import ClassLens.Tool.Checksum.Digest

/-! # Checksums

`cksum`, `sum`, `md5sum` and its like write digests of files, and look whether files still have the digests
that a list says.

* `Checksum`: a kind of digest by its name.
* `checksums`: the program of a kind. -/

namespace ClassLens.Tool

open Shell

/-- A kind of digest. -/
structure Checksum where
  /-- The word for it as an argument, and its name in tagged lines. -/
  word : String
  label : String
  /-- How many bytes it has at most, and whether it can have less. -/
  size : Nat
  isVariable : Bool := false
  compute : Nat → List UInt8 → List UInt8

/-- The kinds of digests that are written as hexadecimal digits. -/
def checksumKinds : List Checksum :=
  [⟨"md5", "MD5", 16, false, fun _ => md5⟩, ⟨"sha1", "SHA1", 20, false, fun _ => sha1⟩,
    ⟨"sha224", "SHA224", 28, false, fun _ => sha224⟩, ⟨"sha256", "SHA256", 32, false, fun _ => sha256⟩,
    ⟨"sha384", "SHA384", 48, false, fun _ => sha384⟩, ⟨"sha512", "SHA512", 64, false, fun _ => sha512⟩,
    ⟨"blake2b", "BLAKE2b", 64, true, blake2b⟩]

/-- The kind of a word. -/
def checksumOf? (word : String) : Option Checksum := checksumKinds.find? fun k => k.word == word

/-- Bytes as hexadecimal digits. -/
def hexOf (bytes : List UInt8) : String :=
  String.join (bytes.map fun b => String.ofList [hexDigitOf (b.toNat / 16), hexDigitOf (b.toNat % 16)])
where
  /-- The digit of a number. -/
  hexDigitOf (n : Nat) : Char := Char.ofNat (if n < 10 then 48 + n else 87 + n)

/-- The label of a digest of so many bytes. -/
def Checksum.labelFor (k : Checksum) (size : Nat) : String :=
  if size = k.size then k.label else k.label ++ "-" ++ toString (8 * size)

/-- A name with its breaks and backslashes as escapes, and whether it has any. -/
def escapedName (name : String) : String × Bool :=
  let cs := name.toList
  if cs.any fun c => c == '\\' || c == '\n' || c == '\r' then
    (String.ofList (cs.flatMap fun c =>
      if c == '\\' then ['\\', '\\'] else if c == '\n' then ['\\', 'n']
      else if c == '\r' then ['\\', 'r'] else [c]), true)
  else (name, false)

/-- How digests are written. -/
structure ChecksumStyle where
  tagged : Bool
  binary : Bool := false
  zeros : Bool := false

/-- The line of a file. -/
def ChecksumStyle.line (s : ChecksumStyle) (label digest name : String) : String :=
  let (shown, escaped) := if s.zeros then (name, false) else escapedName name
  (if escaped then "\\" else "") ++
    (if s.tagged then label ++ " (" ++ shown ++ ") = " ++ digest
      else digest ++ (if s.binary then " *" else "  ") ++ shown) ++
    (if s.zeros then "\x00" else "\n")

/-! ### Looking at lists -/

/-- A line of a list: the name of a file, its kind if the line says it, and its digest. -/
structure ListedFile where
  name : String
  kind : Option (Checksum × Nat)
  digest : String

/-- A name without escapes, if they are right. -/
def unescapedName? : List Char → Option (List Char)
  | [] => some []
  | '\\' :: 'n' :: rest => (unescapedName? rest).map ('\n' :: ·)
  | '\\' :: 'r' :: rest => (unescapedName? rest).map ('\r' :: ·)
  | '\\' :: '\\' :: rest => (unescapedName? rest).map ('\\' :: ·)
  | '\\' :: _ => none
  | c :: rest => (unescapedName? rest).map (c :: ·)

/-- The kind and size of a label. -/
def labelled? (label : String) : Option (Checksum × Nat) :=
  checksumKinds.findSome? fun k =>
    if label == k.label then some (k, k.size)
    else if k.isVariable && label.startsWith (k.label ++ "-") then
      match natOf? (label.drop (k.label.length + 1)).toString with
      | some bits => if bits % 8 = 0 ∧ 0 < bits ∧ bits ≤ 8 * k.size then some (k, bits / 8) else none
      | none => none
    else none

/-- The place of the last closing parenthesis before an equals sign, as the parts around it. -/
def splitTagged? (s : List Char) : Option (List Char × List Char) :=
  let indices := (List.range s.length).reverse.filter fun i => s[i]? == some ')'
  indices.head?.bind fun i =>
    match (s.drop (i + 1)).dropWhile (· == ' ') with
    | '=' :: rest => some (s.take i, rest.dropWhile (· == ' '))
    | _ => none

/-- Reads a line of a list; `own` is the kind that lines without a label have. -/
def readListed? (own : Option Checksum) (line : String) : Option ListedFile :=
  let cs := line.toList.dropWhile fun c => c == ' ' || c == '\t'
  let (escaped, cs) := match cs with
    | '\\' :: rest => (true, rest)
    | cs => (false, cs)
  let named (name : List Char) : Option String :=
    if escaped then (unescapedName? name).map String.ofList else some (String.ofList name)
  let isHex (s : List Char) : Bool :=
    s.all fun c => c.isDigit || ('a' ≤ c && c ≤ 'f') || ('A' ≤ c && c ≤ 'F')
  let label := cs.takeWhile fun c => c.isAlphanum || c == '-'
  let tagged : Option ListedFile := do
    let kind ← labelled? (String.ofList label)
    if own.any fun k => k.word != kind.1.word then none
    let rest := cs.drop label.length
    let rest := if rest.head? = some ' ' then rest.tail else rest
    match rest with
    | '(' :: inner =>
      let (name, digest) ← splitTagged? inner
      if digest.length = 2 * kind.2 && isHex digest then
        return ⟨← named name, some kind, String.ofList digest⟩
      else none
    | _ => none
  match tagged with
  | some f => some f
  | none => do
    let k ← own
    let digest := cs.takeWhile fun c => isHex [c]
    let isRight := if k.isVariable then
        digest.length % 2 = 0 && 0 < digest.length && digest.length ≤ 2 * k.size
      else digest.length = 2 * k.size
    if !isRight then none
    let name ← match cs.drop digest.length with
      | ' ' :: ' ' :: name | ' ' :: '*' :: name => some name
      | ' ' :: name | '\t' :: name => some name
      | _ => none
    if name.isEmpty then none
    return ⟨← named name, some (k, digest.length / 2), String.ofList digest⟩

/-- What has been found of a list. -/
structure Verdict where
  proper : Nat := 0
  improper : Nat := 0
  unread : Nat := 0
  wrong : Nat := 0
  right : Nat := 0

/-- A count with the word for one or for many. -/
def countText (n : Nat) (one many : String) : String :=
  "WARNING: " ++ toString n ++ " " ++ (if n = 1 then one else many)

/-- Looks at the files of a list; whether all is well. -/
def verify (self : String) (own : Option Checksum) (g : Given) (list : String) : Run Bool := do
  match ← readInput list with
  | .error fault =>
    complain self (named list ++ ": " ++ fault.wording)
    return false
  | .ok content =>
    let shownList := if list = "-" then "'standard input'" else named list
    let manner := (g.options.reverse.find? fun o => o.1 == '\x05' || o.1 == '\x04' || o.1 == 'w').map Prod.fst
    let silent := manner == some '\x05'
    let mut v : Verdict := {}
    let mut number := 0
    for line in (lines content) do
      number := number + 1
      if line = "" || line.startsWith "#" then continue
      match readListed? own line with
      | none =>
        v := { v with improper := v.improper + 1 }
        if manner == some 'w' then
          complain self (shownList ++ ": " ++ toString number ++ ": improperly formatted " ++
            ((own.map Checksum.label).getD "CRC") ++ " checksum line")
      | some f =>
        v := { v with proper := v.proper + 1 }
        let (name, escaped) := escapedName f.name
        let name := (if escaped then "\\" else "") ++ name
        match ← readInput f.name with
        | .error fault =>
          if g.has '\x03' && fault = .notFound then continue
          v := { v with unread := v.unread + 1 }
          complain self (named f.name ++ ": " ++ fault.wording)
          if !silent then say (name ++ ": FAILED open or read\n")
        | .ok content =>
          let digest := (f.kind.map fun (k, size) => hexOf (k.compute size (toBytes content))).getD ""
          if digest == String.ofList (f.digest.toList.map Char.toLower) then
            v := { v with right := v.right + 1 }
            if !silent && manner != some '\x04' then say (name ++ ": OK\n")
          else
            v := { v with wrong := v.wrong + 1 }
            if !silent then say (name ++ ": FAILED\n")
    if v.proper = 0 then
      complain self (shownList ++ ": no properly formatted checksum lines found")
    else if !silent then
      if v.improper > 0 then
        complain self (countText v.improper "line is improperly formatted" "lines are improperly formatted")
      if v.unread > 0 then
        complain self (countText v.unread "listed file could not be read" "listed files could not be read")
      if v.wrong > 0 then
        complain self (countText v.wrong "computed checksum did NOT match" "computed checksums did NOT match")
      if g.has '\x03' && v.right = 0 then complain self (shownList ++ ": no file was verified")
    return v.proper ≠ 0 && !(g.has '\x03' && v.right = 0) && v.wrong = 0 && v.unread = 0 &&
      !(g.has '\x06' && v.improper ≠ 0)

/-! ### Programs -/

/-- The options for lists and for how digests are written. -/
def checksumOptions : Options := {
  flags := ['b', 't', 'c', 'w', 'z', '\x02', '\x03', '\x04', '\x05', '\x06', '\x07']
  valued := ['l', 'a']
  names := [("binary", 'b'), ("text", 't'), ("check", 'c'), ("warn", 'w'), ("zero", 'z'), ("tag", '\x02'),
    ("ignore-missing", '\x03'), ("quiet", '\x04'), ("status", '\x05'), ("strict", '\x06')] }

/-- What is wrong with the options together. -/
def checksumFault? (g : Given) : Option String :=
  let onlyChecking : List (Char × String) :=
    [('\x03', "ignore-missing"), ('\x05', "status"), ('w', "warn"), ('\x04', "quiet"), ('\x06', "strict")]
  if g.has '\x02' && g.has 't' && !g.has 'b' then some "--tag does not support --text mode"
  else if g.has 'z' && g.has 'c' then
    some "the --zero option is not supported when verifying checksums"
  else if g.has '\x02' && g.has 'c' then
    some "the --tag option is meaningless when verifying checksums"
  else if (g.has 'b' || g.has 't') && g.has 'c' then
    some "the --binary and --text options are meaningless when verifying checksums"
  else if g.has 'c' then none
  else
    (onlyChecking.find? fun o => g.has o.1).map fun o =>
      "the --" ++ o.2 ++ " option is meaningful only when verifying checksums"

/-- Goes through files with digests of a kind. -/
def eachDigest (self : String) (k : Checksum) (size : Nat) (style : ChecksumStyle) (operands : List String) :
    Run Nat := do
  let statuses ← (inputs operands).mapM fun path => do
    match ← readInput path with
    | .ok content =>
      say (style.line (k.labelFor size) (hexOf (k.compute size (toBytes content))) path)
      return 0
    | .error fault =>
      complain self (named path ++ ": " ++ fault.wording)
      return 1
  return if statuses.any (· ≠ 0) then 1 else 0

/-- The size that an option says, in bytes. -/
def digestSize (self : String) (k : Checksum) (g : Given) : Run (Except Nat Nat) := do
  match g.value? 'l' with
  | none => return .ok k.size
  | some text =>
    match natOf? text with
    | none =>
      complain self ("invalid length: " ++ quoted text)
      return .error 1
    | some bits =>
      if !k.isVariable && bits ≠ 0 then
        complain self "--length is only supported with --algorithm=blake2b"
        return .error 1
      if bits % 8 ≠ 0 then
        complain self ("invalid length: " ++ quoted text)
        complain self "length is not a multiple of 8"
        return .error 1
      if bits > 8 * k.size then
        complain self ("invalid length: " ++ quoted text)
        complain self ("maximum digest length for " ++ quoted "BLAKE2b" ++ " is " ++ toString (8 * k.size) ++ " bits")
        return .error 1
      return .ok (if bits = 0 then k.size else bits / 8)

/-- Writes or looks at digests of one kind. -/
def checksums (k : Checksum) : Tool := fun self args =>
  let o := if k.isVariable then { checksumOptions with
      names := checksumOptions.names ++ [("length", 'l')], valued := ['l'] }
    else { checksumOptions with valued := [] }
  o.read self args 1 fun g => do
    match ← digestSize self k g with
    | .error status => return status
    | .ok size =>
      if let some e := checksumFault? g then return ← usage self e 1
      if g.has 'c' then
        let all ← (inputs g.operands).mapM (verify self (some k) g)
        return if all.all id then 0 else 1
      let binary := (g.options.reverse.find? fun o => o.1 == 'b' || o.1 == 't').any fun o => o.1 == 'b'
      eachDigest self k size ⟨g.has '\x02', binary, g.has 'z'⟩ g.operands

/-- Goes through files with a line for each. -/
def eachSum (self : String) (operands : List String) (line : List UInt8 → String) : Run Nat := do
  let statuses ← (inputs operands).mapM fun path => do
    match ← readInput path with
    | .ok content =>
      say (line (toBytes content) ++ (if operands.isEmpty then "" else " " ++ path) ++ "\n")
      return 0
    | .error fault =>
      complain self (named path ++ ": " ++ fault.wording)
      return 1
  return if statuses.any (· ≠ 0) then 1 else 0

/-- A number filled up with zeros. -/
def padZeros (width n : Nat) : String :=
  let s := toString n
  String.ofList (List.replicate (width - s.length) '0') ++ s

/-- The rotating sum and the number of blocks of 1024 bytes. -/
def rotatingLine (bytes : List UInt8) : String :=
  padZeros 5 (rotatingSum bytes).toNat ++ " " ++ padLeft 5 (toString ((bytes.length + 1023) / 1024))

/-- The folded sum and the number of blocks of 512 bytes. -/
def foldedLine (bytes : List UInt8) : String :=
  toString (foldedSum bytes) ++ " " ++ toString ((bytes.length + 511) / 512)

/-- Writes short sums. -/
def sum : Tool := fun self args =>
  ({ flags := ['r', 's'], names := [("sysv", 's')] } : Options).read self args 1 fun g => do
    let last := g.options.reverse.find? fun o => o.1 == 'r' || o.1 == 's'
    eachSum self g.operands (if last.any fun o => o.1 == 's' then foldedLine else rotatingLine)

/-- Writes sums by division, or digests of a kind that is named. -/
def cksum : Tool := fun self args =>
  let o := { checksumOptions with
    names := checksumOptions.names ++ [("length", 'l'), ("algorithm", 'a'), ("untagged", '\x07')] }
  o.read self args 1 fun g => do
    let word := g.value? 'a'
    let sums : List (String × (List UInt8 → String)) :=
      [("bsd", rotatingLine), ("sysv", foldedLine),
        ("crc", fun bytes => toString (crcSum bytes).toNat ++ " " ++ toString bytes.length)]
    let known : List (String × Unit) :=
      (["bsd", "sysv", "crc", "md5", "sha1", "sha224", "sha256", "sha384", "sha512", "blake2b", "sm3"]).map
        (·, ())
    if let some w := word then
      if (known.lookup w).isNone then return ← refuseWord self "--algorithm" w known 1
    let kind := word.bind checksumOf?
    match sums.lookup (word.getD "crc"), kind with
    | some line, _ =>
      if g.has 'c' && word.isNone then
        let all ← (inputs g.operands).mapM (verify self none g)
        return if all.all id then 0 else 1
      if let some e := checksumFault? g then return ← usage self e 1
      eachSum self g.operands line
    | none, some k =>
      match ← digestSize self k g with
      | .error status => return status
      | .ok size =>
        if let some e := checksumFault? g then return ← usage self e 1
        if g.has 'c' then
          let all ← (inputs g.operands).mapM (verify self (some k) g)
          return if all.all id then 0 else 1
        eachDigest self k size ⟨!g.has '\x07', g.has 'b', g.has 'z'⟩ g.operands
    | none, none => return 1

/-- The programs for each kind of digest. -/
def checksumTools : List (String × Tool) :=
  checksumKinds.map fun k => (if k.word = "blake2b" then "b2sum" else k.word ++ "sum", checksums k)

end ClassLens.Tool
