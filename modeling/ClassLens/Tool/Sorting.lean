import ClassLens.Shell.Floating
import ClassLens.Tool.Copying

/-! # Lines in order

`sort`: lines are compared by keys, each with an order of its own; lines with equal keys are told apart by
all their bytes.

* `SortKey`: a part of a line that is compared, and how.
* `SortOrder.compareLines`: the order of lines. -/

namespace ClassLens.Tool

open Shell

/-! ### Keys -/

/-- An end of a key: how many fields and then how many characters lie before it, and whether blanks are
skipped between. -/
structure KeyPlace where
  fields : Nat
  chars : Nat := 0
  skips : Bool := false

/-- A part of a line that is compared, with the letters of its order. -/
structure SortKey where
  start : KeyPlace := ⟨0, 0, false⟩
  stop : Option KeyPlace := none
  flags : List Char := []

/-- Whether a character is blank. -/
def isBlankChar (c : Char) : Bool := c == ' ' || c == '\t' || c == '\n'

/-- How long the first so many fields of a line are, with the separators after them. -/
def fieldsLength (sep : Option Char) : Nat → List Char → Nat
  | 0, _ => 0
  | n + 1, line =>
    match sep with
    | some c =>
      let field := line.takeWhile (· != c)
      let rest := line.drop field.length
      if rest.isEmpty then line.length else field.length + 1 + fieldsLength sep n rest.tail
    | none =>
      let blanks := line.takeWhile isBlankChar
      let word := (line.drop blanks.length).takeWhile fun c => !isBlankChar c
      let size := blanks.length + word.length
      if size = 0 then 0 else size + fieldsLength sep n (line.drop size)

/-- The place of a key's start in a line. -/
def KeyPlace.offset (p : KeyPlace) (sep : Option Char) (line : List Char) : Nat :=
  let at_ := fieldsLength sep p.fields line
  let at_ := if p.skips then at_ + ((line.drop at_).takeWhile isBlankChar).length else at_
  min (at_ + p.chars) line.length

/-- The place after a key in a line. A key that ends with a whole field does not hold the separator after
it. -/
def KeyPlace.limit (p : KeyPlace) (sep : Option Char) (line : List Char) : Nat :=
  if p.chars = 0 then
    let before := fieldsLength sep (p.fields - 1) line
    let rest := line.drop before
    match sep with
    | some c => before + (rest.takeWhile (· != c)).length
    | none => before + fieldsLength none 1 rest
  else { p with fields := p.fields - 1 }.offset sep line

/-- The part of a line that a key names. -/
def SortKey.part (k : SortKey) (sep : Option Char) (line : List Char) : List Char :=
  let start := k.start.offset sep line
  let stop := match k.stop with
    | none => line.length
    | some p => p.limit sep line
  (line.drop start).take (stop - start)

/-! ### Orders -/

/-- A number at the start of a text: its sign, its whole part and its fraction, and what follows. -/
def leadingNumber (s : List Char) : Bool × List Char × List Char × List Char :=
  let s := s.dropWhile isBlankChar
  let (negative, s) := match s with
    | '-' :: s => (true, s)
    | s => (false, s)
  let whole := s.takeWhile Char.isDigit
  let rest := s.drop whole.length
  match rest with
  | '.' :: more =>
    let part := more.takeWhile Char.isDigit
    (negative, whole, part, more.drop part.length)
  | rest => (negative, whole, [], rest)

/-- The number at the start of a text with so many places, as a whole number. -/
def scaledNumber (places : Nat) (s : List Char) : Int :=
  let (negative, whole, part, _) := leadingNumber s
  let ds := whole ++ part ++ List.replicate (places - part.length) '0'
  let n : Nat := digitValue 10 ds
  if negative then -n else n

/-- The order of numbers at the start of texts. -/
def compareNumbers (a b : List Char) : Ordering :=
  let places := max (leadingNumber a).2.2.1.length (leadingNumber b).2.2.1.length
  compare (scaledNumber places a) (scaledNumber places b)

/-- The order of numbers with points; zero has no sign here. -/
def compareFloating : Floating → Floating → Ordering
  | .finite p m e, .finite q n f =>
    let least := min e f
    let scaled (negative : Bool) (m : Nat) (e : Int) : Int :=
      let n : Int := m * Nat.pow 2 (e - least).toNat
      if negative then -n else n
    compare (scaled p m e) (scaled q n f)
  | .infinite p, .infinite q => compare q.toNat p.toNat
  | .infinite p, _ => if p then .lt else .gt
  | _, .infinite q => if q then .gt else .lt
  | _, _ => .eq

/-- The order of numbers with exponents; what is no number comes first, then what says that it is none. -/
def compareGeneral (a b : List Char) : Ordering :=
  let read (s : List Char) : Nat × Floating :=
    let (x, rest, _) := Floating.read .extended s
    (if rest.length = s.length then 0 else if x matches .undefined _ then 1 else 2, x)
  let (p, x) := read a
  let (q, y) := read b
  match compare p q with
  | .eq => if p < 2 then .eq else compareFloating x y
  | o => o

/-- How great the unit after a number is. -/
def magnitude (s : List Char) : Int :=
  let (negative, whole, part, rest) := leadingNumber s
  let units := ["Kk", "M", "G", "T", "P", "E", "Z", "Y", "R", "Q"]
  let n : Int := match rest with
    | c :: _ => ((units.findIdx? fun u => u.toList.contains c).map fun i => Int.ofNat (i + 1)).getD 0
    | [] => 0
  if (whole ++ part).all (· == '0') then 0 else if negative then -n else n

/-- The place of the first character of a text where versions are compared: a tilde comes before the end,
the end before a letter, a letter before other signs. -/
def versionRank : List Char → Int
  | [] => -1
  | c :: _ =>
    if c.isDigit then 0
    else if c.isAlpha then c.toNat
    else if c == '~' then -2 else c.toNat + 256

/-- The order of versions: rows of digits count as numbers. -/
def compareVersionParts : Nat → List Char → List Char → Ordering
  | 0, _, _ => .eq
  | _ + 1, [], [] => .eq
  | n + 1, a, b =>
    let startsText (s : List Char) : Bool := s.head?.any fun c => !c.isDigit
    if startsText a || startsText b then
      match compare (versionRank a) (versionRank b) with
      | .eq => compareVersionParts n a.tail b.tail
      | o => o
    else
      match compareNumbers (a.takeWhile Char.isDigit) (b.takeWhile Char.isDigit) with
      | .eq => compareVersionParts n (a.dropWhile Char.isDigit) (b.dropWhile Char.isDigit)
      | o => o

/-- A file name without the endings that start with a point and a letter; the first character stays. -/
def withoutEndings (s : List Char) : List Char :=
  let isWord (c : Char) : Bool := c.isAlphanum || c == '~'
  let rec endings : Nat → List Char → Bool
    | 0, _ => false
    | _ + 1, [] => true
    | n + 1, '.' :: c :: cs => (c.isAlpha || c == '~') && endings n (cs.dropWhile isWord)
    | _ + 1, _ => false
  let rec go : List Char → List Char
    | [] => []
    | c :: cs => if endings (cs.length + 1) cs then [c] else c :: go cs
  go s

/-- The order of texts by their bytes. -/
def compareBytes : List Char → List Char → Ordering
  | [], [] => .eq
  | [], _ => .lt
  | _, [] => .gt
  | a :: as, b :: bs => if a = b then compareBytes as bs else compare a.toNat b.toNat

/-- The order of file names with versions in them: those that start with a point come first, and endings
count only between names that are the same without them. -/
def compareVersions (a b : List Char) : Ordering :=
  let rank (s : List Char) : Nat :=
    if s = [] then 0
    else if s = ['.'] then 1
    else if s = ['.', '.'] then 2
    else if s.head? = some '.' then 3 else 4
  match compare (rank a) (rank b) with
  | .eq =>
    let fuel := a.length + b.length + 1
    match compareVersionParts fuel (withoutEndings a) (withoutEndings b) with
    | .eq => compareVersionParts fuel a b
    | o => o
  | o => o

/-- The number of a month by its short name. -/
def monthOf (s : List Char) : Nat :=
  let name := String.ofList (((s.dropWhile isBlankChar).take 3).map Char.toUpper)
  ((["JAN", "FEB", "MAR", "APR", "MAY", "JUN", "JUL", "AUG", "SEP", "OCT", "NOV",
    "DEC"].findIdx? (· == name)).map (· + 1)).getD 0

/-- The order of two parts by the letters of their key. -/
def compareParts (flags : List Char) (a b : List Char) : Ordering :=
  let clean (s : List Char) : List Char :=
    let s := if flags.contains 'd' then s.filter fun c => c.isAlphanum || isBlankChar c
      else if flags.contains 'i' then s.filter isPrintable else s
    if flags.contains 'f' then s.map Char.toUpper else s
  let a := clean a
  let b := clean b
  let o :=
    if flags.contains 'n' then compareNumbers a b
    else if flags.contains 'g' then compareGeneral a b
    else if flags.contains 'h' then
      match compare (magnitude a) (magnitude b) with
      | .eq => compareNumbers a b
      | o => o
    else if flags.contains 'M' then compare (monthOf a) (monthOf b)
    else if flags.contains 'V' then compareVersions a b
    else compareBytes a b
  if flags.contains 'r' then o.swap else o

/-- What is compared and how. -/
structure SortOrder where
  keys : List SortKey
  /-- Whether the order of all lines is turned around. -/
  isReverse : Bool
  /-- Whether lines with equal keys stay as they are. -/
  isStable : Bool
  sep : Option Char

/-- The order of lines by their keys. -/
def SortOrder.compareKeys (o : SortOrder) (a b : List Char) : Ordering :=
  let rec go : List SortKey → Ordering
    | [] => .eq
    | k :: ks =>
      match compareParts k.flags (k.part o.sep a) (k.part o.sep b) with
      | .eq => go ks
      | r => r
  go o.keys

/-- The order of lines. -/
def SortOrder.compareLines (o : SortOrder) (a b : List Char) : Ordering :=
  match o.compareKeys a b with
  | .eq =>
    if o.isStable && !o.keys.isEmpty then .eq
    else if o.isReverse then compareBytes b a else compareBytes a b
  | r => r

/-! ### Options -/

/-- Why a text does not say a key: a word for the fault, and whether a number is missing, with the text from
there on. -/
inductive KeyFault where
  | noNumber (what rest : String)
  | wrong (what : String)

/-- What is said of a key. -/
def KeyFault.message (spec : String) : KeyFault → String
  | .noNumber what rest => what ++ ": invalid count at start of " ++ quoted rest
  | .wrong what => what ++ ": invalid field specification " ++ quoted spec

/-- A number in a key. -/
def keyNumber (what : String) (s : List Char) : Except KeyFault (Nat × List Char) :=
  let (rest, ds) := match s.dropWhile isBlankChar with
    | '+' :: more => (more, more.takeWhile Char.isDigit)
    | more => (more, more.takeWhile Char.isDigit)
  if ds.isEmpty then .error (.noNumber what (String.ofList s))
  else .ok (digitValue 10 ds, rest.drop ds.length)

/-- The letters of orders. -/
def orderLetters : List Char := "bdfghiMnRrV".toList

/-- The place of a key in a text, with the letters after it. -/
def keyPlace (what : String) (isStart : Bool) (s : List Char) :
    Except KeyFault (KeyPlace × List Char × List Char) := do
  let (field, rest) ← keyNumber what s
  if field = 0 then throw (.wrong "field number is zero")
  let (chars, rest) ← match rest with
    | '.' :: more =>
      let (n, rest) ← keyNumber "invalid number after '.'" more
      if isStart && n = 0 then throw (.wrong "character offset is zero")
      pure (n, rest)
    | rest => pure (if isStart then 1 else 0, rest)
  let letters := rest.takeWhile orderLetters.contains
  let place : KeyPlace := {
    fields := if isStart then field - 1 else field
    chars := if isStart then chars - 1 else chars
    skips := letters.contains 'b' }
  return (place, letters, rest.drop letters.length)

/-- A key by its text. -/
def readKey (s : String) : Except KeyFault SortKey := do
  let (start, letters, rest) ← keyPlace "invalid number at field start" true s.toList
  match rest with
  | [] => return { start, flags := letters }
  | ',' :: rest =>
    let (stop, more, rest) ← keyPlace "invalid number after ','" false rest
    if rest.isEmpty then return { start, stop := some stop, flags := letters ++ more }
    throw (.wrong "stray character in field spec")
  | _ => throw (.wrong "stray character in field spec")

/-- A key with the orders of all lines where it has none of its own. -/
def SortKey.inherit (flags : List Char) (k : SortKey) : SortKey :=
  if !k.flags.isEmpty then k
  else
    let skips := flags.contains 'b'
    { start := { k.start with skips }
      stop := k.stop.map fun p => { p with skips }
      flags }

/-- What is wrong with the separators that are given. -/
def tabFault? (given : List String) : Option String :=
  let wrong (s : String) : Option String :=
    if s = "" then some "empty tab"
    else if s.length > 1 ∧ s ≠ "\\0" then some ("multi-character tab " ++ quoted s) else none
  let rec go : List String → Option String
    | [] => none
    | [s] => wrong s
    | s :: t :: rest => (wrong s) <|> (wrong t) <|> if s = t then go (t :: rest) else some "incompatible tabs"
  go given

/-- The letters of the orders that cannot go together, if there are such ones. -/
def clashing? (flags : List Char) : Option String :=
  let count := ("nghM".toList.filter flags.contains).length +
    (if "VRdi".toList.any flags.contains then 1 else 0)
  if count > 1 then
    let dropped := 'b' :: 'r' :: (if flags.contains 'd' && flags.contains 'i' then ['i'] else [])
    some (String.ofList ("bdfghiMnrRV".toList.filter fun c => flags.contains c && !dropped.contains c))
  else none

/-- The words for orders. -/
def orderWords : List (String × Char) :=
  [("general-numeric", 'g'), ("human-numeric", 'h'), ("month", 'M'), ("numeric", 'n'), ("random", 'R'),
    ("version", 'V')]

/-- Lists that are in order, made one: of lines that are the same the one of the first list comes first. -/
def mergeLists (le : List Char → List Char → Bool) : Nat → List (List (List Char)) → List (List Char)
  | 0, _ => []
  | n + 1, lists =>
    let heads := lists.zipIdx.filterMap fun (l, i) => l.head?.map (·, i)
    match heads with
    | [] => []
    | first :: others =>
      let least := others.foldl (fun best h => if le best.1 h.1 then best else h) first
      least.1 :: mergeLists le n (lists.zipIdx.map fun (l, i) => if i = least.2 then l.tail else l)

/-- The lines of which each is the first one of its kind. -/
def firstOfEach (same : List Char → List Char → Bool) : List (List Char) → List (List Char)
  | [] => []
  | line :: rest =>
    (rest.foldl (fun (kept : List (List Char) × List Char) next =>
      if same kept.2 next then kept else (next :: kept.1, next)) ([line], line)).1.reverse

/-- The options of `sort`. -/
def sortOptions : Options := {
  flags := "bcCdfghimMnrRsuVz".toList
  valued := ['k', 'o', 'S', 't', 'T', '\x01', '\x02', '\x03']
  optional := ['\x04']
  names := [("ignore-leading-blanks", 'b'), ("check", '\x04'), ("compress-program", '\x03'),
    ("dictionary-order", 'd'), ("ignore-case", 'f'), ("files0-from", '\x02'),
    ("general-numeric-sort", 'g'), ("ignore-nonprinting", 'i'), ("key", 'k'), ("merge", 'm'),
    ("month-sort", 'M'), ("numeric-sort", 'n'), ("human-numeric-sort", 'h'), ("version-sort", 'V'),
    ("random-sort", 'R'), ("random-source", '\x03'), ("sort", '\x01'), ("output", 'o'), ("reverse", 'r'),
    ("stable", 's'), ("batch-size", '\x03'), ("buffer-size", 'S'), ("field-separator", 't'),
    ("temporary-directory", 'T'), ("unique", 'u'), ("zero-terminated", 'z'), ("parallel", '\x03')] }

/-- What is wrong with single options. -/
def sortFault (g : Given) : Except String Unit := do
  for (letter, value) in g.options do
    if letter == 'k' then let _ ← (readKey value).mapError (KeyFault.message value)
  if let some e := tabFault? (g.values 't') then throw e

/-- The letters of how lines are to be checked. -/
def checksOf (g : Given) : List Char :=
  (g.options.filterMap fun (letter, value) =>
    if letter == 'c' || letter == 'C' then some letter
    else if letter == '\x04' then
      some (if (wordOf? [("quiet", true), ("silent", true), ("diagnose-first", false)] value) == some true
        then 'C' else 'c')
    else none).eraseDups

/-- How lines are compared, by the options that are given. -/
def sortOrder (g : Given) : Except String SortOrder := do
  sortFault g
  let letters := g.options.filterMap fun e =>
    if orderLetters.contains e.1 then some e.1
    else if e.1 == '\x01' then wordOf? orderWords e.2 else none
  let keys ← (g.values 'k').mapM fun s => (readKey s).mapError (KeyFault.message s)
  let checks := checksOf g
  if checks.length > 1 then throw "options '-cC' are incompatible"
  let whole : SortKey := { start := ⟨0, 0, letters.contains 'b'⟩, flags := letters }
  let keys := if !keys.isEmpty then keys.map (SortKey.inherit letters)
    else if letters.all (· == 'r') then [] else [whole]
  let kinds := if keys.isEmpty then [letters] else keys.map SortKey.flags
  if let some clash := kinds.findSome? clashing? then
    throw ("options " ++ quoted ("-" ++ clash) ++ " are incompatible")
  if checks ≠ [] ∧ g.has 'o' then
    throw ("options " ++ quoted ("-" ++ String.ofList checks ++ "o") ++ " are incompatible")
  return {
    keys
    isReverse := letters.contains 'r'
    isStable := g.has 's' || g.has 'u'
    sep := (g.value? 't').bind fun s => if s = "\\0" then some '\x00' else s.toList.head? }

/-- The files that `sort` reads, or what is wrong with how they are given. -/
def sortInputs (g : Given) : Run (Except String (List String)) := do
  match g.value? '\x02' with
  | none => return .ok (inputs g.operands)
  | some list =>
    match ← readInput list with
    | .error fault => return .error ("open failed: " ++ named list ++ ": " ++ fault.wording)
    | .ok content =>
      let paths := (linesFrom '\x00' content.toList []).map (bare '\x00')
      if paths.isEmpty then return .error ("no input from " ++ quoted list)
      return .ok paths

/-- Sorts the lines of files. -/
def sort : Tool := fun self args =>
  sortOptions.read self args 2 fun g => do
    let isWrong (o : Char × String) : Bool := o.1 == '\x01' && (wordOf? orderWords o.2).isNone
    let before := g.options.takeWhile fun o => !isWrong o
    if let .error e := sortFault { g with options := before } then
      complain self e
      return 2
    if let some (_, word) := g.options.find? isWrong then
      return ← refuseWord self "--sort" word orderWords 1
    match sortOrder g with
    | .error e =>
      complain self e
      return 2
    | .ok order =>
      let quietly := (checksOf g).contains 'C'
      let checks := checksOf g ≠ []
      if checks && g.operands.length > 1 then
        complain self ("extra operand " ++ quoted (g.operands[1]?.getD "") ++ " not allowed with -" ++
          (if quietly then "C" else "c"))
        return 2
      match ← sortInputs g with
      | .error e =>
        complain self e
        return 2
      | .ok paths =>
        let parts ← paths.mapM fun path => return (path, ← readInput path)
        let bad (isDirectory : Bool) : Option (String × ReadFault) := parts.findSome? fun p =>
          match p.2 with
          | .error fault => if (fault = .isDirectory) = isDirectory then some (p.1, fault) else none
          | .ok _ => none
        if let some (path, fault) := bad false <|> bad true then
          complain self ((if fault = .isDirectory then "read failed: " else if checks then "open failed: "
            else "cannot read: ") ++ named path ++ ": " ++ fault.wording)
          return 2
        let stop := if g.has 'z' then '\x00' else '\n'
        let lists : List (List (List Char)) := parts.map fun p =>
          match p.2 with
          | .ok content => (linesFrom stop content.toList []).map fun line => (bare stop line).toList
          | .error _ => []
        let le (a b : List Char) : Bool := order.compareLines a b != .gt
        if checks then
          let all := lists.flatten
          let bad := (all.zip all.tail).findIdx? fun p =>
            if g.has 'u' then order.compareLines p.1 p.2 != .lt else !le p.1 p.2
          match bad with
          | some i =>
            if !quietly then
              complain self (paths.headD "-" ++ ":" ++ toString (i + 2) ++ ": disorder: " ++
                String.ofList ((all[i + 1]?).getD []))
            return 1
          | none => return 0
        let sorted := if g.has 'm' then mergeLists le (lists.flatten.length) lists
          else lists.flatten.mergeSort le
        let kept := if g.has 'u' then firstOfEach (fun a b => order.compareLines a b == .eq) sorted
          else sorted
        let out := String.join (kept.map fun line => String.ofList line ++ String.singleton stop)
        match g.value? 'o' with
        | some path =>
          match ← writeFile path out false with
          | none => return 0
          | some fault =>
            complain self ("open failed: " ++ named path ++ ": " ++ fault.wording)
            return 2
        | none =>
          say out
          return 0

end ClassLens.Tool
