import ClassLens.Json.Lexeme

/-! # TOML: white space, keys and strings

Each reader takes the text from its place on and returns what it read and the text after it, or
nothing if the text is not TOML there.

* `skipSpace`, `afterLine?`, `skipLines?`: white space, the end of a line, and lines without content.
* `readKey?`: a dotted key.
* `readString?`: a string in one of the four kinds of quotes. -/

namespace ClassLens.Toml

/-! ### White space and comments -/

/-- Blanks and tabs. -/
def isSpace (c : Char) : Bool :=
  c == ' ' || c == '\t'

/-- The text after blanks and tabs. -/
def skipSpace (s : List Char) : List Char :=
  s.dropWhile isSpace

/-- A character that may stand in comments and strings of one line: no control character but the
tab. -/
def isText (c : Char) : Bool :=
  c == '\t' || (0x20 ≤ c.toNat && c.toNat != 0x7F)

/-- What follows a line break at the start of a text. -/
def afterBreak? : List Char → Option (List Char)
  | '\n' :: rest => some rest
  | '\r' :: '\n' :: rest => some rest
  | _ => none

/-- The text after a comment, if one starts there. -/
def skipComment : List Char → List Char
  | '#' :: rest => rest.dropWhile isText
  | s => s

/-- What follows the rest of a line that holds nothing but a comment; the text may end instead. -/
def afterLine? (s : List Char) : Option (List Char) :=
  match skipComment (skipSpace s) with
  | [] => some []
  | s => afterBreak? s

/-- What follows white space, comments and line breaks. -/
def skipLines? : Nat → List Char → Option (List Char)
  | 0, _ => none
  | fuel + 1, s =>
    match skipSpace s with
    | '#' :: rest =>
      match rest.dropWhile isText with
      | [] => some []
      | s =>
        match afterBreak? s with
        | some s => skipLines? fuel s
        | none => none
    | s =>
      match afterBreak? s with
      | some s => skipLines? fuel s
      | none => some s

/-! ### Escapes -/

/-- The number that a row of hexadecimal digits denotes. -/
def hexValue? (ds : List Char) : Option Nat :=
  ds.foldlM (fun n c => (Json.hexDigit? c).map (n * 16 + ·)) 0

/-- The character of an escape by its code point, written in so many digits, and what follows. -/
def readCodePoint? (digits : Nat) (s : List Char) : Option (Char × List Char) :=
  if (s.take digits).length = digits then
    match hexValue? (s.take digits) with
    | some n => if n.isValidChar then some (Char.ofNat n, s.drop digits) else none
    | none => none
  else
    none

/-- The character of an escape, and what follows it. -/
def readEscape? : List Char → Option (Char × List Char)
  | 'u' :: s => readCodePoint? 4 s
  | 'U' :: s => readCodePoint? 8 s
  | c :: s => if c = '/' then none else (Json.shortEscape? c).map (·, s)
  | [] => none

/-! ### Strings -/

/-- A string of one line with escapes, after its opening quote. -/
def readBasic? : Nat → List Char → Option (List Char × List Char)
  | 0, _ => none
  | _ + 1, [] => none
  | _ + 1, '"' :: rest => some ([], rest)
  | fuel + 1, '\\' :: s => do
    let (c, s) ← readEscape? s
    let (cs, s) ← readBasic? fuel s
    return (c :: cs, s)
  | fuel + 1, c :: s =>
    if isText c then (readBasic? fuel s).map fun (cs, s) => (c :: cs, s) else none

/-- A string of one line without escapes, after its opening quote. -/
def readLiteral? (s : List Char) : Option (List Char × List Char) :=
  match s.dropWhile fun c => c != '\'' && isText c with
  | '\'' :: rest => some (s.takeWhile fun c => c != '\'' && isText c, rest)
  | _ => none

/-- The text after a backslash at the end of a line: white space and line breaks, of which there is
one at least, are passed over. -/
def afterContinuation? (s : List Char) : Option (List Char) :=
  (afterBreak? (skipSpace s)).map fun s =>
    s.dropWhile fun c => isSpace c || c == '\n' || c == '\r'

/-- Whether white space after a backslash holds a carriage return alone. -/
def hasLoneReturn : List Char → Bool
  | '\r' :: '\n' :: s => hasLoneReturn s
  | '\r' :: _ => true
  | c :: s => if isSpace c || c == '\n' then hasLoneReturn s else false
  | [] => false

/-- The inside of a string of several lines and what follows its closing quotes. One or two quotes
may stand anywhere inside, also right before the closing ones. -/
def readLines? (quote : Char) (escapes : Bool) : Nat → List Char → Option (List Char × List Char)
  | 0, _ => none
  | _ + 1, [] => none
  | fuel + 1, c :: s =>
    let more (c : Char) (s : List Char) : Option (List Char × List Char) :=
      (readLines? quote escapes fuel s).map fun (cs, s) => (c :: cs, s)
    if c = quote then
      match (s.takeWhile (· == quote)).length with
      | 0 | 1 => more c s
      | 2 => some ([], s.drop 2)
      | 3 => some ([quote], s.drop 3)
      | _ => some ([quote, quote], s.drop 4)
    else if escapes && c == '\\' then
      match afterContinuation? s with
      | some s' => if hasLoneReturn s then none else readLines? quote escapes fuel s'
      | none =>
        match readEscape? s with
        | some (c, s) => more c s
        | none => none
    else
      match afterBreak? (c :: s) with
      | some s => more '\n' s
      | none => if isText c then more c s else none

/-- The text after a line break that stands right after opening quotes. -/
def dropFirstBreak (s : List Char) : List Char :=
  (afterBreak? s).getD s

/-- A string in any kind of quotes. -/
def readString? (s : List Char) : Option (String × List Char) :=
  let read : Option (List Char × List Char) :=
    match s with
    | '"' :: '"' :: '"' :: s => readLines? '"' true (s.length + 1) (dropFirstBreak s)
    | '\'' :: '\'' :: '\'' :: s => readLines? '\'' false (s.length + 1) (dropFirstBreak s)
    | '"' :: s => readBasic? (s.length + 1) s
    | '\'' :: s => readLiteral? s
    | _ => none
  read.map fun (cs, s) => (String.ofList cs, s)

/-! ### Keys -/

/-- A character of a key without quotes. -/
def isBareChar (c : Char) : Bool :=
  c.isAlphanum || c == '_' || c == '-'

/-- One part of a key; quotes of several lines do not make one. -/
def readSimpleKey? (s : List Char) : Option (String × List Char) :=
  match s with
  | '"' :: s => (readBasic? (s.length + 1) s).map fun (cs, s) => (String.ofList cs, s)
  | '\'' :: s => (readLiteral? s).map fun (cs, s) => (String.ofList cs, s)
  | s =>
    match s.takeWhile isBareChar with
    | [] => none
    | name => some (String.ofList name, s.dropWhile isBareChar)

/-- The parts of a dotted key with the white space around them. -/
def readParts? : Nat → List Char → Option (List String × List Char)
  | 0, _ => none
  | fuel + 1, s => do
    let (part, s) ← readSimpleKey? (skipSpace s)
    match skipSpace s with
    | '.' :: s => do
      let (parts, s) ← readParts? fuel s
      return (part :: parts, s)
    | s => return ([part], s)

/-- How deep keys and values may nest. -/
def nestingLimit : Nat := 80

/-- A dotted key. -/
def readKey? (s : List Char) : Option (List String × List Char) := do
  let (parts, s) ← readParts? (s.length + 1) s
  if parts.length < nestingLimit then some (parts, s) else none

end ClassLens.Toml
