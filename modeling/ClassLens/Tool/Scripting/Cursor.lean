import ClassLens.Tool.Scripting.Syntax

/-! # Reading the text of a script

Where the reading of a script stands, and the signs that stand there. Blanks, comments and passages of
documentation stand between signs; here-documents are taken out of the lines that follow them.

* `Cursor`: what is left of a script.
* `Reader`: something that is read; a `ScriptFault` ends it.
* `quotedText`: a text between two signs that the script chooses.
* `takeDocument`: a here-document.
* `operatorAt`: the operator between two operands, with how tightly it binds.
* `unaryWords`, `listWords`: functions that are there from the start, by how they take their arguments.
* `escapeAt`: what a backslash stands for between double quotes. -/

namespace ClassLens.Tool.Scripting

open Shell (digitValue isOctal isHex)

/-! ## Places in a script -/

/-- A fault in the text of a script: what is told of it, and the status with which the program ends. -/
structure ScriptFault where
  message : String
  status : Nat := 255

/-- Where the reading of a script stands. -/
structure Cursor where
  rest : List Char
  line : Nat := 1
  /-- The lines of here-documents that were taken out before the next line. -/
  skipped : Nat := 0
  /-- What faults call the script. -/
  source : String
  /-- What is left from the last sign on, and from the one before it. -/
  last : List Char := []
  before : List Char := []
  /-- The functions that the script has defined or asked for. -/
  routines : List String := []
  /-- Those of them that take no arguments, and those whose first argument may be a block. -/
  constants : List String := []
  takers : List String := []
  /-- The space of names that functions are defined in. -/
  space : String := "main"
  /-- Whether what is read stands in a text between quotes. -/
  isQuoted : Bool := false
  /-- Whether words may name files, and the words that stood where none may. -/
  takesNames : Bool := false
  names : List (String × String) := []
  /-- Whether variables must be made known, those that were, and what is wrong with other ones. -/
  isStrict : Bool := false
  declared : List (Shape × String) := []
  complaints : List String := []
  /-- The cautions that are wanted here, whether they are wanted everywhere, and those that were given. -/
  cautions : Option Cautions := none
  isLoud : Bool := false
  notices : List String := []
  /-- How many variables were made known before the block at hand and before the act at hand. -/
  blockStart : Nat := 0
  actStart : Nat := 0
  /-- The names that stood for what is known everywhere, with their lines. -/
  mentions : List (String × Nat) := []
  /-- The functions that have been given a body. -/
  bodies : List String := []
  /-- What follows the script, for it to read. -/
  data : Option (List Char) := none

/-- Something that is read. -/
abbrev Reader := StateT Cursor (Except ScriptFault)

/-- A character of a name. -/
def isWord (c : Char) : Bool := c.isAlphanum || c == '_'

/-- A character that starts a name. -/
def startsWord (c : Char) : Bool := c.isAlpha || c == '_'

/-- Characters up to a line break, and what follows them from the line break on. -/
def restOfLine (s : List Char) : List Char × List Char :=
  let line := s.takeWhile (· != '\n')
  (line, s.drop line.length)

/-- What follows a passage of documentation, and how many lines it has. -/
def afterPassage : Nat → Nat → List Char → List Char × Nat
  | 0, n, s => (s, n)
  | fuel + 1, n, s =>
    let (line, rest) := restOfLine s
    let isEnd := "=cut".toList.isPrefixOf line
    match rest with
    | [] => ([], n)
    | _ :: rest => if isEnd then (rest, n + 1) else afterPassage fuel (n + 1) rest

/-- Whether a passage of documentation starts. -/
def startsPassage : List Char → Bool
  | '=' :: c :: _ => c.isAlpha
  | _ => false

/-- Goes over blanks, comments and documentation. -/
def Cursor.skip : Nat → Cursor → Cursor
  | 0, c => c
  | fuel + 1, c =>
    match c.rest with
    | '\n' :: rest =>
      let next := if rest.isEmpty then c.line else c.line + 1
      let c := { c with rest, line := next + c.skipped, skipped := 0 }
      if startsPassage rest then
        let (rest, n) := afterPassage (rest.length + 1) 0 rest
        skip fuel { c with rest, line := c.line + n }
      else skip fuel c
    | '#' :: rest => skip fuel { c with rest := (restOfLine rest).2 }
    | d :: rest => if Records.isSpace d then skip fuel { c with rest } else c
    | [] => c

/-- Goes over what means nothing; what is left. -/
def peek : Reader (List Char) := do
  let c ← get
  let c := c.skip (c.rest.length + 1)
  set c
  return c.rest

/-- Takes note of a sign that starts here. -/
def mark : Reader Unit := modify fun c =>
  if c.last.length == c.rest.length then c else { c with last := c.rest, before := c.last }

/-- Goes over some characters, none of which is a line break. -/
def advance (n : Nat) : Reader Unit := do
  mark
  modify fun c => { c with rest := c.rest.drop n }

/-- How long the sign is with which a text starts. -/
def signLength : List Char → Nat
  | [] => 0
  | c :: s =>
    if isWord c then (s.takeWhile isWord).length + 1
    else if c == '$' || c == '@' || c == '%' || c == '&' then (s.takeWhile isWord).length + 1
    else if c == '"' || c == '\'' then min ((s.takeWhile (· != c)).length + 2) (s.length + 1)
    else 1

/-- What a fault says of where it stands. -/
def Cursor.place (c : Cursor) : String := " at " ++ c.source ++ " line " ++ toString c.line

/-- Gives a caution of a kind about a line. -/
def noteAt (line : Nat) (kind message : String) : Reader Unit := modify fun c =>
  let isWanted := match c.cautions with
    | some w => w.covers kind
    | none => c.isLoud
  if isWanted then
    { c with notices := c.notices ++ [message ++ " at " ++ c.source ++ " line " ++ toString line ++ ".\n"] }
  else c

/-- Gives a caution of a kind. -/
def note (kind message : String) : Reader Unit := do noteAt (← get).line kind message

/-- Ends the reading with a fault. -/
def refuse {α : Type} (message : String) : Reader α := do
  let c ← get
  let all := c.notices ++ c.complaints ++ [message]
  throw ⟨String.join all ++ "Execution of " ++ c.source ++ " aborted due to compilation errors.\n", 255⟩

/-- Ends the reading at a sign that must not stand where it does. -/
def unexpected {α : Type} : Reader α := do
  let rest ← peek
  let c ← get
  if rest.isEmpty then
    let missing := if c.isQuoted then "Missing right curly or square bracket" ++ c.place ++ ", within string\n" else ""
    refuse (missing ++ "syntax error" ++ c.place ++ ", at EOF\n")
  else
    let start := if c.last.length == rest.length then c.before else c.last
    let isFar := start.length < rest.length || start.length - rest.length > 200 ||
      (start.take (start.length - rest.length)).contains '\n'
    let start := if isFar then rest else start
    let near := start.take (start.length - rest.length + signLength rest)
    refuse ("syntax error" ++ c.place ++ ", near \"" ++ String.ofList near ++ "\"\n")

/-- Whether a text stands next, which is gone over then. -/
def accept (s : String) : Reader Bool := do
  let rest ← peek
  if s.toList.isPrefixOf rest then
    advance s.length
    return true
  else return false

/-- Goes over a text that must stand next. -/
def expect (s : String) : Reader Unit := do
  if !(← accept s) then unexpected

/-- A name at the start of a text, which may have parts. -/
def nameAt (s : List Char) : List Char :=
  let rec parts : Nat → List Char → List Char
    | 0, _ => []
    | fuel + 1, s =>
      let word := s.takeWhile isWord
      match s.drop word.length with
      | ':' :: ':' :: c :: rest =>
        if startsWord c then word ++ ':' :: ':' :: parts fuel (c :: rest) else word
      | _ => word
  match s with
  | c :: _ => if startsWord c then parts (s.length + 1) s else []
  | [] => []

/-- The word that stands next. -/
def peekWord : Reader String := do
  return String.ofList (nameAt (← peek))

/-- Whether a word stands next, which is gone over then. -/
def acceptWord (s : String) : Reader Bool := do
  if (← peekWord) == s then
    advance s.length
    return true
  else return false

/-! ### Quotes -/

/-- The sign that closes what a sign opens. -/
def closing : Char → Char
  | '(' => ')'
  | '[' => ']'
  | '{' => '}'
  | '<' => '>'
  | c => c

/-- A text up to the sign that closes it, backslashes kept, and what follows the sign. -/
def untilClosed (first last : Char) : Nat → List Char → List Char → Option (List Char × List Char)
  | _, _, [] => none
  | depth, found, '\\' :: c :: s => untilClosed first last depth (c :: '\\' :: found) s
  | depth, found, c :: s =>
    if c == last then
      match depth with
      | 0 => some (found.reverse, s)
      | depth + 1 => untilClosed first last depth (c :: found) s
    else if c == first then untilClosed first last (depth + 1) (c :: found) s
    else untilClosed first last depth (c :: found) s

/-- Reads a text between two signs, the first of which stands next; the sign and the text. -/
def quotedText : Reader (Char × List Char) := do
  let c ← get
  match c.rest with
  | q :: rest =>
    match untilClosed q (closing q) 0 [] rest with
    | some (text, rest) =>
      let breaks := (text.filter (· == '\n')).length
      let skipped := if breaks > 0 then c.skipped else 0
      modify fun c => { c with
        rest
        line := c.line + breaks + skipped
        skipped := c.skipped - skipped }
      return (q, text)
    | none =>
      let shown := if closing q == '"' then "'\"'" else "\"" ++ String.singleton (closing q) ++ "\""
      throw ⟨String.join (c.notices ++ c.complaints) ++ "Can't find string terminator " ++ shown ++ " anywhere before EOF" ++ c.place ++
        ".\n", 255⟩
  | [] => unexpected

/-- A text between single quotes: a backslash counts before another one and before a quote. -/
def plainText (first last : Char) : List Char → List Char
  | '\\' :: c :: s =>
    if c == '\\' || c == first || c == last then c :: plainText first last s else '\\' :: plainText first last (c :: s)
  | c :: s => c :: plainText first last s
  | [] => []

/-- The words of a text. -/
def wordsIn (s : List Char) : List String :=
  let rec go : Nat → List Char → List String
    | 0, _ => []
    | fuel + 1, s =>
      let s := s.dropWhile Records.isSpace
      if s.isEmpty then []
      else
        let word := s.takeWhile fun c => !Records.isSpace c
        String.ofList word :: go fuel (s.drop word.length)
  go (s.length + 1) s

/-! ### Here-documents -/

/-- The lines of a here-document and what follows the line that ends it. -/
def documentLines (tag : List Char) (indented : Bool) : Nat → List (List Char) → List Char →
    Option (List (List Char) × List Char)
  | 0, _, _ => none
  | fuel + 1, found, s =>
    if s.isEmpty then none
    else
      let (line, rest) := restOfLine s
      let bare := if indented then line.dropWhile Records.isSpace else line
      if bare == tag then some (found.reverse, rest.tail)
      else documentLines tag indented fuel (line :: found) rest.tail

/-- The lines without the blanks that all of them start with. -/
def withoutIndent (lines : List (List Char)) : List (List Char) :=
  let widths := lines.filterMap fun line =>
    let n := (line.takeWhile Records.isSpace).length
    if n == line.length then none else some n
  let least := widths.foldl min (widths.headD 0)
  lines.map fun line => line.drop least

/-- Takes the here-document of a tag out of the lines that follow. -/
def takeDocument (tag : String) (indented : Bool) : Reader (List Char) := do
  let c ← get
  let (line, rest) := restOfLine c.rest
  match documentLines tag.toList indented (rest.length + 1) [] rest.tail with
  | some (lines, after) =>
    let shown := if indented then withoutIndent lines else lines
    set { c with
      rest := line ++ '\n' :: after
      skipped := c.skipped + lines.length + 1 }
    return shown.flatMap fun line => line ++ ['\n']
  | none =>
    throw ⟨String.join (c.notices ++ c.complaints) ++ "Can't find string terminator \"" ++ tag ++ "\" anywhere before EOF" ++ c.place ++
      ".\n", 255⟩

/-! ### Numbers -/

/-- A number at the start of a text, and how long it is. -/
def numberAt (s : List Char) : Numeric × Nat :=
  let digitsOf (isDigit : Char → Bool) (s : List Char) : List Char := s.takeWhile fun c => isDigit c || c == '_'
  let based (base skip : Nat) (isDigit : Char → Bool) : Numeric × Nat :=
    let ds := digitsOf isDigit (s.drop skip)
    (.ofInt (digitValue base (ds.filter (· != '_'))), skip + ds.length)
  match s with
  | '0' :: 'x' :: _ | '0' :: 'X' :: _ => based 16 2 isHex
  | '0' :: 'b' :: _ | '0' :: 'B' :: _ => based 2 2 fun c => c == '0' || c == '1'
  | '0' :: c :: _ =>
    if c.isDigit then based 8 1 isOctal else decimal
  | _ => decimal
where
  /-- A number of the base ten. -/
  decimal : Numeric × Nat :=
    let digits (s : List Char) : List Char := s.takeWhile fun c => c.isDigit || c == '_'
    let whole := digits s
    let rest := s.drop whole.length
    let part := match rest with
      | '.' :: '.' :: _ => []
      | '.' :: rest => '.' :: digits rest
      | _ => []
    let rest := rest.drop part.length
    let exponent := match rest with
      | e :: rest =>
        if e == 'e' || e == 'E' then
          let (sign, ds) := match rest with
            | '-' :: ds => (['-'], digits ds)
            | '+' :: ds => (['+'], digits ds)
            | ds => ([], digits ds)
          if ds.isEmpty then [] else e :: sign ++ ds
        else []
      | [] => []
    let all := whole ++ part ++ exponent
    (.ofText (String.ofList (all.filter (· != '_'))), all.length)

/-! ## Words and signs -/

/-- The operators between two operands; those with a greater number bind more tightly. -/
def operators : List (String × Nat) :=
  [("**=", 6), ("||=", 6), ("&&=", 6), ("//=", 6), ("<<=", 6), (">>=", 6), ("...", 8), ("<=>", 13),
    ("**", 21), ("=~", 19), ("!~", 19), ("==", 13), ("!=", 13), ("<=", 14), (">=", 14), ("&&", 10), ("||", 9),
    ("//", 9), ("..", 8), ("+=", 6), ("-=", 6), ("*=", 6), ("/=", 6), (".=", 6), ("%=", 6), ("&=", 6), ("|=", 6),
    ("^=", 6), ("<<", 16), (">>", 16), ("+", 17), ("-", 17), ("*", 18), ("/", 18), ("%", 18), (".", 17),
    ("<", 14), (">", 14), ("=", 6), ("?", 7), ("&", 12), ("|", 11), ("^", 11)]

/-- The operators that are words. -/
def wordOperators : List (String × Nat) :=
  [("x", 18), ("lt", 14), ("gt", 14), ("le", 14), ("ge", 14), ("eq", 13), ("ne", 13), ("cmp", 13)]

/-- The operator with which a text starts. -/
def operatorAt (s : List Char) : Option (String × Nat) :=
  match s with
  | '=' :: '>' :: _ => none
  | 'x' :: '=' :: c :: _ => if c == '=' || c == '~' || c == '>' then none else some ("x=", 6)
  | 'x' :: c :: rest =>
    if c.isDigit && !(rest.dropWhile Char.isDigit).head?.any startsWord then some ("x", 18) else ofWord s
  | c :: _ => if startsWord c then ofWord s else operators.find? fun o => o.1.toList.isPrefixOf s
  | [] => none
where
  /-- The operator that is the word at the start of a text. -/
  ofWord (s : List Char) : Option (String × Nat) :=
    let w := String.ofList (s.takeWhile isWord)
    wordOperators.find? fun o => o.1 == w

/-- The words that end an expression. -/
def stopWords : List String :=
  ["x", "lt", "gt", "le", "ge", "eq", "ne", "cmp", "and", "or", "xor", "if", "unless", "while", "until", "for",
    "foreach"]

/-- Whether an operand starts. -/
def startsTerm (s : List Char) : Bool :=
  match s with
  | [] => false
  | '<' :: '=' :: _ => false
  | '%' :: c :: _ | '&' :: c :: _ => startsWord c || c == '$' || c == '{' || c == ':'
  | '*' :: c :: _ => startsWord c
  | '.' :: c :: _ => c.isDigit
  | '!' :: c :: _ => c != '=' && c != '~'
  | '-' :: c :: _ => c != '='
  | c :: _ =>
    if startsWord c then
      let w := s.takeWhile isWord
      let isKey := "=>".toList.isPrefixOf ((s.drop w.length).dropWhile Records.isSpace)
      isKey || !stopWords.contains (String.ofList w)
    else !(";)]\x7d=,?:|&*.^>%".toList.contains c)

/-- Functions of one argument for which the record stands in. -/
def recordWords : List String :=
  ["lc", "uc", "lcfirst", "ucfirst", "fc", "length", "chr", "ord", "int", "abs", "sqrt", "sin", "cos", "exp",
    "log", "hex", "oct", "quotemeta", "defined", "ref", "rmdir", "readlink", "stat", "lstat", "alarm"]

/-- Other functions of one argument at most. -/
def unaryWords : List String :=
  ["rand", "srand", "exit", "umask", "sleep", "localtime", "gmtime", "caller", "shift", "pop", "scalar", "undef",
    "each", "keys", "values", "delete", "exists", "close", "chdir", "fileno", "eof", "readline", "pos", "lock",
    "require", "getc", "tell", "closedir", "readdir", "study", "chroot"]

/-- Functions without arguments. -/
def bareWords : List String := ["time", "times", "wait", "wantarray", "getppid", "fork"]

/-- Functions of as many arguments as there are. -/
def listWords : List String :=
  ["die", "warn", "join", "push", "unshift", "splice", "split", "sprintf", "reverse", "unlink", "open", "pack",
    "unpack", "index", "rindex", "substr", "atan2", "kill", "system", "exec", "chmod", "mkdir", "opendir",
    "binmode", "read", "sysread", "syswrite", "seek", "select", "utime", "rename", "link", "symlink", "chomp",
    "chop", "return", "waitpid", "bless", "chown", "truncate", "local", "vec", "crypt", "sysopen", "pipe"]

/-- Functions of the modules that are known. -/
def moduleWords : List (String × List String) :=
  [("strict", []), ("warnings", []), ("utf8", []), ("feature", []), ("integer", []), ("lib", []), ("vars", []),
    ("open", []), ("bytes", []), ("parent", []), ("base", []), ("constant", []), ("Carp", ["croak", "confess", "carp", "cluck"]),
    ("List::Util", ["sum", "sum0", "max", "min", "maxstr", "minstr", "product", "first", "any", "all", "none",
      "reduce", "uniq", "shuffle"]),
    ("Scalar::Util", ["looks_like_number", "reftype", "blessed"]),
    ("POSIX", ["floor", "ceil", "fmod", "pow", "_exit"]),
    ("MIME::Base64", ["encode_base64", "decode_base64"]),
    ("Time::HiRes", ["usleep", "sleep", "time"]), ("IO::Handle", []), ("IO::File", []), ("Exporter", []),
    ("Encode", ["encode", "decode", "encode_utf8", "decode_utf8"])]

/-- Functions that come with a module and not by themselves. -/
def importedWords : List String :=
  moduleWords.flatMap fun m => if m.1 = "Time::HiRes" then ["usleep"] else m.2

/-- Functions of modules whose first argument may be a block. -/
def blockWords : List String := ["first", "any", "all", "none", "reduce"]

/-- The letters that ask something of a file. -/
def fileLetters : List Char := "edfrwxszlpSbcugktTBAMCoRWXO".toList

/-- What a backslash stands for between double quotes, `s` being what follows it; and what follows that. -/
def escapeAt (s : List Char) : List Char × List Char :=
  let coded (n : Nat) : List Char := [Char.ofNat n]
  match s with
  | [] => (['\\'], [])
  | 'n' :: s => (['\n'], s)
  | 't' :: s => (['\t'], s)
  | 'r' :: s => (['\r'], s)
  | 'a' :: s => (['\x07'], s)
  | 'b' :: s => (['\x08'], s)
  | 'f' :: s => (['\x0c'], s)
  | 'e' :: s => (['\x1b'], s)
  | 'x' :: '{' :: s =>
    let ds := s.takeWhile (· != '}')
    (coded (digitValue 16 (ds.filter isHex)), s.drop (ds.length + 1))
  | 'x' :: s =>
    let ds := (s.take 2).takeWhile isHex
    (coded (digitValue 16 ds), s.drop ds.length)
  | 'o' :: '{' :: s =>
    let ds := s.takeWhile (· != '}')
    (coded (digitValue 8 (ds.filter isOctal)), s.drop (ds.length + 1))
  | 'N' :: '{' :: 'U' :: '+' :: s =>
    let ds := s.takeWhile (· != '}')
    (coded (digitValue 16 (ds.filter isHex)), s.drop (ds.length + 1))
  | 'c' :: c :: s => (coded (c.toUpper.toNat ^^^ 64), s)
  | c :: rest =>
    let ds := (s.take 3).takeWhile isOctal
    if !ds.isEmpty then (coded (digitValue 8 ds), s.drop ds.length) else ([c], rest)

/-! ### Tables of characters -/

/-- The characters that a table lists, ranges among them. -/
def listedFrom : Nat → List Char → List Char
  | 0, _ => []
  | fuel + 1, s =>
    let one (s : List Char) : Option (Char × List Char) := match s with
      | '\\' :: '-' :: rest => some ('-', rest)
      | '\\' :: rest =>
        let (cs, rest) := escapeAt rest
        cs.head?.map (·, rest)
      | c :: rest => some (c, rest)
      | [] => none
    match one s with
    | none => []
    | some (low, '-' :: c :: rest) =>
      match one (c :: rest) with
      | some (high, rest) =>
        (List.range (high.toNat + 1 - low.toNat)).map (fun i => Char.ofNat (low.toNat + i)) ++ listedFrom fuel rest
      | none => []
    | some (c, rest) => c :: listedFrom fuel rest

/-- The characters that a table lists. -/
def listed (s : List Char) : List Char := listedFrom (s.length + 1) s

end ClassLens.Tool.Scripting
