import ClassLens.Tool.Regex.Rich
import ClassLens.Shell.Floating

/-! # Reading rich regular expressions

* `Rich.Flags`: what letters may change within an expression.
* `Rich.parse`: an expression of a text, or what is wrong with it.

A text is read twice: names and numbers of groups may be used before the groups stand, so the first reading
only counts and names the groups. -/

namespace ClassLens.Tool

open Shell (isHex isOctal digitValue)

namespace Rich

/-- What letters change. -/
structure Flags where
  foldsCase : Bool := false
  /-- Whether the starts and ends of lines are looked at. -/
  byLine : Bool := false
  /-- Whether a point stands for a line break too. -/
  dotAll : Bool := false
  /-- Whether blanks and comments may stand between the parts. -/
  spaced : Bool := false
  /-- Whether groups without a name keep nothing. -/
  plainGroups : Bool := false
  /-- Whether repetitions prefer less. -/
  lazy : Bool := false
  /-- Whether two groups may have one name. -/
  sameNames : Bool := false
  /-- Whether an end is only the very end. -/
  strictEnd : Bool := false
  /-- Whether a look behind must have one width in each of its branches. -/
  fixedLooks : Bool := true

/-- Where the reading of an expression stands. -/
structure Reading where
  rest : List Char
  count : Nat := 0
  names : List (String × Nat) := []
  flags : Flags
  /-- Whether a part that was read may be repeated. -/
  mayRepeat : Bool := false

/-- What is known from the first reading: the number of groups and their names. -/
structure Known where
  count : Nat
  names : List (String × Nat)

/-! ### Characters and sets -/

/-- The set of a letter after a backslash. -/
def kindOf? (c : Char) : Option Letter :=
  let name : Option String := match c.toLower with
    | 'd' => some "digit"
    | 's' => some "space"
    | 'w' => some "word"
    | 'h' => some "horizontal"
    | 'v' => some "vertical"
    | _ => none
  name.map fun name => .kind c.isUpper name

/-- Sets of characters by the names of properties. -/
def propertyOf? (name : String) : Option (List Letter) :=
  let kinds (names : List String) : Option (List Letter) := some (names.map (.kind false))
  let among (cs : String) : Option (List Letter) := some (cs.toList.map fun c => .range c c)
  match name with
  | "L" | "L&" | "Latin" | "Alphabetic" => kinds ["alpha"]
  | "Lu" | "Uppercase" => kinds ["upper"]
  | "Ll" | "Lowercase" => kinds ["lower"]
  | "N" | "Nd" => kinds ["digit"]
  | "Xan" => kinds ["alnum"]
  | "Xwd" => kinds ["word"]
  | "Xsp" | "Xps" => kinds ["space"]
  | "Z" | "Zs" => among " "
  | "C" | "Cc" => kinds ["cntrl"]
  | "Any" => kinds ["any"]
  | "P" => among "!\"#%&'()*,-./:;?@[\\]_\x7b\x7d"
  | "Pc" => among "_"
  | "Pd" => among "-"
  | "Ps" => among "([\x7b"
  | "Pe" => among ")]\x7d"
  | "Po" => among "!\"#%&'*,./:;?@\\"
  | "S" => among "$+<=>^`|~"
  | "Sc" => among "$"
  | "Sm" => among "+<=>|~"
  | "Sk" => among "^`"
  | "Lt" | "Lm" | "Lo" | "M" | "Mn" | "Mc" | "Me" | "Nl" | "No" | "Pi" | "Pf" | "So" | "Zl" | "Zp" | "Cf"
  | "Cn" | "Co" | "Cs" | "Greek" | "Cyrillic" | "Han" | "Arabic" | "Hebrew" | "Hiragana" | "Katakana" => some []
  | _ => none

/-- Reads the name of a property. -/
def readProperty (negated : Bool) (s : List Char) : Except String (Bool × List Letter × List Char) :=
  let find (negated : Bool) (name : String) (rest : List Char) :
      Except String (Bool × List Letter × List Char) :=
    match propertyOf? name with
    | some letters => .ok (negated, letters, rest)
    | none => .error "unknown property after \\P or \\p"
  match s with
  | [] => .error "malformed \\P or \\p sequence"
  | '\x7b' :: rest =>
    let (negated, rest) := match rest with
      | '^' :: rest => (!negated, rest)
      | rest => (negated, rest)
    let name := rest.takeWhile (· != '\x7d')
    match rest.drop name.length with
    | _ :: after => find negated (String.ofList (name.filter fun c => c != ' ' && c != '_')) after
    | [] => .error "malformed \\P or \\p sequence"
  | c :: rest =>
    if c.isAlpha then find negated (String.singleton c) rest else .error "malformed \\P or \\p sequence"

/-- What a backslash with some characters after it stands for. -/
inductive Escape where
  | char (c : Char)
  | set (negated : Bool) (letters : List Letter)
  | again (n : Nat)
  | named (name : String)
  | call (n : Nat)
  | callNamed (name : String)
  | letter (c : Char)

/-- What is said of a character that is too great. -/
def tooLarge : String := "character code point value in \\x\x7b\x7d or \\o\x7b\x7d is too large"

/-- Reads digits between braces. -/
def readBraced (base : Nat) (isDigit : Char → Bool) (fault : String) (s : List Char) :
    Except String (Escape × List Char) :=
  let ds := s.takeWhile isDigit
  match s.drop ds.length with
  | '\x7d' :: rest =>
    if ds.isEmpty then .error "digits missing in \\x\x7b\x7d or \\o\x7b\x7d or \\N\x7bU+\x7d"
    else if digitValue base ds > 255 then .error tooLarge
    else .ok (.char (Char.ofNat (digitValue base ds)), rest)
  | _ => .error fault

/-- Reads an octal number of at most three digits. -/
def readOctal (s : List Char) : Except String (Escape × List Char) :=
  let ds := (s.take 3).takeWhile isOctal
  if digitValue 8 ds > 255 then .error "octal value is greater than \\377 in 8-bit non-UTF-8 mode"
  else .ok (.char (Char.ofNat (digitValue 8 ds)), s.drop ds.length)

/-- Whether a character may stand in a name. -/
def isNameChar (c : Char) : Bool := c.isAlphanum || c == '_'

/-- Reads a name up to a closing sign. -/
def readName (stop : Char) (s : List Char) : Except String (String × List Char) :=
  let name := s.takeWhile isNameChar
  if name.head?.any Char.isDigit then .error "subpattern name must start with a non-digit"
  else if name.isEmpty then .error "subpattern name expected"
  else
    match s.drop name.length with
    | c :: rest =>
      if c == stop then .ok (String.ofList name, rest)
      else .error "syntax error in subpattern name (missing terminator?)"
    | [] => .error "syntax error in subpattern name (missing terminator?)"

/-- Reads a number with a sign, which counts from the group that is read. -/
def readRelative (count : Nat) (forward : Bool) (s : List Char) : Option (Except String Nat × List Char) :=
  let missing : String := "reference to non-existent subpattern"
  match s with
  | '-' :: rest =>
    let ds := rest.takeWhile Char.isDigit
    let n := digitValue 10 ds
    if ds.isEmpty then none
    else if n = 0 || n > count then some (.error missing, rest.drop ds.length)
    else some (.ok (count + 1 - n), rest.drop ds.length)
  | '+' :: rest =>
    let ds := rest.takeWhile Char.isDigit
    let n := digitValue 10 ds
    if ds.isEmpty || !forward then none
    else if n = 0 then some (.error "a relative value of zero is not allowed", rest.drop ds.length)
    else some (.ok (count + n), rest.drop ds.length)
  | s =>
    let ds := s.takeWhile Char.isDigit
    if ds.isEmpty then none else some (.ok (digitValue 10 ds), s.drop ds.length)

/-- What is said of a reference that cannot be read. -/
def badReference : String :=
  "\\g is not followed by a braced, angle-bracketed, or quoted name/number or by a plain number"

/-- Reads what follows `\g`. -/
def readG (count : Nat) (s : List Char) : Except String (Escape × List Char) :=
  match s with
  | '\x7b' :: rest =>
    match readRelative count false rest with
    | some (n, '\x7d' :: after) => n.map fun n => (.again n, after)
    | some _ => .error badReference
    | none => (readName '\x7d' rest).map fun (name, after) => (.named name, after)
  | q :: rest =>
    if q == '<' || q == '\'' then
      let stop := if q == '<' then '>' else '\''
      match readRelative count true rest with
      | some (n, c :: after) =>
        if c == stop then n.map fun n => (.call n, after) else .error badReference
      | _ => (readName stop rest).map fun (name, after) => (.callNamed name, after)
    else
      match readRelative count false s with
      | some (n, after) => n.map fun n => (.again n, after)
      | none => .error badReference
  | [] => .error badReference

/-- Reads what follows `\k`. -/
def readK (s : List Char) : Except String (Escape × List Char) :=
  match s with
  | '\x7b' :: rest => (readName '\x7d' rest).map fun (name, after) => (.named name, after)
  | '<' :: rest => (readName '>' rest).map fun (name, after) => (.named name, after)
  | '\'' :: rest => (readName '\'' rest).map fun (name, after) => (.named name, after)
  | _ => .error "\\k is not followed by a braced, angle-bracketed, or quoted name"

/-- Whether bounds of a repetition stand at the start of a text. -/
def isBounds (s : List Char) : Bool :=
  match s with
  | '\x7b' :: rest =>
    let low := rest.takeWhile Char.isDigit
    !low.isEmpty && (match rest.drop low.length with
      | '\x7d' :: _ => true
      | ',' :: rest => (rest.dropWhile Char.isDigit).head? == some '\x7d'
      | _ => false)
  | _ => false

/-- Reads what follows a backslash. -/
def readEscape (count : Nat) (inSet : Bool) (s : List Char) : Except String (Escape × List Char) :=
  match s with
  | [] => .error "\\ at end of pattern"
  | c :: rest =>
    let char (n : Nat) : Except String (Escape × List Char) := .ok (.char (Char.ofNat n), rest)
    match c with
    | 'a' => char 7
    | 'e' => char 27
    | 'f' => char 12
    | 'n' => char 10
    | 'r' => char 13
    | 't' => char 9
    | '0' => readOctal s
    | 'o' =>
      match rest with
      | '\x7b' :: inner => readBraced 8 isOctal "non-octal character in \\o\x7b\x7d (closing brace missing?)" inner
      | _ => .error "missing opening brace after \\o"
    | 'x' =>
      match rest with
      | '\x7b' :: inner => readBraced 16 isHex "non-hex character in \\x\x7b\x7d (closing brace missing?)" inner
      | rest =>
        let ds := (rest.take 2).takeWhile isHex
        .ok (.char (Char.ofNat (digitValue 16 ds)), rest.drop ds.length)
    | 'c' =>
      match rest with
      | [] => .error "\\c at end of pattern"
      | d :: rest =>
        if d.toNat < 32 || d.toNat > 126 then .error "\\c must be followed by a printable ASCII character"
        else .ok (.char (Char.ofNat (d.toUpper.toNat ^^^ 64)), rest)
    | 'p' | 'P' =>
      (readProperty (c == 'P') rest).map fun (negated, letters, rest) => (.set negated letters, rest)
    | 'g' => if inSet then .error "escape sequence is invalid in character class" else readG count rest
    | 'k' => if inSet then .error "escape sequence is invalid in character class" else readK rest
    | _ =>
      if c.isDigit then
        let ds := s.takeWhile Char.isDigit
        let n := digitValue 10 ds
        if !inSet && (n < 10 || c ≥ '8' || n ≤ count) then .ok (.again n, s.drop ds.length)
        else if c ≥ '8' then .ok (.char c, rest)
        else readOctal s
      else
        match kindOf? c with
        | some k => .ok (.set false [k], rest)
        | none =>
          if "FLlUu".toList.contains c then
            .error "PCRE2 does not support \\F, \\L, \\l, \\N\x7bname\x7d, \\U, or \\u"
          else if c == 'N' && rest.head? == some '\x7b' && !isBounds rest then
            .error "\\N\x7bU+dddd\x7d is supported only in Unicode (UTF) mode"
          else if c.isAlpha && !"ABCEGKNQRXZbz".toList.contains c then
            .error "unrecognized character follows \\"
          else if c.isAlpha then .ok (.letter c, rest)
          else .ok (.char c, rest)

/-- The names of the classes in sets. -/
def setClasses : List String :=
  ["alpha", "lower", "upper", "alnum", "ascii", "blank", "cntrl", "digit", "graph", "print", "punct", "space",
    "word", "xdigit"]

/-- Whether a text is the inside of a class in a set, up to its end: its sign, its name, what follows. -/
def classAt? (s : List Char) : Option (Char × String × List Char) :=
  match s with
  | '[' :: q :: rest =>
    if q == ':' || q == '.' || q == '=' then
      let body := rest.takeWhile fun c => c != q && c != ']' && c != '[' && c != '\\'
      match rest.drop body.length with
      | c :: ']' :: after => if c == q then some (q, String.ofList body, after) else none
      | _ => none
    else none
  | _ => none

/-- An item of a set: a character, which may start a range, or a part of the set. -/
inductive SetItem where
  | char (c : Char)
  | part (letters : List Letter)

/-- Letters that are none of some. -/
def complement (letters : List Letter) : List Letter :=
  let held := (List.range 256).filter fun n => !letters.any (Letter.holds (Char.ofNat n))
  held.map fun n => .range (Char.ofNat n) (Char.ofNat n)

/-- Reads one item of a set; nothing where only signs without a meaning stood. -/
def readSetItem (s : List Char) : Except String (Option SetItem × List Char) :=
  match classAt? s with
  | some (':', name, after) =>
    let (negated, name) : Bool × String :=
      if name.startsWith "^" then (true, (name.drop 1).toString) else (false, name)
    if setClasses.contains name then .ok (some (.part [.kind negated name]), after)
    else .error "unknown POSIX class name"
  | some _ => .error "POSIX collating elements are not supported"
  | none =>
    match s with
    | '\\' :: rest =>
      match readEscape 0 true rest with
      | .error e => .error e
      | .ok (.char c, rest) => .ok (some (.char c), rest)
      | .ok (.set negated letters, rest) =>
        .ok (some (.part (if negated then complement letters else letters)), rest)
      | .ok (.letter 'b', rest) => .ok (some (.char '\x08'), rest)
      | .ok (.letter 'E', rest) => .ok (none, rest)
      | .ok (.letter 'N', _) => .error "\\N is not supported in a class"
      | .ok _ => .error "escape sequence is invalid in character class"
    | c :: rest => .ok (some (.char c), rest)
    | [] => .error "missing terminating ] for character class"

/-- Reads the items of a set. `literal` says whether all signs stand for themselves. -/
def readSet : Nat → Bool → Bool → List Letter → List Char → Except String (List Letter × List Char)
  | 0, _, _, _, _ => .error "missing terminating ] for character class"
  | n + 1, isFirst, literal, found, s =>
    match s with
    | [] => .error "missing terminating ] for character class"
    | '\\' :: 'E' :: rest => readSet n isFirst false found rest
    | c :: rest =>
      if literal then readSet n false true (.range c c :: found) rest
      else if c == ']' && !isFirst then .ok (found, rest)
      else
        match s with
        | '\\' :: 'Q' :: rest => readSet n isFirst true found rest
        | _ =>
          match readSetItem s with
          | .error e => .error e
          | .ok (none, rest) => readSet n isFirst false found rest
          | .ok (some (.part letters), rest) =>
            match rest with
            | '-' :: d :: _ =>
              if d == ']' then readSet n false false (letters ++ found) rest
              else .error "invalid range in character class"
            | rest => readSet n false false (letters ++ found) rest
          | .ok (some (.char low), rest) =>
            match rest with
            | '-' :: ']' :: _ => readSet n false false (.range low low :: found) rest
            | '-' :: after =>
              match readSetItem after with
              | .error e => .error e
              | .ok (some (.char high), rest) =>
                if high < low then .error "range out of order in character class"
                else readSet n false false (.range low high :: found) rest
              | .ok (some (.part _), _) => .error "invalid range in character class"
              | .ok (none, rest) => readSet n false false (.range low low :: found) rest
            | rest => readSet n false false (.range low low :: found) rest

/-! ### Repetitions -/

/-- The bounds at the start of a text, if there are such. -/
def boundsAt? (s : List Char) : Option (Except String (Nat × Option Nat) × List Char) :=
  let number (ds : List Char) : Except String Nat :=
    if digitValue 10 ds > 65535 then .error "number too big in \x7b\x7d quantifier" else .ok (digitValue 10 ds)
  match s with
  | '\x7b' :: rest =>
    let low := rest.takeWhile Char.isDigit
    if low.isEmpty then none
    else
      match rest.drop low.length with
      | '\x7d' :: after => some ((number low).map fun n => (n, some n), after)
      | ',' :: '\x7d' :: after => some ((number low).map fun n => (n, none), after)
      | ',' :: rest =>
        let high := rest.takeWhile Char.isDigit
        if high.isEmpty then none
        else
          match rest.drop high.length with
          | '\x7d' :: after =>
            some (do
              let n ← number low
              let m ← number high
              if m < n then throw "numbers out of order in \x7b\x7d quantifier"
              return (n, some m), after)
          | _ => none
      | _ => none
  | _ => none

/-- The repetition at the start of a text, if there is one. -/
def timesAt? (s : List Char) : Option (Except String (Nat × Option Nat) × List Char) :=
  match s with
  | '*' :: rest => some (.ok (0, none), rest)
  | '+' :: rest => some (.ok (1, none), rest)
  | '?' :: rest => some (.ok (0, some 1), rest)
  | s => boundsAt? s

/-- Skips comments and signs without a meaning, and blanks where they may stand. -/
def skipSpaces (x : Bool) : Nat → List Char → List Char
  | 0, s => s
  | n + 1, s =>
    match s with
    | '(' :: '?' :: '#' :: rest =>
      match rest.dropWhile (· != ')') with
      | _ :: after => skipSpaces x n after
      | [] => s
    | '\\' :: 'E' :: rest | '\\' :: 'Q' :: '\\' :: 'E' :: rest => skipSpaces x n rest
    | '#' :: rest => if x then skipSpaces x n (rest.dropWhile (· != '\n')).tail else s
    | c :: rest => if x && (c == ' ' || (9 ≤ c.toNat && c.toNat ≤ 13)) then skipSpaces x n rest else s
    | [] => s

/-! ### Groups -/

/-- The flags after letters, and what follows these. -/
def readFlags : Nat → Bool → Flags → List Char → Except String (Flags × List Char)
  | 0, _, f, s => .ok (f, s)
  | n + 1, on, f, s =>
    match s with
    | '-' :: rest => if on then readFlags n false f rest else .error "invalid hyphen in option setting"
    | 'i' :: rest => readFlags n on { f with foldsCase := on } rest
    | 'm' :: rest => readFlags n on { f with byLine := on } rest
    | 's' :: rest => readFlags n on { f with dotAll := on } rest
    | 'x' :: rest => readFlags n on { f with spaced := on } rest
    | 'n' :: rest => readFlags n on { f with plainGroups := on } rest
    | 'U' :: rest => readFlags n on { f with lazy := on } rest
    | 'J' :: rest => readFlags n on { f with sameNames := on } rest
    | c :: _ =>
      if c == ')' || c == ':' then .ok (f, s) else .error "unrecognized character after (? or (?-"
    | [] => .error "missing closing parenthesis"

/-- Takes note of a group's name. -/
def Reading.addName (r : Reading) (name : String) (number : Nat) : Except String Reading :=
  match r.names.lookup name with
  | some m =>
    if m = number || r.flags.sameNames then .ok { r with names := r.names ++ [(name, number)] }
    else .error "two named subpatterns have the same name (PCRE2_DUPNAMES not set)"
  | none => .ok { r with names := r.names ++ [(name, number)] }

/-- The number of a group that is referred to. -/
def referred (known : Option Known) (n : Nat) : Except String Nat :=
  match known with
  | some k => if n ≤ k.count then .ok n else .error "reference to non-existent subpattern"
  | none => .ok n

/-- The number of a group that is referred to by its name. -/
def referredName (known : Option Known) (name : String) : Except String Nat :=
  match known with
  | some k =>
    match k.names.lookup name with
    | some n => .ok n
    | none => .error "reference to non-existent subpattern"
  | none => .ok 0

/-- Whether something in an expression moves the start of a match. -/
def keeps : Rich → Bool
  | keep => true
  | seq a b | either a b | choose _ a b => keeps a || keeps b
  | many _ _ _ r | group _ r | atomic r | look _ _ r => keeps r
  | _ => false

/-- The branches of an expression. -/
def branches : Rich → List Rich
  | either a b => a :: branches b
  | r => [r]

/-- A look, where it may stand. -/
def lookOf (flags : Flags) (known : Option Known) (ahead negated : Bool) (body : Rich) : Except String Rich :=
  if keeps body then
    .error "\\K is not allowed in lookarounds (but see PCRE2_EXTRA_ALLOW_LOOKAROUND_BSK)"
  else if !ahead && flags.fixedLooks && known.isSome && (branches body).any fun b => (width? b).isNone then
    .error "lookbehind assertion is not fixed length"
  else .ok (look ahead negated body)

/-- The expressions one after the other. -/
def joined (parts : List Rich) : Rich :=
  match parts with
  | [] => nothing
  | r :: rest => rest.foldl seq r

/-- What verbs stand for: only failing has a meaning of its own here. -/
def verbOf? (name : String) : Option Rich :=
  if name = "F" || name = "FAIL" then some fails
  else if ["ACCEPT", "COMMIT", "PRUNE", "SKIP", "THEN", "MARK", ""].contains name then some nothing
  else if ["UTF", "UCP", "CR", "LF", "CRLF", "ANY", "ANYCRLF", "NUL", "NO_JIT", "NO_AUTO_POSSESS",
      "NO_START_OPT", "BSR_ANYCRLF", "BSR_UNICODE", "NOTEMPTY"].contains name then some nothing
  else none

/-- Reads a part that is no group. -/
def readAtom (known : Option Known) (r : Reading) : Except String (Rich × Reading) := do
  let f := r.flags
  match r.rest with
  | [] => return (nothing, r)
  | '^' :: rest => return (if f.byLine then lineStart else textStart, { r with rest, mayRepeat := false })
  | '$' :: rest =>
    return (if f.byLine then lineEnd else if f.strictEnd then textEnd else lastEnd,
      { r with rest, mayRepeat := false })
  | '.' :: rest =>
    return (one false true (if f.dotAll then [] else [.range '\n' '\n']), { r with rest, mayRepeat := true })
  | '[' :: rest =>
    match classAt? r.rest with
    | some _ => throw "POSIX named classes are supported only within a class"
    | none =>
      let (negated, rest) := match rest with
        | '^' :: rest => (true, rest)
        | rest => (false, rest)
      let (letters, rest) ← readSet (rest.length + 2) true false [] rest
      return (one f.foldsCase negated letters, { r with rest, mayRepeat := true })
  | '\\' :: rest =>
    let (e, rest) ← readEscape r.count false rest
    let r := { r with rest, mayRepeat := true }
    match e with
    | .char c => return (one f.foldsCase false [.range c c], r)
    | .set negated letters => return (one false negated letters, r)
    | .again n => return (again f.foldsCase (← referred known n), r)
    | .named name => return (again f.foldsCase (← referredName known name), r)
    | .call n => return (call (← referred known n), r)
    | .callNamed name => return (call (← referredName known name), r)
    | .letter c =>
      let edge (x : Rich) : Except String (Rich × Reading) := .ok (x, { r with mayRepeat := false })
      match c with
      | 'A' => edge textStart
      | 'Z' => edge lastEnd
      | 'z' => edge textEnd
      | 'G' => edge searchStart
      | 'b' => edge (wordEdge true)
      | 'B' => edge (wordEdge false)
      | 'K' => edge keep
      | 'N' => return (one false true [.range '\n' '\n'], r)
      | 'R' =>
        return (atomic (either (seq (one false false [.range '\r' '\r']) (one false false [.range '\n' '\n']))
          (one false false [.kind false "vertical"])), r)
      | _ => return (one false true [], r)
  | c :: rest => return (one f.foldsCase false [.range c c], { r with rest, mayRepeat := true })

mutual

/-- Reads alternatives up to a closing parenthesis or the end. With `resets` each of them counts its groups
anew. -/
def readBranches (known : Option Known) (resets : Bool) : Nat → Nat → Nat → Reading →
    Except String (Rich × Reading)
  | 0, _, _, _ => .error "pattern too long"
  | fuel + 1, start, most, r => do
    let (first, r) ← readParts known fuel [] { r with mayRepeat := false }
    match r.rest with
    | '|' :: rest =>
      let most := max most r.count
      let r := { r with rest, count := if resets then start else r.count }
      let (others, r) ← readBranches known resets fuel start most r
      return (either first others, r)
    | _ => return (first, { r with count := max most r.count })

/-- Reads parts up to the end of a branch; those that were read stand from the last one on. -/
def readParts (known : Option Known) : Nat → List Rich → Reading → Except String (Rich × Reading)
  | 0, _, _ => .error "pattern too long"
  | fuel + 1, parts, r => do
    let rest := skipSpaces r.flags.spaced r.rest.length r.rest
    let r := { r with rest }
    match rest with
    | [] => return (joined parts.reverse, r)
    | '|' :: _ | ')' :: _ => return (joined parts.reverse, r)
    | '(' :: '?' :: '#' :: _ => throw "missing ) after (?# comment"
    | '\\' :: 'Q' :: rest =>
      let rec literal : Nat → List Char → List Char × List Char
        | 0, s => ([], s)
        | _ + 1, [] => ([], [])
        | _ + 1, '\\' :: 'E' :: s => ([], s)
        | n + 1, c :: s => let (cs, rest) := literal n s; (c :: cs, rest)
      let (cs, rest) := literal (rest.length + 1) rest
      let one (c : Char) : Rich := one r.flags.foldsCase false [.range c c]
      readParts known fuel (cs.reverse.map one ++ parts)
        { r with rest, mayRepeat := r.mayRepeat || !cs.isEmpty }
    | c :: _ =>
      match timesAt? rest with
      | some (times, after) =>
        let (least, most) ← times
        if !r.mayRepeat then throw "quantifier does not follow a repeatable item"
        let (eagerness, after) : Eagerness × List Char := match skipSpaces r.flags.spaced after.length after with
          | '?' :: after => (if r.flags.lazy then .greedy else .lazy, after)
          | '+' :: after => (.possessive, after)
          | _ => (if r.flags.lazy then .lazy else .greedy, after)
        match parts with
        | part :: parts =>
          readParts known fuel (many least most eagerness part :: parts) { r with rest := after, mayRepeat := false }
        | [] => throw "quantifier does not follow a repeatable item"
      | none =>
        if c == '(' then
          let (part, r) ← readGroup known fuel { r with rest := rest.tail }
          readParts known fuel (part :: parts) r
        else
          let (part, r) ← readAtom known r
          readParts known fuel (part :: parts) r

/-- Reads alternatives and the parenthesis that closes them. -/
def readClosed (known : Option Known) (resets : Bool) : Nat → Reading → Except String (Rich × Reading)
  | 0, _ => .error "pattern too long"
  | fuel + 1, r => do
    let flags := r.flags
    let (body, r) ← readBranches known resets fuel r.count 0 r
    match r.rest with
    | ')' :: rest => return (body, { r with rest, flags, mayRepeat := true })
    | _ => throw "missing closing parenthesis"

/-- Reads a group after its opening parenthesis. -/
def readGroup (known : Option Known) : Nat → Reading → Except String (Rich × Reading)
  | 0, _ => .error "pattern too long"
  | fuel + 1, r => do
    let inner (rest : List Char) : Except String (Rich × Reading) := readClosed known false fuel { r with rest }
    let looks (ahead negated : Bool) (rest : List Char) : Except String (Rich × Reading) := do
      let (body, q) ← inner rest
      return (← lookOf r.flags known ahead negated body, q)
    let named (stop : Char) (rest : List Char) : Except String (Rich × Reading) := do
      let (name, rest) ← readName stop rest
      let number := r.count + 1
      let r ← ({ r with rest, count := number } : Reading).addName name number
      let (body, r) ← readClosed known false fuel r
      return (group number body, r)
    let calls (n : Nat) (rest : List Char) : Except String (Rich × Reading) := do
      match rest with
      | ')' :: rest => return (call (← referred known n), { r with rest, mayRepeat := true })
      | [] => throw "missing closing parenthesis"
      | _ => throw "(?R (recursive pattern call) must be followed by a closing parenthesis"
    match r.rest with
    | '*' :: rest =>
      let name := String.ofList (rest.takeWhile isNameChar)
      let after := rest.drop name.length
      match rest with
      | [] | ')' :: _ => throw "quantifier does not follow a repeatable item"
      | c :: _ =>
        if c.isLower then
          match after with
          | ':' :: body =>
            match name with
            | "pla" | "positive_lookahead" | "napla" | "non_atomic_positive_lookahead" => looks true false body
            | "nla" | "negative_lookahead" => looks true true body
            | "plb" | "positive_lookbehind" | "naplb" | "non_atomic_positive_lookbehind" => looks false false body
            | "nlb" | "negative_lookbehind" => looks false true body
            | "sr" | "script_run" => inner body
            | "atomic" | "asr" | "atomic_script_run" =>
              let (body, q) ← inner body
              return (atomic body, q)
            | _ => throw "(*alpha_assertion) not recognized"
          | _ => throw "(*alpha_assertion) not recognized"
        else
          let isVerb := after.head? == some ':' || after.head? == some ')'
          match verbOf? name, after.dropWhile (· != ')') with
          | some verb, _ :: after =>
            if isVerb then return (verb, { r with rest := after, mayRepeat := false })
            else throw "(*VERB) not recognized or malformed"
          | _, _ => throw "(*VERB) not recognized or malformed"
    | '?' :: rest =>
      match rest with
      | [] => throw "missing closing parenthesis"
      | ':' :: rest => inner rest
      | '|' :: rest => readClosed known true fuel { r with rest }
      | '>' :: rest =>
        let (body, q) ← inner rest
        return (atomic body, q)
      | '=' :: rest => looks true false rest
      | '!' :: rest => looks true true rest
      | '*' :: rest => looks true false rest
      | '<' :: '=' :: rest => looks false false rest
      | '<' :: '!' :: rest => looks false true rest
      | '<' :: rest => named '>' rest
      | '\'' :: rest => named '\'' rest
      | 'P' :: '<' :: rest => named '>' rest
      | 'P' :: '=' :: rest =>
        let (name, rest) ← readName ')' rest
        return (again r.flags.foldsCase (← referredName known name), { r with rest, mayRepeat := true })
      | 'P' :: '>' :: rest | '&' :: rest =>
        let (name, rest) ← readName ')' rest
        return (call (← referredName known name), { r with rest, mayRepeat := true })
      | ['P'] => throw "missing closing parenthesis"
      | 'P' :: _ => throw "unrecognized character after (?P"
      | 'R' :: rest => calls 0 rest
      | 'C' :: rest =>
        let ds := rest.takeWhile Char.isDigit
        if digitValue 10 ds > 255 then throw "number after (?C is greater than 255"
        match rest.drop ds.length with
        | ')' :: rest => return (nothing, { r with rest, mayRepeat := false })
        | [] => throw "missing closing parenthesis"
        | _ =>
          if ds.isEmpty then throw "unrecognized string delimiter follows (?C"
          throw "closing parenthesis for (?C expected"
      | '(' :: rest => readChoice known fuel { r with rest }
      | c :: rest =>
        let isNumber := c.isDigit || ((c == '+' || c == '-') && rest.head?.any Char.isDigit)
        if isNumber then
          match readRelative r.count true (c :: rest) with
          | some (n, rest) => calls (← n) rest
          | none => throw "digit expected after (?+ or (?-"
        else
          let plain : Flags := { r.flags with
            foldsCase := false
            byLine := false
            dotAll := false
            spaced := false
            plainGroups := false }
          let (flags, start) := if c == '^' then (plain, rest) else (r.flags, c :: rest)
          let (flags, rest) ← readFlags (start.length + 1) true flags start
          match rest with
          | ')' :: rest => return (nothing, { r with rest, flags, mayRepeat := false })
          | _ :: rest =>
            let (body, q) ← readClosed known false fuel { r with rest, flags }
            return (body, { q with flags := r.flags })
          | [] => throw "missing closing parenthesis"
    | rest =>
      if r.flags.plainGroups then inner rest
      else
        let number := r.count + 1
        let (body, r) ← readClosed known false fuel { r with rest, count := number }
        return (group number body, r)

/-- Reads a choice after its two opening parentheses. -/
def readChoice (known : Option Known) : Nat → Reading → Except String (Rich × Reading)
  | 0, _ => .error "pattern too long"
  | fuel + 1, r => do
    let body (r : Reading) : Except String (List Rich × Reading) := do
      let (body, r) ← readClosed known false fuel r
      let parts := branches body
      if parts.length > 2 then throw "conditional subpattern contains more than two branches"
      return (parts, r)
    let choice (condition : RichCondition) (rest : List Char) : Except String (Rich × Reading) := do
      match rest with
      | ')' :: rest =>
        let (parts, r) ← body { r with rest }
        return (choose condition (parts.headD nothing) ((parts[1]?).getD nothing), r)
      | _ => throw "missing closing parenthesis for condition"
    match r.rest with
    | [] => throw "missing closing parenthesis"
    | '?' :: _ | '*' :: _ =>
      let isLook : Bool := match r.rest with
        | '?' :: '<' :: c :: _ => c == '=' || c == '!' || c == '*'
        | '?' :: c :: _ => c == '=' || c == '!' || c == '*'
        | '*' :: c :: _ => c.isLower
        | _ => false
      if !isLook then throw "assertion expected after (?( or (?(?C)"
      let (test, r) ← readGroup known fuel r
      let (parts, r) ← body r
      match test with
      | look ahead negated inner =>
        return (either (seq test (parts.headD nothing))
          (seq (look ahead (!negated) inner) ((parts[1]?).getD nothing)), r)
      | _ => throw "assertion expected after (?( or (?(?C)"
    | '<' :: rest =>
      let (name, rest) ← readName '>' rest
      choice (.hasGroup (← referredName known name)) rest
    | '\'' :: rest =>
      let (name, rest) ← readName '\'' rest
      choice (.hasGroup (← referredName known name)) rest
    | rest =>
      match readRelative r.count true rest with
      | some (n, rest) => choice (.hasGroup (← referred known (← n))) rest
      | none =>
        let name := rest.takeWhile isNameChar
        let after := rest.drop name.length
        if name == "DEFINE".toList || name.head? == some 'R' then choice .never after
        else
          let (name, _) ← readName ')' rest
          choice (.hasGroup (← referredName known name)) after

end

/-- Reads a whole expression. -/
def readWhole (flags : Flags) (known : Option Known) (text : List Char) : Except String (Rich × Reading) := do
  let (body, r) ← readBranches known false (8 * text.length + 100) 0 0 { rest := text, flags }
  match r.rest with
  | [] => return (body, r)
  | _ => throw "unmatched closing parenthesis"

/-- The expression of a text, with how many groups it has and their names. -/
def parse (flags : Flags) (text : List Char) : Except String (Rich × Known) := do
  let (_, r) ← readWhole flags none text
  let known : Known := ⟨r.count, r.names⟩
  let (body, _) ← readWhole flags (some known) text
  return (body, known)

end Rich

end ClassLens.Tool
