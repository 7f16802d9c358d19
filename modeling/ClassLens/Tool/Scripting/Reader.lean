import ClassLens.Tool.Scripting.Review

/-! # Reading scripts

* `readFull`: an expression.
* `readBlend`: a text between double quotes, or a pattern, with the variables in it.
* `readActs`: what is done, up to a closing brace or the end.
* `readScript`: a whole script.

An operator is read with the operands that bind more tightly to it than others do. -/

namespace ClassLens.Tool.Scripting

/-- What a name or a reference stands for after the sign of a variable. -/
inductive Base where
  | named (s : String)
  | pointed (e : Expr)

/-- The variable of a name or of a reference. -/
def Base.toExpr (shape : Shape) : Base → Expr
  | named s => .variable shape s
  | pointed e => .target shape e

/-- A piece of a text between double quotes. -/
inductive Bit where
  | letters (s : List Char)
  | value (e : Expr)
  | mode (c : Char)

/-- The text of an expression that is a text. -/
def textOf? : Expr → Option String
  | .constant (.text s) => some s
  | _ => none

/-- Puts a part before others, texts together. -/
def blendWith (e : Expr) (es : List Expr) : List Expr :=
  match textOf? e, es with
  | some s, f :: rest =>
    match textOf? f with
    | some t => .constant (.text (s ++ t)) :: rest
    | none => e :: es
  | _, es => e :: es

/-- The function that a mode of a text stands for. -/
def modeWord : Char → String
  | 'U' => "uc"
  | 'L' => "lc"
  | 'Q' => "quotemeta"
  | 'F' => "fc"
  | 'u' => "ucfirst"
  | _ => "lcfirst"

/-- Puts together the pieces of a text up to the end of a mode. -/
def assemble : Nat → Char → List Bit → List Expr × List Bit
  | 0, _, bits => ([], bits)
  | _ + 1, _, [] => ([], [])
  | fuel + 1, within, bit :: bits =>
    match bit with
    | .letters s =>
      let (es, rest) := assemble fuel within bits
      (blendWith (.constant (.text (String.ofList s))) es, rest)
    | .value e =>
      let (es, rest) := assemble fuel within bits
      (e :: es, rest)
    | .mode 'E' => if within == ' ' then assemble fuel within bits else ([], bits)
    | .mode c =>
      let cased (c : Char) : Bool := c == 'U' || c == 'L' || c == 'F'
      if cased c && cased within then ([], bit :: bits)
      else if c == 'u' || c == 'l' then
        let (es, rest) := assemble fuel within bits
        ([.call (modeWord c) [.blend es]], rest)
      else
        let (inner, rest) := assemble fuel c bits
        let (es, rest) := assemble fuel within rest
        (.call (modeWord c) [.blend inner] :: es, rest)

/-- Pieces of a text as one expression. -/
def blendOf (bits : List Bit) : Expr :=
  match (assemble (2 * bits.length + 2) ' ' bits).1 with
  | [] => .constant (.text "")
  | [.constant v] => .constant v
  | es => .blend es

/-- Whether braces hold the bounds of a repetition. -/
def isBounds (s : List Char) : Bool :=
  let rest := s.dropWhile Char.isDigit
  let rest := match rest with
    | ',' :: rest => rest.dropWhile Char.isDigit
    | rest => rest
  s.head?.any (fun c => c.isDigit || c == ',') && rest.head? == some '}'

/-- Whether brackets after a variable in a text hold an index. -/
def isIndex (inPattern : Bool) (s : List Char) : Bool :=
  match s with
  | '$' :: c :: _ => isWord c || c == '#'
  | '-' :: c :: rest => c.isDigit && (rest.dropWhile Char.isDigit).head? == some ']'
  | c :: _ => if c.isDigit then (s.dropWhile Char.isDigit).head? == some ']' else !inPattern && startsWord c
  | [] => false

/-- Whether a variable stands after a dollar sign in a text. -/
def startsVariable (inPattern : Bool) (s : List Char) : Bool :=
  match s with
  | [] => false
  | '{' :: _ | '$' :: _ => true
  | ':' :: ':' :: c :: _ => startsWord c
  | '-' :: c :: _ | '+' :: c :: _ => !inPattern && (c == '[' || s.head? == some '+')
  | c :: _ => isWord c || c == '&' || (!inPattern && "\x60'!/\\,;.@0<>?|".toList.contains c)

/-- The variables that need not be made known. -/
def isFree (name : String) : Bool :=
  match name.toList with
  | c :: _ => !startsWord c || name.toList.contains ':' ||
      ["ENV", "ARGV", "ARGVOUT", "INC", "SIG", "_", "a", "b", "STDIN", "STDOUT", "STDERR"].contains name
  | [] => true

/-- A variable, which must be known where the script asks for that. -/
def known (shape : Shape) (b : Base) : Reader Expr := do
  match b with
  | .named name =>
    let c ← get
    if name = "ISA" && c.space ≠ "main" then return .variable shape (c.space ++ "::ISA")
    if c.isStrict && !isFree name && !c.declared.contains (shape, name) then
      let shown := shape.sign ++ name
      set { c with complaints := c.complaints ++ ["Global symbol \"" ++ shown ++
        "\" requires explicit package name (did you forget to declare \"my " ++ shown ++ "\"?)" ++ c.place ++ ".\n"] }
    else if !c.declared.contains (shape, name) && (!isFree name || name.toList.contains ':') then mention name
  | .pointed _ => pure ()
  return b.toExpr shape

/-- Makes a variable known. -/
def declare (shape : Shape) (name : String) : Reader Unit :=
  modify fun c => { c with declared := (shape, name) :: c.declared }

/-- The name of a function or a list in the space of names at hand. -/
def inSpace (name : String) : Reader String := do
  let c ← get
  return if c.space = "main" || name.toList.contains ':' then name else c.space ++ "::" ++ name

/-- The acts with which a function takes its arguments, and says that there are too few or too many of them. -/
def takingActs (line : Nat) (name : String) (parameters : List (Option (Shape × String) × Option Expr)) : List Act :=
  let taken := Expr.variable .many "_"
  let count := Expr.call "scalar" [taken]
  let number (n : Nat) : Expr := .constant (.ofNat n)
  let isSlurpy := parameters.any fun p => p.1.any fun v => v.1 != .one
  let plain := parameters.filter fun p => p.1.all fun v => v.1 == .one
  let most := plain.length
  let least := (plain.filter fun p => p.2.isNone).length
  let complaint (word : String) (bound : String) (n : Nat) : Act :=
    .compute line (.call "die" [.blend [.constant (.text ("Too " ++ word ++ " arguments for subroutine '" ++ name ++
      "' (got ")), count, .constant (.text ("; expected " ++ bound ++ toString n ++ ")"))]])
  let few := Act.branch line (.binary "<" count (number least))
    [complaint "few" (if isSlurpy || least < most then "at least " else "") least] []
  let many := Act.branch line (.binary ">" count (number most))
    [complaint "many" (if least < most then "at most " else "") most] []
  let defaults := parameters.zipIdx.filterMap fun (p, i) =>
    match p with
    | (some (.one, x), some e) =>
      some (Act.branch line (.binary "<" count (number (i + 1))) [.compute line (.assign (.variable .one x) e)] [])
    | _ => none
  (if isSlurpy then [few] else [many, few]) ++
    [.compute line (.assign (.fresh (parameters.map Prod.fst) true false) taken)] ++ defaults

/-- Functions whose arguments may be names of files. -/
def fileWords : List String :=
  ["open", "close", "eof", "binmode", "opendir", "readdir", "closedir", "fileno", "select", "read", "sysread", "seek",
    "tell", "truncate", "readline", "getc", "syswrite", "require", "exists", "defined"]

/-- Reads the arguments of a function, where words may name files if the function asks for such. -/
def naming {α : Type} (word : String) (body : Reader α) : Reader α := do
  let before := (← get).takesNames
  modify fun c => { c with takesNames := fileWords.contains word }
  let a ← body
  modify fun c => { c with takesNames := before }
  return a

/-- The record. -/
def record : Expr := .variable .one "_"

/-- A match, a replacement or an exchange in a text, or a match of what an expression gives. -/
def applied (negated : Bool) (text : Expr) : Expr → Expr
  | .hits _ none pattern flags => .hits negated (some text) pattern flags
  | .replace _ none pattern new flags => .replace negated (some text) pattern new flags
  | .exchange none x => .exchange (some text) x
  | e => .hits negated (some text) e ""

/-- The expression that a row of acts is, if it is one. -/
def valueOf : List Act → Expr
  | [.compute _ e] => e
  | acts => .perform acts

/-- An operator between two operands. -/
def combined (op : String) (a b : Expr) : Expr :=
  match op with
  | "=" => .assign a b
  | "&&" | "and" => .join .both a b
  | "||" | "or" => .join .any a b
  | "//" => .join .there a b
  | "&&=" => .updateJoin .both a b
  | "||=" => .updateJoin .any a b
  | "//=" => .updateJoin .there a b
  | "=~" => applied false a b
  | "!~" => applied true a b
  | op =>
    if op.endsWith "=" && !(["==", "!=", "<=", ">="].contains op) then .update (op.dropEnd 1).toString a b
    else .binary op a b

/-- Words in quotes. -/
def quotedWords (s : List Char) : Expr := .row ((wordsIn s).map fun w => .constant (.text w))

/-- The letters after a pattern, of which only some have a meaning. -/
def readLetters (meant : String) : Reader String := do
  let c ← get
  let letters := c.rest.takeWhile isWord
  let near := String.ofList (c.before.take (c.before.length - c.last.length))
  let wrong := (letters.filter fun l => !meant.toList.contains l).map fun l =>
    "Unknown regexp modifier \"/" ++ String.singleton l ++ "\"" ++ c.place ++ ", near \"" ++ near ++ "\"\n"
  set { c with
    rest := c.rest.drop letters.length
    complaints := c.complaints ++ wrong }
  return String.ofList letters

/-- Whether the sign of a quote follows its word. -/
def opensQuote (s : List Char) : Bool :=
  match s with
  | '#' :: _ => true
  | s =>
    match s.dropWhile Records.isSpace with
    | '=' :: c :: _ => c != '>' && c != '=' && c != ' '
    | c :: _ => !isWord c && c != ',' && c != ';' && c != ')' && c != '#'
    | [] => false

/-- Reads something in a text of its own, and goes on where the reading stood. -/
def within {α : Type} (text : List Char) (body : Reader α) : Reader α := do
  let before ← get
  set { before with rest := text, skipped := 0, last := [], before := [], isQuoted := true }
  let a ← body
  modify fun c => { c with
    rest := before.rest
    line := before.line
    skipped := before.skipped
    last := before.last
    before := before.before
    isQuoted := before.isQuoted }
  return a

/-- Whether what follows an opening brace makes a table of it: a first key with a comma or an arrow. -/
def looksLikeTable (s : List Char) : Bool :=
  let s := s.dropWhile Records.isSpace
  let after (n : Nat) (comma : Bool) : Bool :=
    match (s.drop n).dropWhile Records.isSpace with
    | ',' :: _ => comma
    | '=' :: '>' :: _ => true
    | _ => false
  match s with
  | c :: rest =>
    if c == '"' || c == '\'' then after ((rest.takeWhile (· != c)).length + 2) true
    else isWord c && after (s.takeWhile isWord).length !c.isLower
  | [] => false

/-- The new variable that stands next; none for a place that is passed over. -/
def readNew : Reader (Option (Shape × String)) := do
  let shapeOf (c : Char) : Option Shape :=
    if c == '$' then some .one else if c == '@' then some .many else if c == '%' then some .keyed else none
  match ← peek with
  | c :: after =>
    match shapeOf c with
    | some shape =>
      let name := nameAt after
      if name.isEmpty then unexpected
      else
        advance (name.length + 1)
        return some (shape, String.ofList name)
    | none => if ← acceptWord "undef" then return none else unexpected
  | [] => unexpected

/-- New variables up to a closing parenthesis. -/
def readNewRow : Nat → List (Option (Shape × String)) → Reader (List (Option (Shape × String)))
  | 0, found => return found
  | fuel + 1, found => do
    if ← accept ")" then return found
    else
      let v ← readNew
      let _ ← accept ","
      readNewRow fuel (found ++ [v])

/-- Reads new variables after their word. -/
def readFresh (word : String) : Reader Expr := do
  let isRow ← accept "("
  let names ← if isRow then readNewRow (← get).rest.length [] else pure [← readNew]
  for v in names do
    match v with
    | some (shape, name) =>
      reviewNew word shape name
      declare shape name
    | none => pure ()
  if word = "our" then
    let space := (← get).space
    let es := names.map fun v => match v with
      | some (shape, name) => Expr.variable shape (if name = "ISA" && space ≠ "main" then space ++ "::ISA" else name)
      | none => Expr.call "undef" []
    return match es, isRow with
      | [e], false => e
      | es, _ => .row es
  else return .fresh names isRow (word = "state")

/-- The test of a loop: a line that is read is put into the record. -/
def looped : Expr → Expr
  | .readLine h => .call "defined" [.assign record (.readLine h)]
  | .paths p => .call "defined" [.assign record (.paths p)]
  | .assign place (.readLine h) => .call "defined" [.assign place (.readLine h)]
  | e => e

/-- Reads something whose new variables are its own. -/
def apart {α : Type} (body : Reader α) : Reader α := do
  let before ← get
  modify fun c => { c with blockStart := c.declared.length }
  let a ← body
  modify fun c => { c with
    declared := before.declared
    blockStart := before.blockStart
    cautions := before.cautions }
  return a

/-- The names that a script gives to cautions. -/
def namesOf : List Expr → List String
  | [] => []
  | .row es :: rest => (es.filterMap textOf?) ++ namesOf rest
  | e :: rest => (textOf? e).toList ++ namesOf rest

/-- The characters that UTF-8 bytes stand for, each of them given as a character. -/
def decoded (s : List Char) : List Char :=
  ((String.fromUTF8? ⟨(Shell.toBytes (String.ofList s)).toArray⟩).map String.toList).getD s

/-- Asks for cautions, or for none of them. -/
def useCautions (wanted : Bool) (names : List String) : Reader Act := do
  let c ← get
  let old := c.cautions.getD ⟨c.isLoud, [], []⟩
  let new := if wanted then old.including names else old.excluding names
  set { c with cautions := some new }
  return .heed new

/-- The cautions at hand, as an act. -/
def heeding : Reader (List Act) := return (← get).cautions.toList.map Act.heed

/-- What a version of the language brings with it. -/
def useVersion (version : List Char) : Reader (List Act) := do
  let digits := (version.dropWhile (· == 'v')).takeWhile fun c => c.isDigit || c == '.'
  let parts := (String.ofList digits).splitOn "."
  let minor := match version.head?, parts with
    | some 'v', _ :: m :: _ => Shell.digitValue 10 m.toList
    | _, [_, m] => Shell.digitValue 10 (m.toList.take 3)
    | _, _ :: m :: _ => Shell.digitValue 10 m.toList
    | _, _ => 0
  if minor ≥ 11 then modify fun c => { c with isStrict := true }
  if minor ≥ 35 then return [← useCautions true []] else return []

/-- Gives a caution about a part of a row that is meant to be one value. -/
def reviewSlice (open_ close : String) (shape : Shape) (b : Base) (index : Expr) : Reader Unit := do
  let shown : Option String := match index with
    | .constant (.text s) => some (shownText s)
    | .constant v => some v.toText
    | .variable .one _ => some "..."
    | _ => none
  match b, shown with
  | .named name, some text =>
    let part := name ++ open_ ++ text ++ close
    let _ := shape
    note "syntax" ("Scalar value @" ++ part ++ " better written as $" ++ part)
  | _, _ => return ()

/-- Gives cautions about an operator after its first operand. -/
def reviewOperator (op : String) (e : Expr) : Reader Unit := do
  match op, e with
  | "=~", .variable .many name | "!~", .variable .many name =>
    note "misc" ("Applying pattern match (m//) to @" ++ name ++ " will act on scalar(@" ++ name ++ ")")
  | "=~", .variable .keyed name | "!~", .variable .keyed name =>
    note "misc" ("Applying pattern match (m//) to %" ++ name ++ " will act on scalar(%" ++ name ++ ")")
  | "&&", e | "||", e | "//", e | "?", e => reviewTest (← get).line e
  | "=", _ =>
    match (← get).rest with
    | c :: d :: _ =>
      if Records.isSpace d && "+*/%.-&|^".toList.contains c then
        note "syntax" ("Reversed " ++ String.singleton c ++ "= operator")
    | _ => return ()
  | _, _ => return ()

/-- Gives a caution about a name in a text that looks like an address. -/
def reviewList (b : Base) : Reader Unit := do
  match b with
  | .named name =>
    let c ← get
    let isKnown := isFree name || c.declared.contains (.many, name) || c.mentions.any fun m => m.1 == name
    if !isKnown && !c.isStrict then note "ambiguous" ("Possible unintended interpolation of @" ++ name ++ " in string")
  | .pointed _ => return ()

/-- Gives a caution about a backslash before a letter that stands for itself. -/
def reviewEscape (m : Char) : Reader Unit :=
  if m.isAlphanum && !("ntrabfexoNc01234567".toList.contains m) then
    note "misc" ("Unrecognized escape \\" ++ String.singleton m ++ " passed through")
  else return ()

/-- Gives a caution about a word without quotes. -/
def reviewBareword (w : String) : Reader Unit :=
  if w.toList.all Char.isLower then
    note "reserved" ("Unquoted string \"" ++ w ++ "\" may clash with future reserved word")
  else return ()

/-- Gives a caution about a function that has a body already. -/
def reviewBody (name whole : String) : Reader Unit := do
  if (← get).bodies.contains whole then note "redefine" ("Subroutine " ++ name ++ " redefined")
  modify fun c => { c with bodies := whole :: c.bodies }

/-- Makes a function known that gives a value. -/
def defineConstant (line : Nat) (name : String) (values : List Expr) : Reader Act := do
  modify fun c => { c with
    routines := name :: c.routines
    constants := name :: c.constants }
  return .define name [.compute line (match values with
    | [e] => e
    | es => .row es)]

/-- Makes functions known that give values, names and values one after the other. -/
def defineConstants (line : Nat) : List Expr → Reader (List Act)
  | key :: value :: rest => do
    match textOf? key with
    | some name =>
      let act ← defineConstant line name [value]
      return act :: (← defineConstants line rest)
    | none => defineConstants line rest
  | _ => return []

/-- The directories in which modules are looked for. -/
def searched : List String :=
  ["/etc/perl", "/usr/local/lib/x86_64-linux-gnu/perl/5.36.0", "/usr/local/share/perl/5.36.0",
    "/usr/lib/x86_64-linux-gnu/perl5/5.36", "/usr/share/perl5", "/usr/lib/x86_64-linux-gnu/perl-base",
    "/usr/lib/x86_64-linux-gnu/perl/5.36", "/usr/share/perl/5.36", "/usr/local/lib/site_perl"]

set_option maxHeartbeats 400000 in
mutual

/-- Reads an expression with the words that join expressions. -/
def readFull (fuel : Nat) : Reader Expr :=
  match fuel with
  | 0 => unexpected
  | fuel + 1 => do
    readAlternatives fuel (← readAnd fuel)
termination_by structural fuel

/-- Goes on with an expression over `or`. -/
def readAlternatives (fuel : Nat) (e : Expr) : Reader Expr :=
  match fuel with
  | 0 => unexpected
  | fuel + 1 => do
    if ← acceptWord "or" then
      let other ← readAnd fuel
      reviewOperator "||" e
      readAlternatives fuel (.join .any e other)
    else if ← acceptWord "xor" then readAlternatives fuel (.binary "xor" e (← readAnd fuel))
    else return e
termination_by structural fuel

/-- Reads an expression without `or`. -/
def readAnd (fuel : Nat) : Reader Expr :=
  match fuel with
  | 0 => unexpected
  | fuel + 1 => do
    readConditions fuel (← readNot fuel)
termination_by structural fuel

/-- Goes on with an expression over `and`. -/
def readConditions (fuel : Nat) (e : Expr) : Reader Expr :=
  match fuel with
  | 0 => unexpected
  | fuel + 1 => do
    if ← acceptWord "and" then
      let other ← readNot fuel
      reviewOperator "&&" e
      readConditions fuel (.join .both e other)
    else return e
termination_by structural fuel

/-- Reads an expression without `and`. -/
def readNot (fuel : Nat) : Reader Expr :=
  match fuel with
  | 0 => unexpected
  | fuel + 1 => do
    if ← acceptWord "not" then return .unary "!" (← readNot fuel) else readCommas fuel
termination_by structural fuel

/-- Reads expressions with commas between them; one without a comma stands for itself. -/
def readCommas (fuel : Nat) : Reader Expr :=
  match fuel with
  | 0 => unexpected
  | fuel + 1 => do
    let first ← readClimb fuel 6
    let rest ← peek
    if rest.head? == some ',' || "=>".toList.isPrefixOf rest then
      advance (if rest.head? == some ',' then 1 else 2)
      return .row (first :: (← readItems fuel))
    else return first
termination_by structural fuel

/-- Reads expressions with commas between them, or none. -/
def readItems (fuel : Nat) : Reader (List Expr) :=
  match fuel with
  | 0 => unexpected
  | fuel + 1 => do
    let rest ← peek
    if rest.head? == some ',' then
      advance 1
      readItems fuel
    else if !startsTerm rest then return []
    else
      let first ← readClimb fuel 6
      let rest ← peek
      if rest.head? == some ',' then
        advance 1
        return first :: (← readItems fuel)
      else if "=>".toList.isPrefixOf rest then
        advance 2
        return first :: (← readItems fuel)
      else return [first]
termination_by structural fuel

/-- Reads operators that bind at least so tightly, with their operands. -/
def readClimb (fuel least : Nat) : Reader Expr :=
  match fuel with
  | 0 => unexpected
  | fuel + 1 => do
    readOperators fuel least (← readUnary fuel)
termination_by structural fuel

/-- Goes on with an expression over operators that bind at least so tightly. -/
def readOperators (fuel least : Nat) (e : Expr) : Reader Expr :=
  match fuel with
  | 0 => unexpected
  | fuel + 1 => do
    match operatorAt (← peek) with
    | none => return e
    | some (op, tightness) =>
      if tightness < least then return e
      else
        advance op.length
        reviewOperator op e
        if op = "?" then
          let yes ← readClimb fuel 6
          expect ":"
          readOperators fuel least (.either e yes (← readClimb fuel 7))
        else
          let isRight := tightness = 6 || op = "**"
          let other ← readClimb fuel (if isRight then tightness else tightness + 1)
          let number := (← get).rest.length
          let whole : Expr := if op = ".." || op = "..." then .range number (op = "...") e other else combined op e other
          readOperators fuel least whole
termination_by structural fuel

/-- Reads an operand with the signs before and after it. -/
def readUnary (fuel : Nat) : Reader Expr :=
  match fuel with
  | 0 => unexpected
  | fuel + 1 => do
    let rest ← peek
    let letter (c : Char) (after : List Char) : Bool :=
      fileLetters.contains c && !after.head?.any isWord &&
        (let s := after.dropWhile Records.isSpace
         !("=>".toList.isPrefixOf s) && !(s.head?.any (",;)=(".toList.contains ·) && s.head? != some '(')
          && s.head? != some '(' || s.head? == some '(')
    match rest with
    | '!' :: _ =>
      advance 1
      return .unary "!" (← readClimb fuel 20)
    | '~' :: _ =>
      advance 1
      return .unary "~" (← readClimb fuel 20)
    | '\\' :: _ =>
      advance 1
      match ← readClimb fuel 20 with
      | .invoke code none => return code
      | .constant (.handle name) => return .constant (.handle name)
      | e => return .reference e
    | '+' :: '+' :: _ =>
      advance 2
      return .step true true (← readClimb fuel 22)
    | '-' :: '-' :: _ =>
      advance 2
      return .step false true (← readClimb fuel 22)
    | '+' :: _ =>
      advance 1
      readClimb fuel 20
    | '-' :: c :: after =>
      if letter c after then
        advance 2
        let rest ← peek
        let arg ← if startsTerm rest then readClimb fuel 17 else pure record
        return .call ("-" ++ String.singleton c) [arg]
      else if startsWord c then
        advance 1
        let w ← peekWord
        if importedWords.contains w || recordWords.contains w || unaryWords.contains w ||
            (← get).routines.contains w then
          return .unary "-" (← readClimb fuel 21)
        else
          advance w.length
          return .constant (.text ("-" ++ w))
      else
        advance 1
        return .unary "-" (← readClimb fuel 21)
    | _ =>
      let e ← readPostfix fuel
      let rest ← peek
      if "++".toList.isPrefixOf rest then
        advance 2
        return .step true false e
      else if "--".toList.isPrefixOf rest then
        advance 2
        return .step false false e
      else return e
termination_by structural fuel

/-- Reads an operand with what stands in brackets and after arrows behind it. -/
def readPostfix (fuel : Nat) : Reader Expr :=
  match fuel with
  | 0 => unexpected
  | fuel + 1 => do
    let (e, isPart) ← readTerm fuel
    readArrows fuel isPart e
termination_by structural fuel

/-- Reads what stands in brackets and after arrows behind an operand. -/
def readArrows (fuel : Nat) (isPart : Bool) (e : Expr) : Reader Expr :=
  match fuel with
  | 0 => unexpected
  | fuel + 1 => do
    let rest ← peek
    match rest with
    | '-' :: '>' :: after =>
      match after.dropWhile Records.isSpace with
      | '[' :: _ =>
        expect "->"
        readArrows fuel true (.item (.target .many e) (← readIndex fuel))
      | '{' :: _ =>
        expect "->"
        readArrows fuel true (.entry (.target .keyed e) (← readKey fuel))
      | '(' :: _ =>
        expect "->"
        expect "("
        let args ← readItems fuel
        expect ")"
        readArrows fuel true (.invoke e (some args))
      | '@' :: '*' :: _ =>
        expect "->"
        expect "@*"
        readArrows fuel false (.target .many e)
      | '%' :: '*' :: _ =>
        expect "->"
        expect "%*"
        readArrows fuel false (.target .keyed e)
      | '$' :: '*' :: _ =>
        expect "->"
        expect "$*"
        readArrows fuel false (.target .one e)
      | '@' :: '[' :: _ =>
        expect "->"
        expect "@"
        readArrows fuel false (.items (.target .many e) (← readIndex fuel))
      | '@' :: '{' :: _ =>
        expect "->"
        expect "@"
        readArrows fuel false (.entries (.target .keyed e) (← readKey fuel))
      | c :: _ =>
        let given : Reader (List Expr) := do
          if (← get).rest.head? == some '(' then
            expect "("
            let args ← readItems fuel
            expect ")"
            return args
          else return []
        if c == '$' then
          expect "->"
          expect "$"
          let method := (← readBase fuel).toExpr .one
          readArrows fuel true (.call "->" (e :: method :: (← given)))
        else if !startsWord c then unexpected
        else
          expect "->"
          let name ← peekWord
          advance name.length
          let space := (← get).space
          let name := if name.startsWith "SUPER::" then space ++ "::" ++ name else name
          readArrows fuel true (.call ("->" ++ name) (e :: (← given)))
      | [] => unexpected
    | '[' :: _ =>
      if isPart then readArrows fuel true (.item (.target .many e) (← readIndex fuel)) else return e
    | '{' :: _ =>
      if isPart then readArrows fuel true (.entry (.target .keyed e) (← readKey fuel)) else return e
    | '(' :: _ =>
      if isPart then
        match e with
        | .call .. => return e
        | e =>
          expect "("
          let args ← readItems fuel
          expect ")"
          readArrows fuel true (.invoke e (some args))
      else return e
    | _ => return e
termination_by structural fuel

/-- Reads an index in brackets. -/
def readIndex (fuel : Nat) : Reader Expr :=
  match fuel with
  | 0 => unexpected
  | fuel + 1 => do
    expect "["
    let e ← readFull fuel
    expect "]"
    return e
termination_by structural fuel

/-- Reads a key in braces; a word stands for itself. -/
def readKey (fuel : Nat) : Reader Expr :=
  match fuel with
  | 0 => unexpected
  | fuel + 1 => do
    expect "\x7b"
    let rest ← peek
    let (sign, body) := match rest with
      | '-' :: body => (['-'], body)
      | body => ([], body)
    let word := body.takeWhile isWord
    let after := (body.drop word.length).dropWhile Records.isSpace
    if word.head?.any startsWord && after.head? == some '}' then
      advance (sign.length + word.length)
      expect "\x7d"
      return .constant (.text (String.ofList (sign ++ word)))
    else
      let e ← readFull fuel
      expect "\x7d"
      return e
termination_by structural fuel

/-- Reads what follows the sign of a variable. -/
def readBase (fuel : Nat) : Reader Base :=
  match fuel with
  | 0 => unexpected
  | fuel + 1 => do
    let rest := (← get).rest
    let take (n : Nat) (name : List Char) : Reader Base := do
      modify fun c => { c with rest := c.rest.drop n }
      return .named (String.ofList name)
    match rest with
    | '{' :: inner =>
      let blanks := inner.takeWhile Records.isSpace
      let body := inner.drop blanks.length
      let name := match body with
        | '^' :: more => '^' :: more.takeWhile isWord
        | body => if body.head?.any Char.isDigit then body.takeWhile Char.isDigit else nameAt body
      let after := body.drop name.length
      let gap := after.takeWhile Records.isSpace
      if !name.isEmpty && (after.drop gap.length).head? == some '}' then
        take (blanks.length + name.length + gap.length + 2) name
      else return .pointed (valueOf (← readBlock fuel))
    | '$' :: c :: more =>
      if isWord c || c == '{' || c == '$' || (c == ':' && more.head? == some ':') then
        modify fun c => { c with rest := c.rest.drop 1 }
        let b ← readBase fuel
        return .pointed (← known .one b)
      else take 1 ['$']
    | '^' :: c :: _ => if c.isUpper then take 2 ['^', c] else take 1 ['^']
    | ':' :: ':' :: more =>
      let name := nameAt more
      if name.isEmpty then take 1 [':'] else take (name.length + 2) (':' :: ':' :: name)
    | c :: _ =>
      if c.isDigit then
        let ds := rest.takeWhile Char.isDigit
        take ds.length ds
      else
        let name := nameAt rest
        if name.isEmpty then take 1 [c]
        else
          let bare := if "main::".toList.isPrefixOf name then name.drop 4 else name
          take name.length bare
    | [] => unexpected
termination_by structural fuel

/-- Reads a variable with one value, or a part of a greater one, after its sign; whether it is such a part. -/
def readScalar (fuel : Nat) : Reader (Expr × Bool) :=
  match fuel with
  | 0 => unexpected
  | fuel + 1 => do
    let b ← readBase fuel
    match (← get).rest with
    | '[' :: _ => return (.item (← known .many b) (← readIndex fuel), true)
    | '{' :: _ => return (.entry (← known .keyed b) (← readKey fuel), true)
    | _ => return (← known .one b, false)
termination_by structural fuel

/-- Reads a variable in a text after its dollar sign, with the parts that belong to it. -/
def readInText (fuel : Nat) (inPattern : Bool) : Reader Expr :=
  match fuel with
  | 0 => unexpected
  | fuel + 1 => do
    let b ← readBase fuel
    match (← get).rest with
    | '[' :: s =>
      if isIndex inPattern s then readParts fuel inPattern (.item (← known .many b) (← readIndex fuel)) else known .one b
    | '{' :: s =>
      if inPattern && isBounds s then known .one b
      else readParts fuel inPattern (.entry (← known .keyed b) (← readKey fuel))
    | '-' :: '>' :: c :: s =>
      let e ← known .one b
      if c == '[' && isIndex inPattern s then
        modify fun c => { c with rest := c.rest.drop 2 }
        readParts fuel inPattern (.item (.target .many e) (← readIndex fuel))
      else if c == '{' then
        modify fun c => { c with rest := c.rest.drop 2 }
        readParts fuel inPattern (.entry (.target .keyed e) (← readKey fuel))
      else return e
    | _ => known .one b
termination_by structural fuel

/-- Goes on with a variable in a text over further parts of it. -/
def readParts (fuel : Nat) (inPattern : Bool) (e : Expr) : Reader Expr :=
  match fuel with
  | 0 => return e
  | fuel + 1 => do
    match (← get).rest with
    | '[' :: s =>
      if isIndex inPattern s then readParts fuel inPattern (.item (.target .many e) (← readIndex fuel)) else return e
    | '{' :: s =>
      if inPattern && isBounds s then return e
      else readParts fuel inPattern (.entry (.target .keyed e) (← readKey fuel))
    | '-' :: '>' :: c :: s =>
      if c == '[' && isIndex inPattern s || c == '{' then
        modify fun c => { c with rest := c.rest.drop 2 }
        readParts fuel inPattern e
      else return e
    | _ => return e
termination_by structural fuel

/-- Reads the pieces of a text between double quotes. -/
def readBits (fuel : Nat) (inPattern : Bool) : Reader (List Bit) :=
  match fuel with
  | 0 => unexpected
  | fuel + 1 => do
    let c ← get
    let go (rest : List Char) : Reader Unit := modify fun c => { c with rest }
    match c.rest with
    | [] => return []
    | '\\' :: m :: rest =>
      if "ULQEFul".toList.contains m then
        go rest
        return .mode m :: (← readBits fuel inPattern)
      else if inPattern then
        go rest
        return .letters ['\\', m] :: (← readBits fuel inPattern)
      else
        reviewEscape m
        let (cs, rest) := escapeAt (m :: rest)
        go rest
        return .letters cs :: (← readBits fuel inPattern)
    | '$' :: '#' :: d :: rest =>
      if d == '{' || d == '$' || startsWord d || (d == ':' && rest.head? == some ':') then
        go (d :: rest)
        let b ← readBase fuel
        return .value (.lastIndex (← known .many b)) :: (← readBits fuel inPattern)
      else
        go ('#' :: d :: rest)
        return .letters ['$'] :: (← readBits fuel inPattern)
    | '$' :: rest =>
      go rest
      if startsVariable inPattern rest then
        let e ← readInText fuel inPattern
        return .value e :: (← readBits fuel inPattern)
      else return .letters ['$'] :: (← readBits fuel inPattern)
    | '@' :: rest =>
      go rest
      let isList := match rest with
        | ':' :: ':' :: _ => true
        | d :: _ => isWord d || d == '{' || d == '$' || (!inPattern && (d == '-' || d == '+'))
        | [] => false
      if isList then
        let b ← readBase fuel
        reviewList b
        let e ← match (← get).rest with
          | '[' :: _ => do pure (Expr.items (← known .many b) (← readIndex fuel))
          | '{' :: _ =>
            if b matches .named _ then do pure (Expr.entries (← known .keyed b) (← readKey fuel))
            else known .many b
          | _ => known .many b
        return .value (.call "join" [.variable .one "\"", e]) :: (← readBits fuel inPattern)
      else return .letters ['@'] :: (← readBits fuel inPattern)
    | d :: rest =>
      go rest
      if d == '\n' then modify fun c => { c with line := c.line + 1 }
      return .letters [d] :: (← readBits fuel inPattern)
termination_by structural fuel

/-- Reads a text between double quotes, or a pattern. -/
def readBlend (fuel : Nat) (inPattern : Bool) (text : List Char) : Reader Expr :=
  match fuel with
  | 0 => unexpected
  | fuel + 1 => within text do return blendOf (← readBits fuel inPattern)
termination_by structural fuel

/-- Reads a pattern between its signs. -/
def readPattern (fuel : Nat) (sign : Char) (text : List Char) : Reader Expr :=
  match fuel with
  | 0 => unexpected
  | fuel + 1 =>
    if sign == '\'' then return .constant (.text (String.ofList text)) else readBlend fuel true text
termination_by structural fuel

/-- Reads a quote after its word. -/
def readQuote (fuel : Nat) (word : String) : Reader Expr :=
  match fuel with
  | 0 => unexpected
  | fuel + 1 => do
    if (← get).rest.head? != some '#' then
      let _ ← peek
    let line := (← get).line
    let (sign, text) ← quotedText
    let second : Reader (Char × List Char) := do
      if closing sign == sign then
        modify fun c => { c with rest := sign :: c.rest }
        quotedText
      else
        let _ ← peek
        quotedText
    match word with
    | "q" => return .constant (.text (String.ofList (plainText sign (closing sign) text)))
    | "qw" => do
      reviewWords text
      return quotedWords text
    | "m" => return .hits false none (← readPattern fuel sign text) (← readLetters "msixxnpaadlucgo")
    | "qr" => return .makePattern (← readPattern fuel sign text) (← readLetters "msixxnpaadluo")
    | "qx" => return .command (← if sign == '\'' then pure (.constant (.text (String.ofList text)))
        else readBlend fuel false text)
    | "s" =>
      let (opened, new) ← second
      let flags ← readLetters "msixxnpaadlucgoer"
      let pattern ← readPattern fuel sign text
      let new ← if flags.toList.contains 'e' then
          within new do return valueOf (← readActs fuel)
        else if opened == '\'' then pure (.constant (.text (String.ofList new)))
        else readBlend fuel false new
      return .replace false none pattern new flags
    | "tr" | "y" =>
      let (_, new) ← second
      let flags := (← readLetters "cdsr").toList
      return .exchange none {
        source := listed text
        target := listed new
        complements := flags.contains 'c'
        drops := flags.contains 'd'
        squeezes := flags.contains 's'
        copies := flags.contains 'r' }
    | _ =>
      let after := (← get).line
      modify fun c => { c with line }
      let e ← readBlend fuel false text
      modify fun c => { c with line := after }
      return e
termination_by structural fuel

/-- Reads an operand; whether it is a part of something greater. -/
def readTerm (fuel : Nat) : Reader (Expr × Bool) :=
  match fuel with
  | 0 => unexpected
  | fuel + 1 => do
    let rest ← peek
    match rest with
    | '$' :: '#' :: c :: _ =>
      if c == '{' || c == '$' || startsWord c then
        mark
        modify fun c => { c with rest := c.rest.drop 2 }
        let b ← readBase fuel
        return (.lastIndex (← known .many b), false)
      else
        mark
        modify fun c => { c with rest := c.rest.drop 1 }
        readScalar fuel
    | '$' :: _ =>
      mark
      modify fun c => { c with rest := c.rest.drop 1 }
      readScalar fuel
    | '@' :: _ =>
      mark
      modify fun c => { c with rest := c.rest.drop 1 }
      let b ← readBase fuel
      match (← get).rest with
      | '[' :: _ =>
        let list ← known .many b
        let index ← readIndex fuel
        reviewSlice "[" "]" .many b index
        return (.items list index, false)
      | '{' :: _ =>
        let table ← known .keyed b
        let key ← readKey fuel
        reviewSlice "\x7b" "\x7d" .keyed b key
        return (.entries table key, false)
      | _ => return (← known .many b, false)
    | '%' :: _ =>
      mark
      modify fun c => { c with rest := c.rest.drop 1 }
      let b ← readBase fuel
      return (← known .keyed b, false)
    | '&' :: c :: _ =>
      mark
      modify fun c => { c with rest := c.rest.drop 1 }
      let code ← if startsWord c then do
          let name ← peekWord
          advance name.length
          pure (Expr.routine (← inSpace name))
        else do
          match ← readBase fuel with
          | .named s => pure (Expr.routine s)
          | .pointed e => pure e
      if (← peek).head? == some '(' then
        expect "("
        let args ← readItems fuel
        expect ")"
        return (.invoke code (some args), true)
      else return (.invoke code none, false)
    | '*' :: c :: _ =>
      if startsWord c then
        advance 1
        let name ← peekWord
        advance name.length
        return (.constant (.handle name), false)
      else unexpected
    | '(' :: _ =>
      expect "("
      let es ← readItems fuel
      let es ← match es with
        | [e] => do
          -- what binds less tightly than a comma may follow one expression
          let rest ← peek
          if rest.head? == some ')' then pure [e] else pure [← readLoosely fuel e]
        | es => if es.isEmpty && (← peek).head? != some ')' then do pure [← readFull fuel] else pure es
      if (← peek).head? != some ')' then
        let last := es.getLastD (.row [])
        let e ← readLoosely fuel last
        expect ")"
        return (.row (es.dropLast ++ [e]), false)
      else
        expect ")"
        if (← peek).head? == some '[' then return (.pick (.row es) (← readIndex fuel), false)
        else return (.row es, false)
    | '[' :: _ =>
      expect "["
      let es ← readItems fuel
      expect "]"
      return (.newList es, false)
    | '{' :: _ =>
      expect "\x7b"
      let es ← readItems fuel
      expect "\x7d"
      return (.newTable es, false)
    | '"' :: _ =>
      mark
      return (← readQuote fuel "qq", false)
    | '\'' :: _ =>
      mark
      let (_, text) ← quotedText
      return (.constant (.text (String.ofList (plainText '\'' '\'' text))), false)
    | '\x60' :: _ =>
      mark
      return (← readQuote fuel "qx", false)
    | '/' :: _ =>
      mark
      return (← readQuote fuel "m", false)
    | '<' :: _ => return (← readAngle fuel, false)
    | '.' :: c :: _ | c :: _ =>
      if c.isDigit then
        let (n, length) := numberAt rest
        advance length
        return (.constant (.number n), false)
      else if startsWord c && rest.head? == some c then
        let w ← peekWord
        readWord fuel w
      else unexpected
    | [] => unexpected
termination_by structural fuel

/-- Goes on with an expression over what binds less tightly than a comma. -/
def readLoosely (fuel : Nat) (e : Expr) : Reader Expr :=
  match fuel with
  | 0 => unexpected
  | fuel + 1 => do
    if ← acceptWord "and" then
      reviewOperator "&&" e
      readLoosely fuel (.join .both e (← readNot fuel))
    else if ← acceptWord "or" then
      reviewOperator "||" e
      readLoosely fuel (.join .any e (← readAnd fuel))
    else if ← acceptWord "xor" then readLoosely fuel (.binary "xor" e (← readAnd fuel))
    else return e
termination_by structural fuel

/-- Reads what starts with an angle: a here-document, a line of a file, or names of files. -/
def readAngle (fuel : Nat) : Reader Expr :=
  match fuel with
  | 0 => unexpected
  | fuel + 1 => do
    let rest := (← get).rest
    match rest with
    | '<' :: '<' :: '>' :: '>' :: _ =>
      advance 4
      return .readLine (.constant (.text "ARGV"))
    | '<' :: '<' :: after =>
      let (indented, after) := match after with
        | '~' :: after => (true, after)
        | after => (false, after)
      let skip := if indented then 3 else 2
      match after with
      | q :: inner =>
        if q == '"' || q == '\'' then
          let tag := inner.takeWhile (· != q)
          advance (skip + tag.length + 2)
          let text ← takeDocument (String.ofList tag) indented
          if q == '\'' then return .constant (.text (String.ofList text)) else readBlend fuel false text
        else if startsWord q then
          let tag := after.takeWhile isWord
          advance (skip + tag.length)
          readBlend fuel false (← takeDocument (String.ofList tag) indented)
        else unexpected
      | [] => unexpected
    | '<' :: after =>
      let inner := after.takeWhile (· != '>')
      if (after.drop inner.length).isEmpty then unexpected
      else
        advance (inner.length + 2)
        match inner with
        | [] => return .readLine (.constant (.text "ARGV"))
        | '$' :: name =>
          if name.all isWord then return .readLine (.variable .one (String.ofList name))
          else return .paths (← readBlend fuel false inner)
        | name =>
          if name.all fun c => isWord c || c == ':' then return .readLine (.constant (.text (String.ofList name)))
          else return .paths (← readBlend fuel false inner)
    | _ => unexpected
termination_by structural fuel

/-- Reads arguments, in parentheses or without. -/
def readArguments (fuel : Nat) : Reader (List Expr) :=
  match fuel with
  | 0 => unexpected
  | fuel + 1 => do
    if (← peek).head? == some '(' then
      expect "("
      let args ← readRow fuel
      expect ")"
      return args
    else if startsTerm (← peek) then readItems fuel
    else return []
termination_by structural fuel

/-- Reads expressions within parentheses. -/
def readRow (fuel : Nat) : Reader (List Expr) :=
  match fuel with
  | 0 => unexpected
  | fuel + 1 => do
    if (← peek).head? == some ')' then return []
    else
      match ← readFull fuel with
      | .row es => if (← get).rest.isEmpty then unexpected else return es
      | e => return [e]
termination_by structural fuel

/-- Reads the only argument of a function, if there is one. -/
def readArgument (fuel : Nat) : Reader (Option Expr) :=
  match fuel with
  | 0 => unexpected
  | fuel + 1 => do
    let rest ← peek
    if rest.head? == some '(' then
      expect "("
      let args ← readRow fuel
      expect ")"
      match args with
      | [] => return none
      | [e] => return some e
      | es => return some (.row es)
    else if startsTerm rest && !("//".toList.isPrefixOf rest) && !(rest.head? == some '<' && !(rest.drop 1).head?.any fun c => c == '$' || startsWord c)
    then
      return some (← readClimb fuel 16)
    else return none
termination_by structural fuel

/-- Reads a block whose value is asked for each item, and the items. -/
def readOver (fuel : Nat) : Reader (List Act × List Expr) :=
  match fuel with
  | 0 => unexpected
  | fuel + 1 => do
    let paren ← accept "("
    let rest ← peek
    let before ← get
    let finish (body : List Act) : Reader (List Act × List Expr) := do
      let _ ← accept ","
      let args ← readItems fuel
      if paren then expect ")"
      return (body, args)
    let byExpression : Reader (List Act × List Expr) := do
      let line := (← get).line
      let e ← readClimb fuel 6
      finish [.compute line e]
    if rest.head? == some '{' then
      let isTable : Bool := match (readBlock fuel).run before with
        | .ok (_, c) => (c.skip (c.rest.length + 1)).rest.head? == some ','
        | .error _ => false
      if isTable then byExpression
      else
        let body ← readBlock fuel
        finish body
    else byExpression
termination_by structural fuel

/-- Reads a function that is given as an argument, and other arguments. -/
def readWithCode (fuel : Nat) : Reader (List Expr) :=
  match fuel with
  | 0 => unexpected
  | fuel + 1 => do
    let paren ← accept "("
    let rest ← peek
    let code ← if rest.head? == some '{' then do
        let body ← readBlock fuel
        pure (Expr.newCode body)
      else do
        let e ← readClimb fuel 6
        let _ ← accept ","
        pure e
    let args ← readItems fuel
    if paren then expect ")"
    return code :: args
termination_by structural fuel

/-- Reads a row that is sorted, with its order. -/
def readSorted (fuel : Nat) : Reader Expr :=
  match fuel with
  | 0 => unexpected
  | fuel + 1 => do
    let paren ← accept "("
    let rest ← peek
    let finish (order : Option Expr) : Reader Expr := do
      let args ← readItems fuel
      if paren then expect ")"
      return .sorted order args
    let spaceThenTerm (s : List Char) : Bool :=
      s.head?.any Records.isSpace && (s.dropWhile Records.isSpace).head?.any fun c =>
        c == '@' || c == '$' || c == '(' || startsWord c
    match rest with
    | '{' :: _ =>
      let body ← readBlock fuel
      let _ ← accept ","
      finish (some (.newCode body))
    | '$' :: after =>
      let name := after.takeWhile isWord
      let next := after.drop name.length
      if !name.isEmpty && spaceThenTerm next && (operatorAt (next.dropWhile Records.isSpace)).isNone then
        advance (name.length + 1)
        finish (some (.variable .one (String.ofList name)))
      else finish none
    | c :: _ =>
      let w ← peekWord
      let next := rest.drop w.length
      if startsWord c && !recordWords.contains w && !unaryWords.contains w && !listWords.contains w &&
          !importedWords.contains w && !(["map", "grep", "sort", "qw", "reverse", "do", "keys", "values"].contains w)
          && (spaceThenTerm next) then
        advance w.length
        finish (some (.routine w))
      else finish none
    | [] => unexpected
termination_by structural fuel

/-- Reads what is written, and where to. -/
def readWrite (fuel : Nat) (how : String) : Reader Expr :=
  match fuel with
  | 0 => unexpected
  | fuel + 1 => do
    reviewParentheses how (← get).rest
    let paren ← accept "("
    let rest ← peek
    let startsArgument (s : List Char) : Bool :=
      s.head?.any Records.isSpace &&
        (let t := s.dropWhile Records.isSpace
         t.head?.any fun c => c == '"' || c == '\'' || c == '$' || c == '@' || c.isDigit ||
          (startsWord c && startsTerm t) || "<<".toList.isPrefixOf t && !(t.drop 2).head?.any Records.isSpace)
    let handle : Option Expr ← match rest with
      | '{' :: _ =>
        let body ← readBlock fuel
        pure (some (valueOf body))
      | '$' :: after =>
        let name := after.takeWhile isWord
        let next := after.drop name.length
        if !name.isEmpty && startsArgument next then do
          advance (name.length + 1)
          pure (some (← known .one (.named (String.ofList name))))
        else pure none
      | c :: _ => do
        let w ← peekWord
        let next := (rest.drop w.length).dropWhile Records.isSpace
        let isName := w.toList.all fun c => c.isUpper || c.isDigit || c == '_'
        if startsWord c && isName && !(← get).routines.contains w && !(["(", ",", ".", "=>", "->", "+", "-", "*"].any
            fun s => s.toList.isPrefixOf next) then do
          advance w.length
          pure (some (Expr.constant (.text w)))
        else pure none
      | [] => pure none
    let args ← if paren then readRow fuel else readItems fuel
    if paren then expect ")"
    return .write how handle args
termination_by structural fuel

/-- Reads the parameters of a function up to the closing parenthesis; each with what it is where none is given. -/
def readParameters (fuel : Nat) (found : List (Option (Shape × String) × Option Expr)) :
    Reader (List (Option (Shape × String) × Option Expr)) :=
  match fuel with
  | 0 => unexpected
  | fuel + 1 => do
    if ← accept ")" then return found
    else
      let rest ← peek
      let isUnnamed := rest.head?.any (fun c => c == '$' || c == '@' || c == '%') && (nameAt rest.tail).isEmpty
      let v ← if isUnnamed then do
          advance 1
          pure none
        else readNew
      match v with
      | some (shape, name) => declare shape name
      | none => pure ()
      let hasDefault ← (do
        if ← accept "//=" then return true
        if ← accept "||=" then return true
        accept "=")
      let other ← if hasDefault then do pure (some (← readClimb fuel 6)) else pure none
      let _ ← accept ","
      readParameters fuel (found ++ [(v, other)])
termination_by structural fuel

/-- Reads the body of a function, which is called by a name, and its parameters before it. -/
def readCode (fuel : Nat) (name : String) : Reader (List Act) :=
  match fuel with
  | 0 => unexpected
  | fuel + 1 => do
    let before := (← get).declared
    let line := (← get).line
    let rest ← peek
    let start : List Act ← match rest with
      | '(' :: s =>
        let inner := s.takeWhile (· != ')')
        if inner.any startsWord then do
          expect "("
          pure (takingActs line name (← readParameters fuel []))
        else do
          modify fun c => { c with rest := c.rest.drop (inner.length + 2) }
          pure []
      | _ => pure []
    let heeded ← heeding
    let body ← readBlock fuel
    modify fun c => { c with declared := before }
    return heeded ++ start ++ body
termination_by structural fuel

/-- Reads an operand that starts with a word. -/
def readWord (fuel : Nat) (w : String) : Reader (Expr × Bool) :=
  match fuel with
  | 0 => unexpected
  | fuel + 1 => do
    let rest := (← get).rest
    let after := rest.drop w.length
    let next := after.dropWhile Records.isSpace
    let plain (e : Expr) : Reader (Expr × Bool) := return (e, false)
    if "=>".toList.isPrefixOf next then
      advance w.length
      plain (.constant (.text w))
    else if ["q", "qq", "qw", "qr", "qx", "m", "s", "tr", "y"].contains w && opensQuote after then
      mark
      modify fun c => { c with rest := after }
      let e ← readQuote fuel w
      match e with
      | .row _ => if (← peek).head? == some '[' then plain (.pick e (← readIndex fuel)) else plain e
      | e => plain e
    else if stopWords.contains w && w ≠ "x" then unexpected
    else
      advance w.length
      match w with
      | "my" | "our" | "state" => plain (← readFresh w)
      | "local" => plain (.kept (← readPostfix fuel))
      | "do" =>
        if next.head? == some '{' then plain (.perform (← readBlock fuel))
        else plain (.call "do" [← readClimb fuel 16])
      | "eval" =>
        if next.head? == some '{' then plain (.guarded (← readBlock fuel))
        else plain (.call "eval" [(← readArgument fuel).getD record])
      | "sub" => plain (.newCode (← readCode fuel "main::__ANON__"))
      | "print" | "say" | "printf" => plain (← readWrite fuel w)
      | "sort" => plain (← readSorted fuel)
      | "map" | "grep" =>
        let (body, args) ← readOver fuel
        plain (.each (w = "grep") body args)
      | "not" => plain (.unary "!" (← if next.head? == some '(' then readPostfix fuel else readClimb fuel 6))
      | "__FILE__" => plain (.constant (.text (← get).source))
      | "__LINE__" => plain (.constant (.ofNat (← get).line))
      | "__PACKAGE__" => plain (.constant (.text (← get).space))
      | "last" | "next" | "redo" =>
        let label ← peekWord
        if label ≠ "" && !stopWords.contains label then
          advance label.length
          plain (.call w [.constant (.text label)])
        else plain (.call w [])
      | "STDIN" | "STDOUT" | "STDERR" | "DATA" | "ARGV" => plain (.constant (.text w))
      | _ =>
        let isOwn := (← get).routines.contains w
        if (← get).constants.contains w then
          if ← accept "(" then expect ")"
          return (.invoke (.routine w) (some []), true)
        else if isOwn && (← get).takers.contains w && next.head? == some '{' then
          plain (.invoke (.routine (← inSpace w)) (some (← readWithCode fuel)))
        else if isOwn && !bareWords.contains w then
          let args ← readArguments fuel
          return (.invoke (.routine (← inSpace w)) (some args), true)
        else if blockWords.contains w && (next.head? == some '{' || next.head? == some '(') then
          plain (.call w (← readWithCode fuel))
        else if bareWords.contains w then
          if ← accept "(" then expect ")"
          plain (.call w [])
        else if recordWords.contains w then
          plain (.call w [(← readArgument fuel).getD record])
        else if unaryWords.contains w then
          plain (.call w (← naming w (readArgument fuel)).toList)
        else if listWords.contains w then
          let args ← naming w (readArguments fuel)
          let space := (← get).space
          let args := if w = "bless" && args.length = 1 then args ++ [.constant (.text space)] else args
          let args := if args.isEmpty && w = "split" then [.constant (.text " ")] else args
          let args := if args.isEmpty && (w = "chomp" || w = "chop" || w = "unlink" || w = "mkdir") then [record] else args
          plain (.call w args)
        else if importedWords.contains w && next.head? != some '-' then plain (.call w (← readArguments fuel))
        else if next.head? == some '(' then
          let args ← readArguments fuel
          return (.invoke (.routine (← inSpace w)) (some args), true)
        else
          -- a word before another one is a method of what that one names
          let other ← peekWord
          let isObject := other ≠ "" && w.toList.head? != some '_' && !stopWords.contains other &&
            !recordWords.contains other && !unaryWords.contains other && !listWords.contains other &&
            !bareWords.contains other && !isOwn && next.head?.any startsWord && after.head?.any Records.isSpace &&
            !(["my", "our", "local", "do", "eval", "sub", "print", "qw", "q", "qq", "sort", "map", "grep"].contains other)
          if isObject then
            advance other.length
            plain (.call ("->" ++ w) (.bareword other :: (← readArguments fuel)))
          else
            let c ← get
            if c.isStrict && !c.takesNames && !"->".toList.isPrefixOf next && !w.toList.contains ':' then
              set { c with names := (w, c.place) :: c.names }
            else if !c.isStrict && !"->".toList.isPrefixOf next then reviewBareword w
            plain (.bareword w)
termination_by structural fuel

/-- Reads a block in braces. -/
def readBlock (fuel : Nat) : Reader (List Act) :=
  match fuel with
  | 0 => unexpected
  | fuel + 1 => do
    expect "\x7b"
    let space := (← get).space
    let acts ← apart do
      let acts ← readActs fuel
      reviewBlock acts
      return acts
    modify fun c => { c with space }
    let c ← get
    if (← peek).isEmpty then
      refuse ("Missing right curly or square bracket" ++ c.place ++
        (if c.isQuoted then ", within string" else ", at end of line") ++ "\nsyntax error" ++ c.place ++ ", at EOF\n")
    expect "\x7d"
    return acts
termination_by structural fuel

/-- Reads acts up to a closing brace or the end. -/
def readActs (fuel : Nat) : Reader (List Act) :=
  match fuel with
  | 0 => unexpected
  | fuel + 1 => do
    let rest ← peek
    match rest with
    | [] => return []
    | '}' :: _ => return []
    | ';' :: _ =>
      advance 1
      readActs fuel
    | _ =>
      let w ← peekWord
      if w = "__END__" || w = "__DATA__" then
        let after := (restOfLine rest).2
        modify fun c => { c with rest := [], data := some after.tail }
        return []
      else
        modify fun c => { c with actStart := c.declared.length }
        let acts ← readAct fuel w
        return acts ++ (← readActs fuel)
termination_by structural fuel

/-- Reads a test in parentheses. -/
def readTest (fuel : Nat) : Reader Expr :=
  match fuel with
  | 0 => unexpected
  | fuel + 1 => do
    expect "("
    let e ← readFull fuel
    expect ")"
    return e
termination_by structural fuel

/-- Reads the branches after a test. -/
def readBranches (fuel : Nat) (line : Nat) (negated : Bool) : Reader Act :=
  match fuel with
  | 0 => unexpected
  | fuel + 1 => do
    let test ← readTest fuel
    let test := if negated then .unary "!" test else test
    let yes ← readBlock fuel
    let no ←
      if ← acceptWord "elsif" then do
        let line := (← get).line
        pure [← readBranches fuel line false]
      else if ← acceptWord "else" then readBlock fuel
      else pure []
    reviewTest line test
    return .branch line test yes no
termination_by structural fuel

/-- Reads one act that starts with a word or with a sign. -/
def readAct (fuel : Nat) (w : String) : Reader (List Act) :=
  match fuel with
  | 0 => unexpected
  | fuel + 1 => do
    let rest ← peek
    let line := (← get).line
    let after := rest.drop w.length
    let next := after.dropWhile Records.isSpace
    let isLabel := w ≠ "" && !w.toList.contains ':' && next.head? == some ':' && next[1]? != some ':' &&
      w.toList.all (fun c => c.isUpper || c.isDigit || c == '_')
    if "=>".toList.isPrefixOf next then readPlain fuel line
    else if rest.head? == some '{' && looksLikeTable rest.tail then readPlain fuel line
    else if isLabel then
      advance w.length
      expect ":"
      readLabelled fuel w
    else if rest.head? == some '{' || ["while", "until", "for", "foreach"].contains w then readLabelled fuel ""
    else
      match w with
      | "if" | "unless" =>
        advance w.length
        return [← apart (readBranches fuel line (w = "unless"))]
      | "sub" =>
        let name := String.ofList (nameAt next)
        if name = "" then readPlain fuel line
        else
          advance 3
          let _ ← peek
          advance name.length
          let whole ← inSpace name
          modify fun c => { c with routines := name :: whole :: c.routines }
          match ← peek with
          | '(' :: '&' :: _ => modify fun c => { c with takers := name :: c.takers }
          | _ => pure ()
          if ← accept ";" then return []
          else
            let code ← readCode fuel (if whole.toList.contains ':' then whole else "main::" ++ whole)
            reviewBody name whole
            return [.define whole code]
      | "BEGIN" | "INIT" | "CHECK" | "UNITCHECK" =>
        if next.head? == some '{' then
          advance w.length
          let heeded ← heeding
          return [.define "BEGIN" (heeded ++ (← readBlock fuel))]
        else readPlain fuel line
      | "END" =>
        if next.head? == some '{' then
          advance w.length
          let heeded ← heeding
          return [.define "END" (heeded ++ (← readBlock fuel))]
        else readPlain fuel line
      | "package" =>
        advance w.length
        let name ← peekWord
        advance name.length
        let before := (← get).space
        modify fun c => { c with space := name }
        if (← peek).head? == some '{' then
          let body ← readBlock fuel
          modify fun c => { c with space := before }
          return [.block "" body]
        else return []
      | "use" | "no" => readUse fuel line (w = "use")
      | _ => readPlain fuel line
termination_by structural fuel

/-- Reads a module that is asked for. -/
def readUse (fuel : Nat) (line : Nat) (wanted : Bool) : Reader (List Act) :=
  match fuel with
  | 0 => unexpected
  | fuel + 1 => do
    advance (if wanted then 3 else 2)
    let rest ← peek
    let c ← get
    match rest with
    | [] => unexpected
    | d :: _ =>
      if d.isDigit || (d == 'v' && (rest.drop 1).head?.any Char.isDigit) then
        let version := rest.takeWhile fun c => isWord c || c == '.'
        advance version.length
        if wanted then useVersion version else return []
      else
        let name ← peekWord
        if name = "" then unexpected
        advance name.length
        let args ← readItems fuel
        if !moduleWords.any fun m => m.1 == name then
          let file := name.replace "::" "/" ++ ".pm"
          throw ⟨String.join (c.notices ++ c.complaints) ++ "Can't locate " ++ file ++ " in @INC (you may need to install the " ++
            name ++ " module) (@INC contains: " ++ " ".intercalate searched ++ ")" ++ c.place ++
            ".\nBEGIN failed--compilation aborted" ++ c.place ++ ".\n", 2⟩
        if name = "warnings" then return [← useCautions wanted (namesOf args)]
        if name = "strict" then modify fun c => { c with isStrict := wanted || (c.isStrict && !args.isEmpty) }
        if name = "vars" then
          for e in args do
            for w in (match e with | .row es => es | e => [e]) do
              match (textOf? w).map String.toList with
              | some ('$' :: n) => declare .one (String.ofList n)
              | some ('@' :: n) => declare .many (String.ofList n)
              | some ('%' :: n) => declare .keyed (String.ofList n)
              | _ => pure ()
        if name = "parent" || name = "base" then
          let kept := match args with
            | .constant (.text "-norequire") :: rest => rest
            | args => args
          return [.compute line (.call "push" (.variable .many (c.space ++ "::ISA") :: kept))]
        if name = "utf8" then
          if wanted then modify fun c => { c with rest := decoded c.rest }
          return []
        if name = "open" then
          let words := namesOf args
          let layer := Expr.constant (.text (":".intercalate words))
          let files := if words.contains ":std" then ["STDIN", "STDOUT", "STDERR", ""] else [""]
          return files.map fun f => Act.compute line (.call "binmode" [.constant (.text f), layer])
        if name = "constant" then
          match args with
          | [.newTable es] => defineConstants line es
          | key :: values =>
            match textOf? key with
            | some name => return [← defineConstant line name values]
            | none => return []
          | [] => return []
        else return []
termination_by structural fuel

/-- Reads a loop or a block, which may have a label. -/
def readLabelled (fuel : Nat) (label : String) : Reader (List Act) :=
  match fuel with
  | 0 => unexpected
  | fuel + 1 => do
    let rest ← peek
    let line := (← get).line
    let w ← peekWord
    if rest.head? == some '{' then return [.block label (← readBlock fuel)]
    else (if ["while", "until", "for", "foreach"].contains w then apart else id) do
      match w with
      | "while" | "until" =>
        advance 5
        expect "("
        let test : Option Expr ← if (← peek).head? == some ')' then pure none else do pure (some (← readFull fuel))
        expect ")"
        let test := test.map fun e => if w = "until" then .unary "!" (looped e) else looped e
        let body ← readBlock fuel
        let next ← if ← acceptWord "continue" then readBlock fuel else pure []
        test.forM (reviewTest line)
        reviewLast reviewDepth body
        return [.loop line label test next false body]
      | "for" | "foreach" =>
        advance w.length
        let place : Option Expr ←
          if ← acceptWord "my" then do pure (some (← readFresh "my"))
          else if ← acceptWord "our" then do pure (some (← readFresh "our"))
          else if (← peek).head? == some '$' then do
            expect "$"
            match ← readBase fuel with
            | .named s => pure (some (.variable .one s))
            | .pointed _ => unexpected
          else pure none
        expect "("
        let isStep := place.isNone && (← peek).head? == some ';'
        let first : Option Expr ←
          if isStep then pure none
          else if (← peek).head? == some ')' then pure (some (.row []))
          else do pure (some (← readFull fuel))
        if place.isNone && (← accept ";") then
          let optional (stop : Char) : Reader (Option Expr) := do
            if (← peek).head? == some stop then return none else return some (← readFull fuel)
          let test ← optional ';'
          expect ";"
          let step ← optional ')'
          expect ")"
          let body ← readBlock fuel
          test.forM (reviewTest line)
          reviewLast reviewDepth body
          let start := first.toList.map (Act.compute line)
          return [.block "" (start ++ [.loop line label (test.map looped) (step.toList.map (Act.compute line)) false body])]
        else
          expect ")"
          let body ← readBlock fuel
          reviewLast reviewDepth body
          if ← acceptWord "continue" then
            let next ← readBlock fuel
            return [.forEach line label (place.getD record) (first.getD (.row [])) (body ++ next)]
          else return [.forEach line label (place.getD record) (first.getD (.row [])) body]
      | w => readAct fuel w
termination_by structural fuel

/-- Reads an expression as an act, with the condition after it. -/
def readPlain (fuel : Nat) (line : Nat) : Reader (List Act) :=
  match fuel with
  | 0 => unexpected
  | fuel + 1 => do
    let isShared := (← peekWord) = "our"
    let e ← readFull fuel
    -- a name that is just made known does nothing
    let e := if isShared && ((e matches .variable ..) || (e matches .row _)) then .row [] else e
    let w ← peekWord
    let act : Act ← match w with
      | "if" =>
        advance 2
        let test ← readFull fuel
        reviewTest line test
        pure (Act.branch line test [.compute line e] [])
      | "unless" =>
        advance 6
        let test ← readFull fuel
        reviewTest line test
        pure (Act.branch line (.unary "!" test) [.compute line e] [])
      | "while" | "until" =>
        advance 5
        let test := looped (← readFull fuel)
        reviewTest line test
        reviewIdle line reviewDepth e
        let test := if w = "until" then .unary "!" test else test
        let isLate := e matches .perform _
        pure (Act.loop line "" (some test) [] isLate [.compute line e])
      | "for" | "foreach" =>
        advance w.length
        reviewIdle line reviewDepth e
        pure (Act.forEach line "" record (← readFull fuel) [.compute line e])
      | _ => pure (Act.compute line e)
    let rest ← peek
    match rest with
    | [] => return [act]
    | ';' :: _ =>
      advance 1
      return [act]
    | '}' :: _ => return [act]
    | _ => unexpected
termination_by structural fuel

end

/-- The acts of a script; with the state of the reading at its end. -/
def readScript (source : String) (text : List Char) (start : Cursor → Cursor) :
    Except ScriptFault (List Act × Cursor) :=
  let whole : Reader (List Act) := do
    let c ← get
    if startsPassage c.rest then
      let (rest, n) := afterPassage (c.rest.length + 1) 0 c.rest
      modify fun c => { c with rest, line := c.line + n }
    let acts ← readActs (10 * text.length + 200)
    if !(← peek).isEmpty then
      let c ← get
      if c.rest.head? == some '}' then refuse ("Unmatched right curly bracket" ++ c.place ++ ", at end of line\nsyntax error"
        ++ c.place ++ ", near \"\x7d\"\n")
      else unexpected
    let c ← get
    let strangers := (c.names.reverse.filter fun n => !c.routines.contains n.1).map fun n =>
      "Bareword \"" ++ n.1 ++ "\" not allowed while \"strict subs\" in use" ++ n.2 ++ ".\n"
    set { c with complaints := c.complaints ++ strangers }
    if !(← get).complaints.isEmpty then refuse ""
    acts.forM (reviewAct reviewDepth)
    return acts
  whole.run (start { rest := text, source })

end ClassLens.Tool.Scripting
