import ClassLens.Tool.Scripting.Cursor

/-! # Looking over scripts

Cautions about what a script says, before it is run.

* `reviewVoid`: values that nobody asks for.
* `reviewTest`: a value that is put somewhere where one is asked for.
* `reviewNew`: a variable that hides another one of its block.
* `Cursor.allNotices`: all cautions about a script, those about names that stand just once among them. -/

namespace ClassLens.Tool.Scripting

/-- What cautions call a constant; nothing for those that stand for an answer. -/
def constantName? : Value → Option String
  | .number n => if n.toText = "0" || n.toText = "1" then none else some ("a constant (" ++ n.toText ++ ")")
  | .text s => some ("a constant (" ++ shownText s ++ ")")
  | _ => none

/-- Functions that are asked for their values alone. -/
def pureWords : List String :=
  ["length", "lc", "uc", "lcfirst", "ucfirst", "fc", "abs", "int", "sqrt", "sin", "cos", "exp", "log", "atan2", "hex",
    "oct", "chr", "ord", "index", "rindex", "sprintf", "reverse", "unpack", "pack", "split", "quotemeta", "time",
    "localtime", "gmtime", "caller", "wantarray", "join", "defined", "ref", "getppid", "eof", "fileno"]

/-- The value of an operation on constants. -/
def folded? : Expr → Option Value
  | .constant v => some v
  | .row [e] => folded? e
  | .binary op a b =>
    match folded? a, folded? b with
    | some v, some w =>
      match op with
      | "+" => some (.number (v.toNumeric.add w.toNumeric))
      | "-" => some (.number (v.toNumeric.sub w.toNumeric))
      | "*" => some (.number (v.toNumeric.mul w.toNumeric))
      | "." => some (.text (v.toText ++ w.toText))
      | "x" => some (.text (String.join (List.replicate w.toInt.toNat v.toText)))
      | _ => none
    | _, _ => none
  | _ => none

/-- What cautions call an operation whose value nobody asks for. -/
def idleName? (declared : List (Shape × String)) : Expr → Option String
  | .constant v => constantName? v
  | .blend _ => some "string"
  | .variable shape name =>
    if declared.contains (shape, name) then
      some (match shape with
        | .one => "private variable"
        | .many => "private array"
        | .keyed => "private hash")
    else some "a variable"
  | .target .. => some "a variable"
  | .item .. => some "array element"
  | .entry .. => some "hash element"
  | .items .. => some "array slice"
  | .entries .. => some "hash slice"
  | .pick .. => some "list slice"
  | .lastIndex _ => some "array length"
  | .binary op a b =>
    match folded? (.binary op a b) with
    | some v => constantName? v
    | none => operatorNames.lookup op
  | .unary op _ =>
    match op with
    | "!" => some "not"
    | "-" => some "negation (-)"
    | "~" => some "1's complement (~)"
    | _ => none
  | .newList _ => some "anonymous array ([])"
  | .newTable _ => some "anonymous hash (\x7b\x7d)"
  | .newCode _ => some "anonymous subroutine"
  | .reference (.row _) => some "reference constructor"
  | .reference _ => some "single ref constructor"
  | .range .. => some "range (or flop)"
  | .replace _ _ _ _ flags =>
    if flags.toList.contains 'r' then some "non-destructive substitution (s///r)" else none
  | .exchange _ x => if x.copies then some "non-destructive transliteration (tr///r)" else none
  | .sorted .. => some "sort"
  | .call name args =>
    if pureWords.contains name then some (operationName name)
    else if name = "substr" && args.length < 4 then some "substr" else none
  | _ => none

mutual

/-- Gives cautions about an expression whose value nobody asks for. -/
def reviewIdle (line : Nat) : Nat → Expr → Reader Unit
  | 0, _ => return ()
  | fuel + 1, e =>
    match e with
    | .row es => es.forM (reviewIdle line fuel)
    | .join _ _ b => reviewIdle line fuel b
    | .either _ yes no => do
      reviewIdle line fuel yes
      reviewIdle line fuel no
    | .perform body | .guarded body => reviewLast fuel body
    | e => do
      match idleName? (← get).declared e with
      | some name => noteAt line "void" ("Useless use of " ++ name ++ " in void context")
      | none => return ()

/-- Gives cautions about an act whose value nobody asks for. -/
def reviewAct : Nat → Act → Reader Unit
  | 0, _ => return ()
  | fuel + 1, act =>
    match act with
    | .compute line e => reviewIdle line fuel e
    | .branch _ _ yes no => do
      reviewLast fuel yes
      reviewLast fuel no
    | .block _ body => reviewLast fuel body
    | _ => return ()

/-- Gives cautions about the last of some acts. -/
def reviewLast : Nat → List Act → Reader Unit
  | 0, _ => return ()
  | _ + 1, [] => return ()
  | fuel + 1, [act] => reviewAct fuel act
  | fuel + 1, _ :: acts => reviewLast fuel acts

end

/-- How deep acts are looked at. -/
def reviewDepth : Nat := 100000

/-- Gives cautions about all acts of a block but the last, whose value may be asked for. -/
def reviewBlock (acts : List Act) : Reader Unit := acts.dropLast.forM (reviewAct reviewDepth)

/-- Whether a test is a constant that is put somewhere. -/
def isMistaken : Nat → Expr → Bool
  | 0, _ => false
  | fuel + 1, e =>
    match e with
    | .assign place (.constant _) | .assign place (.unary "-" (.constant _)) => !isRow place
    | .row [e] => isMistaken fuel e
    | .unary "!" e => isMistaken fuel e
    | _ => false

/-- Gives a caution about a test that puts a constant somewhere. -/
def reviewTest (line : Nat) (e : Expr) : Reader Unit :=
  if isMistaken 20 e then noteAt line "syntax" "Found = in conditional, should be ==" else return ()

/-- Gives a caution about a new variable that hides one of the same block. -/
def reviewNew (word : String) (shape : Shape) (name : String) : Reader Unit := do
  let c ← get
  let own := c.declared.take (c.declared.length - c.blockStart)
  if own.contains (shape, name) then
    let isLate := (c.declared.take (c.declared.length - c.actStart)).contains (shape, name)
    if word = "our" then note "shadow" ("\"our\" variable " ++ shape.sign ++ name ++ " redeclared")
    else
      note "shadow" ("\"" ++ word ++ "\" variable " ++ shape.sign ++ name ++
        " masks earlier declaration in same " ++ (if isLate then "statement" else "scope"))

/-- Takes note of a name that is known everywhere. -/
def mention (name : String) : Reader Unit := modify fun c =>
  { c with mentions := c.mentions ++ [(if name.startsWith "::" then (name.drop 2).toString else name, c.line)] }

/-- The cautions about a whole script, those about names that stand just once at the end. -/
def Cursor.allNotices (c : Cursor) : List String :=
  let isWanted := match c.cautions with
    | some w => w.covers "once"
    | none => c.isLoud
  let lonely := c.mentions.filter fun (name, _) =>
    (c.mentions.filter fun m => m.1 == name).length = 1 && !moduleWords.any fun m => name.startsWith (m.1 ++ "::")
  c.notices ++ (if isWanted then lonely else []).map fun (name, line) =>
    "Name \"" ++ (if name.toList.contains ':' then name else "main::" ++ name) ++ "\" used only once: possible typo at " ++
      c.source ++ " line " ++ toString line ++ ".\n"

/-- Gives cautions about words in quotes that seem to be set apart by more than blanks. -/
def reviewWords (s : List Char) : Reader Unit := do
  let words := wordsIn s
  if s.contains ',' then note "qw" "Possible attempt to separate words with commas"
  if words.any (·.startsWith "#") then note "qw" "Possible attempt to put comments in qw() list"

/-- Gives a caution about the parentheses after a function that ends before the expression seems to. -/
def reviewParentheses (word : String) (after : List Char) : Reader Unit :=
  let rec inner : Nat → List Char → List Char
    | _, [] => []
    | depth, c :: cs =>
      if c == '(' then inner (depth + 1) cs
      else if c == ')' then (if depth = 0 then cs else inner (depth - 1) cs)
      else inner depth cs
  match after with
  | ' ' :: '(' :: rest =>
    let next := (inner 0 (rest.takeWhile (· != '\n'))).dropWhile Records.isSpace
    let goesOn := match next with
      | [] => true
      | c :: _ => !(";&/|\x7d)]oairuwef!=".toList.contains c)
    if goesOn then note "syntax" (word ++ " (...) interpreted as function") else return ()
  | _ => return ()

end ClassLens.Tool.Scripting
