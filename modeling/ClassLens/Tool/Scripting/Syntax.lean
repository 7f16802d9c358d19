import ClassLens.Tool.Scripting.Value

/-! # Scripts

What a script says: what is computed and what is done, one within the other, and what the script is told of
that is no fault: values that are not there, texts that are no numbers, and the like.  A script says which
kinds of cautions it wants.

* `Cautions`: the kinds that are given.
* `operationName`: what cautions call an operation.
* `shownText`: a text in a caution.
* `Expr`: what is computed, as one value or as many.
* `Act`: what is done. -/

namespace ClassLens.Tool.Scripting

/-! ### Cautions -/

/-- The kinds of cautions that are given. -/
structure Cautions where
  /-- Whether all kinds are given but some, or none but some. -/
  all : Bool
  but : List String := []
  /-- The kinds of cautions that end the script. -/
  fatal : List String := []

namespace Cautions

/-- The kinds that have others below them. -/
def groups : List (String × List String) :=
  [("io", ["closed", "exec", "layer", "newline", "pipe", "unopened", "syscalls"]),
    ("syntax", ["ambiguous", "bareword", "digit", "illegalproto", "parenthesis", "precedence", "printf", "prototype",
      "qw", "reserved", "semicolon"]),
    ("utf8", ["surrogate", "nonchar", "non_unicode"])]

/-- Whether a kind is given. -/
def covers (w : Cautions) (kind : String) : Bool := w.all != w.but.contains kind

/-- The kinds that a name stands for. -/
def kindsOf (name : String) : List String := name :: (groups.lookup name).getD []

/-- Whether a caution of a kind ends the script. -/
def isFatal (w : Cautions) (kind : String) : Bool := w.fatal.contains kind || w.fatal.contains "all"

/-- With more kinds; all of them for no names. -/
def including (w : Cautions) (names : List String) : Cautions :=
  let plain := names.filter fun n => n != "FATAL" && n != "NONFATAL"
  let isAll := plain.isEmpty || plain.contains "all"
  let kinds := if isAll then ["all"] else plain.flatMap kindsOf
  let fatal :=
    if names.contains "FATAL" then kinds ++ w.fatal
    else if !names.contains "NONFATAL" then w.fatal
    else if isAll then [] else w.fatal.filter fun k => !kinds.contains k
  if isAll then ⟨true, [], fatal⟩
  else if w.all then ⟨true, w.but.filter fun k => !kinds.contains k, fatal⟩
  else ⟨false, w.but ++ kinds, fatal⟩

/-- Without some kinds; none of them for no names. -/
def excluding (w : Cautions) (names : List String) : Cautions :=
  if names.isEmpty || names.contains "all" then ⟨false, [], w.fatal⟩
  else
    let kinds := names.flatMap kindsOf
    if w.all then { w with but := w.but ++ kinds } else { w with but := w.but.filter fun k => !kinds.contains k }

end Cautions

/-- What cautions call the operators. -/
def operatorNames : List (String × String) :=
  [("+", "addition (+)"), ("-", "subtraction (-)"), ("*", "multiplication (*)"), ("/", "division (/)"),
    ("%", "modulus (%)"), ("**", "exponentiation (**)"), ("x", "repeat (x)"), (".", "concatenation (.) or string"),
    ("==", "numeric eq (==)"), ("!=", "numeric ne (!=)"), ("<", "numeric lt (<)"), (">", "numeric gt (>)"),
    ("<=", "numeric le (<=)"), (">=", "numeric ge (>=)"), ("<=>", "numeric comparison (<=>)"), ("eq", "string eq"),
    ("ne", "string ne"), ("lt", "string lt"), ("gt", "string gt"), ("le", "string le"), ("ge", "string ge"),
    ("cmp", "string comparison (cmp)"), ("&", "bitwise and (&)"), ("|", "bitwise or (|)"), ("^", "bitwise xor (^)"),
    ("<<", "left bitshift (<<)"), (">>", "right bitshift (>>)"), ("xor", "logical xor")]

/-- What cautions call an operator or a function. -/
def operationName (word : String) : String :=
  if word = "join" then "join or string" else if word = "defined" then "defined operator"
  else if word = "ref" then "reference-type operator" else (operatorNames.lookup word).getD word

/-- The operators that take texts. -/
def textOperators : List String := [".", "eq", "ne", "lt", "gt", "le", "ge", "cmp"]

/-- The operators that look at their first operand first. -/
def leftOperators : List String := "&" :: "|" :: "^" :: textOperators

/-- A text in a caution, in quotes and cut short. -/
def shownText (s : String) : String :=
  let one (c : Char) : String :=
    match c with
    | '"' => "\\\""
    | '\\' => "\\\\"
    | '\n' => "\\n"
    | '\t' => "\\t"
    | '\r' => "\\r"
    | '\x0c' => "\\f"
    | '\x07' => "\\a"
    | '\x1b' => "\\e"
    | c =>
      if 32 ≤ c.toNat && c.toNat < 127 then String.singleton c
      else if c.toNat ≥ 256 then "\\x\x7b" ++ String.ofList (Nat.toDigits 16 c.toNat) ++ "\x7d"
      else "\\" ++ String.ofList (Nat.toDigits 8 c.toNat)
  let rec go : List Char → String → String × Bool
    | [], done => (done, false)
    | c :: cs, done =>
      let more := one c
      if done.length + more.length > 32 then (done, true) else go cs (done ++ more)
  let (shown, isCut) := go s.toList ""
  "\"" ++ shown ++ "\"" ++ (if isCut then "..." else "")

/-- A text that is no number, as a caution shows it. -/
def shownArgument (s : String) : String :=
  let one (c : Char) : String :=
    match c with
    | '\n' => "\\n"
    | '\r' => "\\r"
    | '\x0c' => "\\f"
    | '\\' => "\\\\"
    | '\x00' => "\\0"
    | c =>
      let n := c.toNat
      let plain (n : Nat) : String :=
        if n < 32 then "^" ++ String.singleton (Char.ofNat (n + 64))
        else if n = 127 then "^?" else String.singleton (Char.ofNat n)
      if n < 128 then plain n
      else if n < 256 then "M-" ++ plain (n - 128)
      else "\\x\x7b" ++ String.ofList (Nat.toDigits 16 n) ++ "\x7d"
  let rec go : List Char → String → String
    | [], done => done
    | c :: cs, done => if done.length ≥ 56 then done ++ "..." else go cs (done ++ one c)
  go s.toList ""

/-- Whether a text counts as a number without a caution. -/
def isNumeric (s : String) : Bool := s = "0 but true" || Value.isNumberText s

/-! ### What a script says -/

/-- What the name of a variable stands for: one value, many in a row, or many under texts. -/
inductive Shape where
  | one
  | many
  | keyed
  deriving DecidableEq

/-- The sign of a variable. -/
def Shape.sign : Shape → String
  | .one => "$"
  | .many => "@"
  | .keyed => "%"

/-- A connection of two answers of which the second one may not be asked for. -/
inductive Junction where
  | both
  | any
  /-- The first one if it is there. -/
  | there
  deriving DecidableEq

/-- How a table replaces characters. -/
structure Exchange where
  source : List Char
  target : List Char
  /-- Whether the characters are all other ones, whether those without a new one are dropped, and whether a
  new one that comes again is written once. -/
  complements : Bool
  drops : Bool
  squeezes : Bool
  /-- Whether the text stays as it is and the value is the new one. -/
  copies : Bool

mutual

/-- What is computed. -/
inductive Expr where
  | constant (v : Value)
  /-- Texts one after the other; the values of a list are joined. -/
  | blend (parts : List Expr)
  | variable (shape : Shape) (name : String)
  /-- What a reference points to. -/
  | target (shape : Shape) (e : Expr)
  /-- The item of a list, or the entry of a table. -/
  | item (list index : Expr)
  | entry (table key : Expr)
  | items (list indices : Expr)
  | entries (table keys : Expr)
  /-- Some of a row of values. -/
  | pick (row indices : Expr)
  | lastIndex (list : Expr)
  /-- New variables. -/
  | fresh (names : List (Option (Shape × String))) (isRow keeps : Bool)
  /-- A place whose value comes back where the block ends. -/
  | kept (e : Expr)
  | row (es : List Expr)
  | assign (place value : Expr)
  | update (op : String) (place value : Expr)
  | unary (op : String) (e : Expr)
  | binary (op : String) (a b : Expr)
  | join (j : Junction) (a b : Expr)
  | updateJoin (j : Junction) (place value : Expr)
  | either (test yes no : Expr)
  /-- A number goes up or down; the value is the new one or the old one. -/
  | step (up new : Bool) (place : Expr)
  /-- A row of numbers or texts; or whether something has started and not ended yet, the number telling such
  tests apart. -/
  | range (number : Nat) (late : Bool) (a b : Expr)
  | newList (es : List Expr)
  | newTable (es : List Expr)
  | newCode (body : List Act)
  | reference (e : Expr)
  /-- Whether a text matches; the record is taken for no text. -/
  | hits (negated : Bool) (text : Option Expr) (pattern : Expr) (flags : String)
  | replace (negated : Bool) (text : Option Expr) (pattern new : Expr) (flags : String)
  | exchange (text : Option Expr) (x : Exchange)
  | makePattern (pattern : Expr) (flags : String)
  | call (name : String) (args : List Expr)
  /-- Calls a function of the script; with none its caller's arguments are passed on. -/
  | invoke (code : Expr) (args : Option (List Expr))
  | routine (name : String)
  | bareword (name : String)
  | readLine (handle : Expr)
  | write (how : String) (handle : Option Expr) (args : List Expr)
  | sorted (order : Option Expr) (args : List Expr)
  | each (keeps : Bool) (body : List Act) (args : List Expr)
  | perform (body : List Act)
  /-- What is done until a fault ends it. -/
  | guarded (body : List Act)
  | command (text : Expr)
  | paths (pattern : Expr)

/-- What is done, with the line on which it stands. -/
inductive Act where
  | compute (line : Nat) (e : Expr)
  | branch (line : Nat) (test : Expr) (yes : List Act) (no : List Act)
  | loop (line : Nat) (label : String) (test : Option Expr) (next : List Act) (isLate : Bool) (body : List Act)
  | forEach (line : Nat) (label : String) (place : Expr) (values : Expr) (body : List Act)
  | block (label : String) (body : List Act)
  | define (name : String) (body : List Act)
  /-- From here on to the end of the block these cautions are given. -/
  | heed (w : Cautions)

end

instance : Inhabited Expr := ⟨.row []⟩

/-- Whether an expression means many places to be filled at once. -/
def isRow : Expr → Bool
  | .row _ | .items .. | .entries .. => true
  | .fresh names isRow _ => isRow || names.any fun n => n.any fun v => v.1 != .one
  | .variable shape _ | .target shape _ => shape != .one
  | .kept e => isRow e
  | _ => false

end ClassLens.Tool.Scripting
