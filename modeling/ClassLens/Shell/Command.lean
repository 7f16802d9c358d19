import ClassLens.Path

/-! # Scripts as trees

What a shell script says, after it was read. All texts of a shell are rows of bytes: each character of
a `String` here stands for the byte of the same number.

* `toBytes`, `ofBytes`: such a text, and the bytes it stands for.
* `Part`: a part of a word, with its quotes and expansions.
* `Command`: a command with its redirections.
* `Program`: the commands of one line, with its here-documents. -/

namespace ClassLens.Shell

/-- The bytes that a text of one-byte characters stands for. -/
def toBytes (s : String) : List UInt8 :=
  s.toList.map fun c => c.toNat.toUInt8

/-- The text of one-byte characters that stands for some bytes. -/
def ofBytes (bs : List UInt8) : String :=
  String.ofList (bs.map fun b => Char.ofNat b.toNat)

/-- The text of one-byte characters that stands for a text. -/
def ofText (s : String) : String :=
  ofBytes (bytesOf s)

/-- The languages of shells. -/
inductive Dialect where
  | plain
  | extended
  deriving DecidableEq

/-- The places at which a part of a value is replaced. -/
inductive Site where
  | first
  | everywhere
  | start
  | finish
  deriving DecidableEq

/-- How an arm of a choice ends: the choice is over, the next arm is run, or the next patterns are tried. -/
inductive ArmEnd where
  | stops
  | falls
  | tries
  deriving DecidableEq

mutual

/-- A part of a word. -/
inductive Part where
  /-- Characters without quotes. -/
  | plain (text : String)
  /-- Characters that a quote or a backslash keeps as they are. -/
  | quoted (text : String)
  /-- Parts between double quotes. -/
  | double (parts : List Part)
  | parameter (name : String) (form : Form)
  | substitution (lines : List Program)
  /-- A substitution whose commands are read when it is run. -/
  | script (text : String)
  | arithmetic (parts : List Part)
  /-- A variable, maybe the one that its value names, or an element of it. -/
  | element (indirect : Bool) (name : String) (index : Option (List Part)) (form : Form)
  /-- A file that leads to commands. -/
  | process (reads : Bool) (lines : List Program)
  /-- An argument of a command that sets variables. -/
  | setting (a : Assignment)

/-- What is done with the value of a parameter. -/
inductive Form where
  | value
  | length
  /-- Another word where the parameter is unset, or with the mark also where it is empty. -/
  | orElse (mark : Bool) (word : List Part)
  /-- The same, and the parameter gets that value. -/
  | assign (mark : Bool) (word : List Part)
  /-- The script ends where the parameter is unset. -/
  | require (mark : Bool) (word : List Part)
  /-- Another word where the parameter is set. -/
  | instead (mark : Bool) (word : List Part)
  /-- The value without what a pattern matches at its start or its end. -/
  | strip (atEnd longest : Bool) (word : List Part)
  /-- The value with other texts in the place of what a pattern matches. -/
  | replace (site : Site) (pattern new : List Part)
  | slice (offset : List Part) (length : Option (List Part))
  /-- Letters that a pattern matches become great or small ones, or for none change sides. -/
  | letters (upper : Option Bool) (all : Bool) (pattern : List Part)
  /-- The value in a form that a letter names. -/
  | shown (form : Char)
  /-- The indices of a variable. -/
  | keys (separate : Bool)
  /-- The names of variables that start in a certain way. -/
  | names (separate : Bool)
  /-- No form at all; the text of the parameter may be told. -/
  | bad

/-- A value for a variable or for an element of it, or a row of values. -/
inductive Assignment where
  | value (name : String) (index : Option (List Part)) (appends : Bool) (word : List Part)
  | items (name : String) (appends : Bool) (list : List (Option (List Part) × Bool × List Part))

/-- A condition of the extended language. -/
inductive Test where
  | word (w : List Part)
  | unary (operator : String) (w : List Part)
  | binary (operator : String) (left right : List Part)
  | not (t : Test)
  | both (a b : Test)
  | either (a b : Test)

/-- A redirection. -/
inductive Redirect where
  | input (fd : Nat) (target : List Part)
  /-- The file is made or emptied, which an option forbids unless it is forced. -/
  | output (forced : Bool) (fd : Nat) (target : List Part)
  | append (fd : Nat) (target : List Part)
  | both (fd : Nat) (target : List Part)
  | copy (fd : Nat) (target : List Part)
  /-- A here-document by its number. -/
  | document (fd number : Nat)
  /-- A text with a line break after it. -/
  | line (fd : Nat) (text : List Part)
  /-- Both outputs. -/
  | outputs (appends : Bool) (target : List Part)

/-- A command. -/
inductive Command where
  | simple (line : Nat) (assignments : List Assignment) (words : List (List Part))
      (redirects : List Redirect)
  | pipe (commands : List Command)
  | negated (command : Command)
  | both (first second : Command)
  | either (first second : Command)
  | sequence (first second : Command)
  | background (command : Command)
  | subshell (line : Nat) (body : Command) (redirects : List Redirect)
  | redirected (line : Nat) (body : Command) (redirects : List Redirect)
  | branch (test yes : Command) (no : Option Command)
  | loop (line : Nat) (untilDone : Bool) (test body : Command)
  | each (line : Nat) (name : String) (words : List (List Part)) (body : Command)
  | choose (line : Nat) (word : List Part) (arms : List (List (List Part) × Option Command × ArmEnd))
  | define (name : String) (line : Nat) (body : Command)
  | condition (line : Nat) (test : Test)
  | calculate (line : Nat) (text : List Part)
  /-- A loop with three expressions: before it, for its test, and after each round. -/
  | count (line : Nat) (start test step : List Part) (body : Command)
  /-- A command whose time is told, in a short form or in a long one. -/
  | timed (short : Bool) (command : Command)

/-- The command that a line of a script holds, if it holds one, and its here-documents by number. -/
inductive Program where
  | mk (command : Option Command) (documents : List (Nat × List Part))

end

/-- A word. -/
abbrev Word := List Part

namespace Program

/-- The command of a line. -/
def command : Program → Option Command
  | mk c _ => c

/-- The here-documents of a line. -/
def documents : Program → List (Nat × Word)
  | mk _ ds => ds

end Program

end ClassLens.Shell
