import ClassLens.Tool.Basic

/-! # Modes

The permissions of files as twelve bits: what the system does with who runs a file, and what the owner, the
group and others may do.

* `Modes.compile?`: the changes that a text says.
* `Modes.adjust`: a mode after changes.
* `Modes.shown`: a mode as letters. -/

namespace ClassLens.Tool.Modes

/-- How a change treats the bits it names. -/
inductive Action where
  | set
  | add
  | remove
  deriving DecidableEq

/-- Which bits a change names. -/
inductive Named where
  | bits (n : Nat)
  /-- Those to run a file, if somebody may run it. -/
  | runs (n : Nat)
  /-- Those of an owner, of a group or of others, for all three. -/
  | like_ (n : Nat)

/-- A change of modes. -/
structure Change where
  action : Action
  /-- The bits of those that are named; nobody is named for zero. -/
  affected : Nat
  named : Named
  /-- The bits that are mentioned, so that a directory loses them too. -/
  mentioned : Nat

/-- The bits of all. -/
def all : Nat := 0o7777

/-- The bits of those that a letter names. -/
def whoOf? : Char → Option Nat
  | 'u' => some 0o4700
  | 'g' => some 0o2070
  | 'o' => some 0o1007
  | 'a' => some all
  | _ => none

/-- The number that octal digits are. -/
def octal (digits : List Char) : Nat := digits.foldl (fun n c => n * 8 + (c.toNat - 48)) 0

def isOctalDigit (c : Char) : Bool := '0' ≤ c && c ≤ '7'

/-- The bits of letters for permissions, and what follows them. -/
def readLetters (n : Nat) (runs : Bool) : List Char → (Nat × Bool) × List Char
  | 'r' :: s => readLetters (n ||| 0o444) runs s
  | 'w' :: s => readLetters (n ||| 0o222) runs s
  | 'x' :: s => readLetters (n ||| 0o111) runs s
  | 'X' :: s => readLetters n true s
  | 's' :: s => readLetters (n ||| 0o6000) runs s
  | 't' :: s => readLetters (n ||| 0o1000) runs s
  | s => ((n, runs), s)

/-- What a change names, and what follows it. -/
def readNamed (s : List Char) : Option (Named × Option Nat × List Char) :=
  let digits := s.takeWhile isOctalDigit
  if !digits.isEmpty then
    let rest := s.drop digits.length
    if octal digits > all || !(rest.head?.all (· == ',')) then none
    else some (.bits (octal digits), some all, rest)
  else
    match s with
    | 'u' :: rest => some (.like_ 0o700, none, rest)
    | 'g' :: rest => some (.like_ 0o070, none, rest)
    | 'o' :: rest => some (.like_ 0o007, none, rest)
    | s =>
      let ((n, runs), rest) := readLetters 0 false s
      some (if runs then .runs n else .bits n, none, rest)

/-- The changes of one part of a text, after those that it names. -/
def readActions (affected : Nat) : Nat → List Char → Option (List Change × List Char)
  | 0, _ => none
  | n + 1, c :: s =>
    let action : Option Action :=
      if c == '=' then some .set else if c == '+' then some .add else if c == '-' then some .remove else none
    match action with
    | none => none
    | some action =>
      match readNamed s with
      | none => none
      | some (named, mentioned, rest) =>
        let affected := if mentioned.isSome && affected = 0 then all else affected
        let value := match named with
          | .bits v | .runs v | .like_ v => v
        let change : Change := {
          action
          affected
          named
          mentioned := mentioned.getD (if affected = 0 then value else affected &&& value) }
        match rest with
        | [] => some ([change], [])
        | ',' :: _ => some ([change], rest)
        | rest => (readActions affected n rest).map fun (more, rest) => (change :: more, rest)
  | _ + 1, [] => none

/-- The changes of a text with names and signs. -/
def readParts : Nat → List Char → Option (List Change)
  | 0, _ => none
  | n + 1, s =>
    let who := s.takeWhile fun c => (whoOf? c).isSome
    let affected := who.foldl (fun bits c => bits ||| (whoOf? c).getD 0) 0
    match readActions affected (s.length + 1) (s.drop who.length) with
    | none => none
    | some (changes, []) => some changes
    | some (changes, _ :: rest) => (readParts n rest).map (changes ++ ·)

/-- The changes that a text says: digits, or names and signs. -/
def compile? (text : String) : Option (List Change) :=
  let s := text.toList
  if !s.isEmpty && s.all isOctalDigit then
    if octal s > all then none
    else
      some [{
        action := .set
        affected := all
        named := .bits (octal s)
        mentioned := if s.length < 5 then (octal s &&& 0o6000) ||| 0o1777 else all }]
  else readParts (s.length + 1) s

/-- A mode after one change. -/
def Change.adjust (c : Change) (isDirectory : Bool) (mask mode : Nat) : Nat :=
  let kept := if isDirectory then 0o6000 - (0o6000 &&& c.mentioned) else 0
  let value := match c.named with
    | .bits n => n
    | .runs n => if mode &&& 0o111 ≠ 0 || isDirectory then n ||| 0o111 else n
    | .like_ n =>
      let bits := mode &&& n
      (if bits &&& 0o444 ≠ 0 then 0o444 else 0) ||| (if bits &&& 0o222 ≠ 0 then 0o222 else 0) |||
        if bits &&& 0o111 ≠ 0 then 0o111 else 0
  let value := value &&& (if c.affected = 0 then all - mask % 512 else c.affected) &&& (all - kept)
  match c.action with
  | .set =>
    let preserved := (if c.affected = 0 then 0 else all - c.affected) ||| kept
    (mode &&& preserved) ||| value
  | .add => mode ||| value
  | .remove => mode &&& (all - value)

/-- A mode after changes. -/
def adjust (changes : List Change) (isDirectory : Bool) (mask mode : Nat) : Nat :=
  changes.foldl (fun mode c => c.adjust isDirectory mask mode) mode

/-- A mode as nine letters. -/
def shown (mode : Nat) : String :=
  let has (bit : Nat) : Bool := mode &&& bit ≠ 0
  let part (read write run special : Nat) (both alone : Char) : List Char :=
    [if has read then 'r' else '-', if has write then 'w' else '-',
      if has special then (if has run then both else alone) else if has run then 'x' else '-']
  String.ofList (part 0o400 0o200 0o100 0o4000 's' 'S' ++ part 0o040 0o020 0o010 0o2000 's' 'S' ++
    part 0o004 0o002 0o001 0o1000 't' 'T')

/-- A mode as so many octal digits at least. -/
def digits (least mode : Nat) : String :=
  let s := String.ofList (Nat.toDigits 8 mode)
  String.ofList (List.replicate (least - s.length) '0') ++ s

/-- The letter of what stands at a place. -/
def kindLetter : Node → Char
  | .directory => 'd'
  | .file .. => '-'
  | .link _ => 'l'
  | .sink | .zeros => 'c'

/-- What stands at a place with its mode, as letters. -/
def full (node : Node) (mode : Nat) : String := String.singleton (kindLetter node) ++ shown mode

end ClassLens.Tool.Modes
