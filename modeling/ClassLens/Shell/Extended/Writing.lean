import ClassLens.Shell.Expansion
import ClassLens.Shell.Format

/-! # Arguments and output in the extended language

In the extended language a command may get arguments that set variables, elements of them, or all their values
at once.  Unlike the plain one, its `echo` resolves escapes only when it is told to, and its `printf` may give
what it would write to a variable.

* `Given`: an argument of a command, expanded.
* `putValue`, `putItems`: what such an argument does.
* `Writing.echo`, `Writing.printf`: these commands. -/

/-! ### Arguments that set variables -/

namespace ClassLens.Shell

/-- An expanded argument of a command. -/
inductive Given where
  | text (s : String)
  | value (name : String) (sub : Option String) (appends : Bool) (value : String)
  /-- Values with the subscripts that they are given under, and whether they are added to what is there. -/
  | items (name : String) (appends : Bool) (list : List (Option String × Bool × List String))

namespace Given

/-- An argument as a text. -/
def toText : Given → String
  | text s => s
  | value name sub appends v =>
    name ++ (sub.elim "" fun t => "[" ++ t ++ "]") ++ (if appends then "+=" else "=") ++ v
  | items name appends list =>
    name ++ (if appends then "+=" else "=") ++ "(" ++ " ".intercalate (list.flatMap fun e => e.2.2) ++ ")"

end Given

/-- The argument that a text is for a command that sets variables. -/
def Given.ofText (s : String) : Given :=
  let head := s.toList.takeWhile (· != '=')
  match s.toList.drop head.length with
  | [] => .text s
  | _ :: given =>
    let appends := head.getLast? == some '+'
    let (name, sub) := splitSubscript (String.ofList (if appends then head.dropLast else head))
    if isName name.toList then .value name sub appends (String.ofList given) else .text s

/-- The value of a text for a variable, which may be that of an expression. -/
def Variable.valueFor (v : Variable) (before : Option String) (appends : Bool) (value : String) :
    Run String := do
  if v.isWhole then
    let n ← calculate value
    let m ← if appends then calculate (before.getD "0") else pure 0
    return toString (Arithmetic.wrap (m + n))
  else return if appends then before.getD "" ++ value else value

/-- Gives a variable or an element of it a value. -/
def putValue (name : String) (sub : Option String) (appends : Bool) (value : String) : Run Unit := do
  let s ← shell
  let (name, sub) := match sub with
    | none => splitSubscript (s.resolve name)
    | sub => (s.resolve name, sub)
  let old := (s.lookup? name).getD {}
  match sub with
  | none => assign name (← old.valueFor old.text? appends value)
  | some t =>
    let isBad := if s.isKeyed name then t = "" else t = "@" || t = "*"
    let slot ← if isBad then pure none else slotOf name t
    match slot with
    | none => refuse (name ++ "[" ++ t ++ "]: bad array subscript")
    | some slot => store name slot (← old.valueFor (s.element? name slot) appends value)

/-- The values of a variable under texts with more of them. -/
def keyedWith (v : Variable) : Nat → Table String String → List (Option String × Bool × List String) →
    Run (Table String String)
  | 0, t, _ => return t
  | _ + 1, t, [] => return t
  | n + 1, t, (some key, appends, values) :: more => do
    let value ← v.valueFor (t.get? key) appends (values.headD "")
    keyedWith v n (t.insert key (v.spelt value)) more
  | n + 1, t, (none, _, key :: values) :: more => do
    let (value, more) := match values, more with
      | value :: values, more => (value, (none, false, values) :: more)
      | [], (none, _, value :: values) :: more => (value, (none, false, values) :: more)
      | [], more => ("", more)
    let value ← v.valueFor none false value
    keyedWith v n (t.insert key (v.spelt value)) more
  | n + 1, t, (none, _, []) :: more => keyedWith v n t more

/-- The values of a variable under numbers with more of them, those without a number from `next` on. -/
def numberedWith (name : String) (v : Variable) : Nat → Table Nat String →
    List (Option String × Bool × List String) → Run (Table Nat String)
  | _, t, [] => return t
  | _, t, (some sub, appends, values) :: more => do
    let i ← calculate sub
    let i := if i < 0 then i + (t.keys.foldl (fun n k => max n (k + 1)) 0 : Nat) else i
    if i < 0 then refuse (name ++ "[" ++ sub ++ "]: bad array subscript")
    let value ← v.valueFor (t.get? i.toNat) appends (values.headD "")
    numberedWith name v (i.toNat + 1) (t.insert i.toNat (v.spelt value)) more
  | next, t, (none, _, values) :: more => do
    let texts ← values.mapM fun value => v.valueFor none false value
    let t := texts.zipIdx.foldl (fun t e => t.insert (next + e.2) (v.spelt e.1)) t
    numberedWith name v (next + values.length) t more

/-- Gives a variable many values, or adds them to those that it has. -/
def putItems (name : String) (appends : Bool) (list : List (Option String × Bool × List String)) :
    Run Unit := do
  let s ← shell
  let name := s.resolve name
  let old := (s.vars.get? name).getD {}
  if old.isReadonly then refuseReadonly name
  let items : Items ← match old.items with
    | some (.keyed t) =>
      let count := (list.map fun e => e.2.2.length + 1).foldl (· + ·) 1
      pure (.keyed (← keyedWith old (2 * count) (if appends then t else .empty) list))
    | some (.numbered t) =>
      let t := if appends then t else .empty
      pure (.numbered (← numberedWith name old (t.keys.foldl (fun n k => max n (k + 1)) 0) t list))
    | none =>
      let t : Table Nat String := match if appends then old.value else none with
        | some value => Table.empty.insert 0 value
        | none => .empty
      pure (.numbered (← numberedWith name old t.keys.length t list))
  modifyShell fun s => { s with
    vars := s.vars.insert name { old with items := some items, value := none } }

namespace Given

/-- The name of the variable that an argument sets. -/
def name? : Given → Option String
  | text _ => none
  | value name .. | items name .. => some name

/-- Does what an argument says that sets a variable. -/
def put : Given → Run Unit
  | text _ => return ()
  | value name sub appends v => putValue name sub appends v
  | items name appends list => putItems name appends list

end Given

end ClassLens.Shell

/-! ### Writing -/

namespace ClassLens.Shell.Writing

/-- What an escape stands for: some characters, with a fault that is told, or the end of all output. -/
inductive Resolved where
  | chars (cs rest : List Char) (fault : Option String)
  | stop

/-- A character by the digits of its number; where there are none the escape stands for itself. -/
def byDigits (mark : Char) (most : Nat) (told : Option String) (s : List Char) : Resolved :=
  let ds := (s.take most).takeWhile isHex
  if ds.isEmpty then .chars ['\\', mark] s told
  else
    let n := digitValue 16 ds
    let rest := s.drop ds.length
    if mark = 'x' then .chars [Char.ofNat (n % 256)] rest none
    else if n < 128 then .chars [Char.ofNat n] rest none
    else
      let hex := (Nat.toDigits 16 n).map Char.toUpper
      let width := if n < 65536 then 4 else 8
      .chars ('\\' :: (if n < 65536 then 'u' else 'U') :: List.replicate (width - hex.length) '0' ++ hex) rest none

/-- What an escape stands for, `s` being what follows its backslash. Words have a sign that ends all output,
and octal digits that must come after a zero for `echo`. -/
def escape (inWord needsZero : Bool) (s : List Char) : Resolved :=
  match s with
  | [] => .chars ['\\'] [] none
  | c :: rest =>
    let missing (what : String) : Option String := if inWord then none else some what
    match c with
    | 'a' => .chars ['\x07'] rest none
    | 'b' => .chars ['\x08'] rest none
    | 'e' | 'E' => .chars ['\x1b'] rest none
    | 'f' => .chars ['\x0c'] rest none
    | 'n' => .chars ['\n'] rest none
    | 'r' => .chars ['\r'] rest none
    | 't' => .chars ['\t'] rest none
    | 'v' => .chars ['\x0b'] rest none
    | '\\' => .chars ['\\'] rest none
    | 'x' => byDigits 'x' 2 (missing "missing hex digit for \\x") rest
    | 'u' => byDigits 'u' 4 (missing "missing unicode digit for \\u") rest
    | 'U' => byDigits 'U' 8 (missing "missing unicode digit for \\U") rest
    | c =>
      if c == 'c' && inWord then .stop
      else if isOctal c && (!needsZero || c == '0') then
        let ds := (s.take (if inWord && c == '0' then 4 else 3)).takeWhile isOctal
        .chars [Char.ofNat (digitValue 8 ds % 256)] (s.drop ds.length) none
      else if !needsZero && (c == '"' || c == '\'' || c == '?') then .chars [c] rest none
      else .chars ['\\', c] rest none

/-- A text with its escapes resolved, and whether one of them ends all output. -/
def resolve (needsZero : Bool) : Nat → List Char → List Char × Bool
  | 0, s => (s, false)
  | _ + 1, [] => ([], false)
  | n + 1, '\\' :: s =>
    match escape true needsZero s with
    | .stop => ([], true)
    | .chars cs rest _ =>
      let (more, isOver) := resolve needsZero n rest
      (cs ++ more, isOver)
  | n + 1, c :: s =>
    let (more, isOver) := resolve needsZero n s
    (c :: more, isOver)

/-- Writes a text for the builtin command at work; its status. -/
def put (text : String) : Run Nat := do
  if text = "" then return 0
  if ← writeTo 1 text then return 0
  warn "write error: Bad file descriptor"
  return 1

/-- Writes lines; the status. -/
def putLines (lines : List String) : Run Nat :=
  put (String.join (lines.map (· ++ "\n")))

/-- Tells how a command is used that got an option which it does not know; its status. -/
def invalidOption (option usage : String) : Run Nat := do
  warn (option ++ ": invalid option")
  tell (((← shell).builtin.getD "") ++ ": usage: " ++ usage ++ "\n")
  return 2

/-- The flags of `echo`, and the words after them. -/
def echoFlags (newline escapes : Bool) : List String → Bool × Bool × List String
  | [] => (newline, escapes, [])
  | word :: words =>
    match word.toList with
    | '-' :: c :: cs =>
      if (c :: cs).all fun c => c == 'n' || c == 'e' || c == 'E' then
        let newline := newline && !(c :: cs).contains 'n'
        let last := ((c :: cs).filter (· != 'n')).getLast?
        let escapes := match last with
          | some 'e' => true
          | some _ => false
          | none => escapes
        echoFlags newline escapes words
      else (newline, escapes, word :: words)
    | _ => (newline, escapes, word :: words)

/-- Writes its arguments. -/
def echo (args : List String) : Run Nat := do
  let (newline, escapes, words) := echoFlags true ((← shell).features.contains "xpg_echo") args
  let text := " ".intercalate words
  if escapes then
    let (cs, isOver) := resolve true (text.length + 1) text.toList
    put (String.ofList cs ++ (if newline && !isOver then "\n" else ""))
  else put (text ++ (if newline then "\n" else ""))

/-! ### Formats -/

/-- What is wrong with an argument that is to be a number. -/
def numberFault (s : String) : String :=
  let body := s.toList.dropWhile fun c => c == '-' || c == '+' || c == ' '
  match body with
  | '0' :: 'x' :: _ | '0' :: 'X' :: _ => s ++ ": invalid hex number"
  | '0' :: c :: _ => s ++ (if c.isDigit then ": invalid octal number" else ": invalid number")
  | _ => s ++ ": invalid number"

/-- The whole number that an argument is. -/
def takeWhole (isSigned : Bool) (p : Printing) : Int × Printing :=
  match p.next with
  | (none, p) => (0, p)
  | (some s, p) =>
    match s.toList with
    | '\'' :: cs | '"' :: cs => ((cs.headD '\x00').toNat, p)
    | cs =>
      let body := cs.dropWhile fun c => c == ' ' || (9 ≤ c.toNat && c.toNat ≤ 13)
      let (negative, ds) := match body with
        | '-' :: ds => (true, ds)
        | '+' :: ds => (false, ds)
        | ds => (false, ds)
      let (n, rest) := if ds.head?.any Char.isDigit then Arithmetic.wholeNumber ds else (0, cs)
      let top : Int := if !isSigned then Nat.pow 2 64 - 1
        else if negative then Nat.pow 2 63 else Nat.pow 2 63 - 1
      let value := if n > top then (if negative && isSigned then -top else top)
        else if negative then -n else n
      let fault := if !rest.isEmpty then some (numberFault s)
        else if n > top then some ("warning: " ++ s ++ ": Numerical result out of range") else none
      (value, p.blame fault)

/-- The number with a point that an argument is. -/
def takeReal (p : Printing) : Floating × Printing :=
  match p.next with
  | (none, p) => (.finite false 0 0, p)
  | (some s, p) =>
    match s.toList with
    | '\'' :: cs | '"' :: cs => (.finite false (cs.headD '\x00').toNat 0, p)
    | cs =>
      let (x, rest, isOut) := Floating.read .extended cs
      let fault := if !rest.isEmpty then some (numberFault s)
        else if isOut then some ("warning: " ++ s ++ ": Numerical result out of range") else none
      (x, p.blame fault)

/-- A width or a precision, and what follows it; a star takes an argument. -/
def measure (p : Printing) (s : List Char) : Int × Printing × List Char :=
  match s with
  | '*' :: s =>
    let (n, p) := takeWhole true p
    (Int.bmod n (Nat.pow 2 32), p, s)
  | s =>
    let ds := s.takeWhile Char.isDigit
    (digitValue 10 ds, p, s.drop ds.length)

/-- Writes an argument as a directive says; none where there is no such directive. -/
def write (d : Directive) (conversion : Char) (p : Printing) : Option Printing :=
  let cut (s : String) : String := match d.precision with
    | some n => (s.take n).toString
    | none => s
  match conversion with
  | 's' =>
    let (arg, p) := p.next
    some (p.add (d.pad (cut (arg.getD ""))))
  | 'c' =>
    let (arg, p) := p.next
    some (p.add (d.pad (String.singleton ((arg.getD "").toList.headD '\x00'))))
  | 'q' =>
    let (arg, p) := p.next
    some (p.add (d.pad (cut (Reshaping.backslashed (arg.getD "")))))
  | 'Q' =>
    let (arg, p) := p.next
    some (p.add (d.pad (Reshaping.backslashed (cut (arg.getD "")))))
  | 'b' =>
    let (arg, p) := p.next
    let s := arg.getD ""
    let (cs, isOver) := resolve false (s.length + 1) s.toList
    let p := p.add (d.pad (cut (String.ofList cs)))
    some (if isOver then { p with isOver := true } else p)
  | c =>
    if "diouxX".toList.contains c then
      let (n, p) := takeWhole (c == 'd' || c == 'i') p
      some (p.add (d.whole c n))
    else if "aAfeEgGF".toList.contains c then
      let (x, p) := takeReal p
      some (p.add (d.real .extended c x))
    else none

/-- One pass over a format. -/
def formatOnce : Nat → List Char → Printing → Printing
  | 0, _, p => p
  | _ + 1, [], p => p
  | n + 1, '%' :: '%' :: s, p => formatOnce n s (p.add "%")
  | n + 1, '%' :: s, p =>
    let (d, rest) := readFlags {} s
    let (width, p, rest) := measure p rest
    let d := { d with width := width.natAbs, left := d.left || width < 0 }
    let (d, p, rest) := match rest with
      | '.' :: rest =>
        let (precision, p, rest) := measure p rest
        ({ d with precision := if precision < 0 then none else some (min precision.toNat widest) }, p, rest)
      | rest => (d, p, rest)
    let rest := rest.dropWhile "hjlLtz".toList.contains
    match rest with
    | c :: after =>
      match write d c p with
      | some p => if p.isOver then p else formatOnce n after p
      | none => p.fail ("\x60" ++ String.singleton c ++ "': invalid format character")
    | [] => p.fail ("\x60" ++ String.ofList ('%' :: s) ++ "': missing format character")
  | n + 1, '\\' :: s, p =>
    match escape false false s with
    | .stop => p
    | .chars cs rest fault => formatOnce n rest ((p.mention fault).add (String.ofList cs))
  | n + 1, c :: s, p => formatOnce n s (p.add (String.singleton c))

/-- A format applied again until no arguments are left. -/
def formatAll (format : String) : Nat → Printing → Printing
  | 0, p => p
  | n + 1, p =>
    let q := formatOnce (format.length + 1) format.toList p
    if q.isOver || q.args.isEmpty || q.args.length == p.args.length then q
    else formatAll format n q

/-- How `printf` is used. -/
def printfUsage : String := "printf [-v var] format [arguments]"

/-- Writes its arguments by a format, or gives a variable what it would write. -/
def printf (args : List String) : Run Nat := do
  let (target, args) : Option String × List String ← match args with
    | "-v" :: name :: rest => pure (some name, rest)
    | args => pure (none, args)
  let hasEnd := args.head? == some "--"
  let args := if hasEnd then args.tail else args
  match target with
  | some name =>
    if !isName (splitSubscript name).1.toList then
      warn ("\x60" ++ name ++ "': not a valid identifier")
      return 2
  | none => pure ()
  match args with
  | [] =>
    tell ("printf: usage: " ++ printfUsage ++ "\n")
    return 2
  | format :: rest =>
    match format.toList, hasEnd || target.isSome with
    | '-' :: c :: _, false => return ← invalidOption (String.ofList ['-', c]) printfUsage
    | _, _ => pure ()
    let done := formatAll format (rest.length + 1) { args := rest }
    for (_, message) in done.messages do warn message
    match target with
    | some name =>
      putValue name none false done.output
      return if done.isFaulty then 1 else 0
    | none =>
      let written ← put done.output
      return if done.isFaulty then 1 else written

end ClassLens.Shell.Writing
