import ClassLens.Shell.Braces
import ClassLens.Shell.Calculation
import ClassLens.Shell.Floating
import ClassLens.Shell.Reader
import ClassLens.Shell.Reshaping

/-! # Expanding words

What a word of a script stands for when it is run: parameters, substitutions and arithmetic are replaced
by their values, what was not quoted is split into fields, and patterns are replaced by the names of
files.

* `Bit`: a character of an expanded word with what may still be done with it.
* `splitFields`: the fields of an expanded word.
* `Picked`: what a parameter of the extended language stands for, and `formBits`, the bits of its form.
* `expandFields`, `expandText`, `expandPattern`: a word as the fields of a command, as one text, and as a
  pattern. -/

namespace ClassLens.Shell

/-- A piece of an expanded word. -/
inductive Bit where
  /-- A character; it may be quoted, or come from an expansion that is to be split. -/
  | char (c : Char) (isQuoted splits : Bool)
  /-- The end of one parameter of many. -/
  | stop
  /-- Quotes with nothing between them. -/
  | nothing

/-- The bits of a text. -/
def bitsOf (isQuoted splits : Bool) (s : String) : List Bit :=
  s.toList.map fun c => .char c isQuoted splits

/-- The fields of an expanded word: they end at the separators that come from expansions. Blank
separators count only between fields. -/
def splitFrom (seps : List Char) (field : List Marked) (isOpen afterBlank : Bool) :
    List Bit → List (List Marked)
  | [] => if isOpen then [field.reverse] else []
  | .stop :: bits =>
    if isOpen then field.reverse :: splitFrom seps [] false false bits
    else splitFrom seps [] false false bits
  | .nothing :: bits => splitFrom seps field true false bits
  | .char c isQuoted splits :: bits =>
    if splits && seps.contains c then
      if c == ' ' || c == '\t' || c == '\n' then
        if isOpen then field.reverse :: splitFrom seps [] false true bits
        else splitFrom seps [] false afterBlank bits
      else if isOpen then field.reverse :: splitFrom seps [] false false bits
      else if afterBlank then splitFrom seps [] false false bits
      else [] :: splitFrom seps [] false false bits
    else splitFrom seps ((c, isQuoted) :: field) true false bits

/-- The fields of an expanded word. -/
def splitFields (seps : List Char) (bits : List Bit) : List (List Marked) :=
  splitFrom seps [] false false bits

/-- The separators of a shell. -/
def Shell.separators (s : Shell) : List Char :=
  match s.vars.get? "IFS" with
  | some v => (v.value.getD "").toList
  | none => [' ', '\t', '\n']

/-- The text between the parameters of `$*`. -/
def Shell.joint (s : Shell) : String :=
  String.ofList (s.separators.take 1)

/-- The options that a shell of the extended language has on, by their letters. -/
def Shell.wideOptions (s : Shell) : String :=
  let on := ['a', 'b', 'e', 'f', 'h', 'm', 'n', 'u', 'v', 'x', 'B', 'C', 'E', 'H', 'P', 'T'].filter fun c =>
    s.options.contains c
  String.ofList on ++ (if s.isArgument then "c" else if s.options.contains 's' then "s" else "")

/-- The value of a parameter that is one text. -/
def Shell.parameter? (s : Shell) (name : String) : Option String :=
  match name with
  | "#" => some (toString s.positional.length)
  | "?" => some (toString s.status)
  | "$" => some (toString s.number)
  | "!" => s.lastJob.map toString
  | "-" => some (if s.isExtended then s.wideOptions else String.ofList s.options)
  | "0" => some s.name
  | "*" | "@" => some (s.joint.intercalate s.positional)
  | _ =>
    match plainNumber? name with
    | some n => if n = 0 then some s.name else s.positional[n - 1]?
    | none => s.text? name

/-- The file tree as a shell sees it from its directory. -/
def tree : Run FileTree := do
  return { (← world).files with start := (← shell).directory }

/-- Bits as one text. -/
def textOfBits (bits : List Bit) : String :=
  String.ofList (bits.filterMap fun
    | .char c _ _ => some c
    | .stop => some ' '
    | .nothing => none)

/-- Bits as the characters of a pattern. -/
def markedOfBits (bits : List Bit) : List Marked :=
  bits.filterMap fun
    | .char c isQuoted _ => some (c, isQuoted)
    | .stop => some (' ', true)
    | .nothing => none

/-- Bits without what a pattern matches at their start or their end. Where the stops between parameters
are to be nothing in the text, a match ends before them. -/
def stripBits (atEnd longest : Bool) (pattern : Pattern) (joint : Option Char) (bits : List Bit) :
    List Bit :=
  let text (bits : List Bit) : List Char := bits.filterMap fun
    | .char c _ _ => some c
    | .stop => some (joint.getD '\x00')
    | .nothing => none
  let hasStop (bits : List Bit) : Bool := joint.isNone && bits.any fun
    | .stop => true
    | _ => false
  let places := List.range (bits.length + 1)
  if atEnd then
    let upToStop (cs : List Char) : List Char := if joint.isNone then cs.takeWhile (· != '\x00') else cs
    let hits (n : Nat) : Bool := pattern.accepts (upToStop (text (bits.drop n)))
    match (if longest then places else places.reverse).find? hits with
    | some n => bits.take n
    | none => bits
  else
    let hits (n : Nat) : Bool := !hasStop (bits.take n) && pattern.accepts (text (bits.take n))
    match (if longest then places.reverse else places).find? hits with
    | some n =>
      if (bits.take n).any (fun
        | .nothing => true
        | _ => false) then .nothing :: bits.drop n else bits.drop n
    | none => bits

/-- A value without the line breaks at its end. -/
def dropNewlines (s : String) : String :=
  String.ofList ((s.toList.filter (· != '\x00')).reverse.dropWhile (· == '\n')).reverse

/-- The number that the value of a variable is. -/
def Shell.numberOf (s : Shell) (name : String) : Except String Int :=
  match s.value? name with
  | some v =>
    if v.toList.all (fun c => c == ' ') then .ok 0
    else
      match Arithmetic.ofText? v with
      | some n => .ok n
      | none => .error ("Illegal number: " ++ v)
  | none => .ok 0

/-- The value of an arithmetic expression. -/
def arithmetic (text : String) : Run Int := do
  match Arithmetic.evaluate (← shell).numberOf text with
  | .ok (n, assigned) =>
    for (name, value) in assigned.reverse do
      assign name (toString value)
    return n
  | .error e =>
    if e.startsWith "Illegal number" then refuse e
    else refuse ("arithmetic expression: " ++ e ++ ": \"" ++ text ++ "\"")

/-- The home directory of a user. -/
def homeOf? (t : FileTree) (user : String) : Option String :=
  match t.readBytes (.ofString "/etc/passwd") with
  | .ok content =>
    ((ofBytes content).splitOn "\n").findSome? fun line =>
      let fields := line.splitOn ":"
      if fields.head? = some user then fields[5]? else none
  | .error _ => none

/-- A word with a home directory in the place of a tilde at its start. -/
def openTilde (w : Word) : Run Word := do
  match w with
  | .plain text :: parts =>
    match text.toList with
    | '~' :: rest =>
      let user := String.ofList (rest.takeWhile (· != '/'))
      let after := rest.drop user.length
      if after.isEmpty && !parts.isEmpty then return w
      let home ← if user = "" then pure ((← shell).value? "HOME")
        else pure (homeOf? (← tree) user)
      match home with
      | some home => return .quoted home :: .plain (String.ofList after) :: parts
      | none => return w
    | _ => return w
  | w => return w

/-- A word that is assigned, with home directories in the place of tildes at its start and after colons. -/
def openTildes (w : Word) : Run Word := do
  let t ← tree
  let home := (← shell).value? "HOME"
  let piece (isLast : Bool) (text : String) : List Part :=
    match text.toList with
    | '~' :: rest =>
      let user := String.ofList (rest.takeWhile (· != '/'))
      let after := String.ofList (rest.drop user.length)
      match if user = "" then home else homeOf? t user with
      | some home => if after = "" ∧ !isLast then [.plain text] else [.quoted home, .plain after]
      | none => [.plain text]
    | _ => [.plain text]
  let rec go (isFirst : Bool) : List Part → List Part
    | [] => []
    | .plain text :: parts =>
      let pieces := text.splitOn ":"
      let count := pieces.length
      let opened := pieces.zipIdx.map fun (p, i) =>
        if i = 0 ∧ !isFirst then [Part.plain p] else piece (i + 1 < count || parts.isEmpty) p
      [Part.plain ":"].intercalate opened ++ go false parts
    | part :: parts => part :: go false parts
  return go true w

/-- Whether the inside of double quotes is `$@` and no parameters, which leaves no field. -/
def vanishes (s : Shell) (parts : List Part) : Bool :=
  s.positional.isEmpty && match parts with
    | [.parameter "@" .value] => true
    | _ => false

/-- The bits of some texts: in quotes each is a field of its own. -/
def rowBits (texts : List String) (inDouble : Bool) : List Bit :=
  match texts with
  | [] => []
  | p :: ps =>
    let bits (p : String) := (if inDouble then [Bit.nothing] else []) ++ bitsOf inDouble (!inDouble) p
    ps.foldl (fun all p => all ++ .stop :: bits p) (bits p)

/-! ### Forms of the extended language -/

/-- What a parameter stands for: a text that may be missing, or many. -/
inductive Picked where
  | one (value : Option String)
  /-- In quotes each is a field of its own, or all are joined. -/
  | many (separate : Bool) (values : List String)

namespace Picked

/-- The texts of a parameter. -/
def values : Picked → List String
  | one v => v.toList
  | many _ vs => vs

/-- The texts changed one by one. -/
def map (f : String → String) : Picked → Picked
  | one v => one (v.map f)
  | many separate vs => many separate (vs.map f)

/-- Whether there is no text, or with the mark none but empty ones. -/
def isMissing (mark : Bool) (p : Picked) : Bool :=
  p.values.isEmpty || (mark && p.values.all String.isEmpty)

/-- The bits of a parameter. -/
def bits (s : Shell) (inDouble : Bool) : Picked → List Bit
  | one v => bitsOf inDouble (!inDouble) (v.getD "")
  | many separate vs =>
    if inDouble && !separate then bitsOf true false (s.joint.intercalate vs) else rowBits vs inDouble

end Picked

/-- How the words within a parameter are expanded. -/
structure Inner where
  bits : Word → Run (List Bit)
  text : Word → Run String
  marked : Word → Run (List Marked)

/-- What a name stands for, or what a subscript picks of it. -/
def pick (name : String) (sub : Option String) : Run Picked := do
  let s ← shell
  match sub with
  | none =>
    if name = "@" ∨ name = "*" then return .many (name = "@") s.positional
    else return .one (s.parameter? name)
  | some "@" => return .many true ((s.elements name).map Prod.snd)
  | some "*" => return .many false ((s.elements name).map Prod.snd)
  | some sub =>
    match ← slotOf name sub with
    | some slot => return .one (s.element? (s.resolve name) slot)
    | none =>
      warn (name ++ ": bad array subscript")
      return .one none

/-- The name and the subscript that the value of a parameter names. -/
def followed (name : String) (sub : Option String) : Run (String × Option String) := do
  let s ← shell
  let isReference := ((s.vars.get? name).map Variable.refers).getD false
  if isReference ∧ sub = none then return (name, none)
  match ← pick name sub with
  | .one none | .many _ [] => refuse (name ++ ": invalid indirect expansion")
  | .one (some target) | .many _ (target :: _) =>
    let (found, sub) := splitSubscript target
    let known := isName found.toList || (plainNumber? found).isSome ||
      ["@", "*", "#", "?", "-", "$", "!"].contains found
    if known then return (found, sub) else refuse (target ++ ": invalid variable name")

/-- A part of a text by the values of an offset and a length. -/
def sliceText (offset : Int) (length : Option (Int × String)) (s : String) : Run String := do
  let cs := s.toList
  let size : Int := cs.length
  let from_ := if offset < 0 then offset + size else offset
  if from_ < 0 ∨ from_ > size then return ""
  match length with
  | none => return String.ofList (cs.drop from_.toNat)
  | some (n, text) =>
    let end_ := if n < 0 then size + n else from_ + n
    if end_ < from_ then refuse (text ++ ": substring expression < 0")
    return String.ofList ((cs.drop from_.toNat).take (end_ - from_).toNat)

/-- Some of many texts by the values of an offset and a length. -/
def sliceRow (name : String) (isPositional : Bool) (offset : Int) (length : Option (Int × String)) :
    Run (List String) := do
  let s ← shell
  let entries : List (Int × String) :=
    if isPositional then (s.name :: s.positional).zipIdx.map fun (t, i) => ((i : Int), t)
    else if s.isKeyed name then (s.elements name).zipIdx.map fun (e, i) => (((i + 1 : Nat) : Int), e.2)
    else (s.elements name).map fun e => ((((plainNumber? e.1).getD 0 : Nat) : Int), e.2)
  let end_ : Int := match entries.getLast? with
    | some (i, _) => i + 1
    | none => 0
  let from_ := if offset < 0 then offset + end_ else offset
  if from_ < 0 then return []
  let rest := (entries.filter fun e => from_ ≤ e.1).map Prod.snd
  match length with
  | none => return rest
  | some (n, text) =>
    if n < 0 then refuse (text ++ ": substring expression < 0")
    return rest.take n.toNat

/-- A variable as a command that makes it again. -/
def declarationOf (name : String) (v : Variable) : String :=
  let flags := v.flags
  let head := "declare -" ++ (if flags = "" then "-" else flags) ++ " " ++ name
  match v.items with
  | some items =>
    let entry (e : String × String) : String :=
      let key := if e.1.toList.all fun c => c.isAlphanum || c == '_' then e.1 else Reshaping.displayed e.1
      "[" ++ key ++ "]=" ++ Reshaping.displayed e.2
    let texts := items.entries.map entry
    match items with
    | .numbered _ => head ++ "=(" ++ " ".intercalate texts ++ ")"
    | .keyed _ => head ++ "=(" ++ String.join (texts.map (· ++ " ")) ++ ")"
  | none =>
    match v.value with
    | some value => head ++ "=" ++ Reshaping.displayed value
    | none => head

/-- A text with the escapes in it resolved. -/
def resolveEscapes : Nat → List Char → List Char
  | 0, s => s
  | _ + 1, [] => []
  | n + 1, '\\' :: s =>
    let (cs, s) := escaped s
    cs ++ resolveEscapes n s
  | n + 1, c :: s => c :: resolveEscapes n s

/-- What a letter makes of a parameter. -/
def shownForm (name : String) (letter : Char) (p : Picked) : Run Picked := do
  let s ← shell
  let v := s.lookup? name
  match letter with
  | 'Q' => return p.map Reshaping.reusable
  | 'U' => return p.map (·.map Char.toUpper)
  | 'L' => return p.map (·.map Char.toLower)
  | 'u' => return p.map fun t => String.ofList (Reshaping.respell (some true) false (fun _ => true) t.toList)
  | 'E' => return p.map fun t => String.ofList (resolveEscapes (t.length + 1) t.toList)
  | 'a' => return p.map fun _ => (v.map Variable.flags).getD ""
  | 'A' =>
    match v, p with
    | some v, .many .. => return .one (some (declarationOf name v))
    | some v, .one (some value) =>
      let head := if v.flags = "" then "" else "declare -" ++ v.flags ++ " "
      return .one (some (head ++ name ++ "=" ++ Reshaping.reusable value))
    | _, p => return p
  | 'k' =>
    match p with
    | .many separate _ => return .many separate ((s.elements name).flatMap fun e => [e.1, e.2])
    | p => return p.map Reshaping.reusable
  | 'K' =>
    match p with
    | .many .. =>
      return .one (some (" ".intercalate ((s.elements name).map fun e => e.1 ++ " " ++ Reshaping.displayed e.2)))
    | p => return p.map Reshaping.reusable
  | _ => return p

/-- The bits of a parameter of the extended language in some form. -/
def formBits (inner : Inner) (inDouble indirect : Bool) (name : String) (index : Option Word) (form : Form) :
    Run (List Bit) := do
  let s ← shell
  let joinedRow (separate : Bool) (texts : List String) : List Bit := Picked.bits s inDouble (.many separate texts)
  match form with
  | .bad => refuse (name ++ ": bad substitution")
  | .keys separate => return joinedRow separate ((s.elements name).map Prod.fst)
  | .names separate =>
    let found := (s.vars.entries.map Prod.fst).filter (·.startsWith name)
    return joinedRow separate (found.mergeSort fun a b => a ≤ b)
  | _ => pure ()
  let sub : Option String ← match index with
    | none => pure none
    | some w => pure (some (← inner.text w))
  let (name, sub) ← if indirect then followed name sub else pure (name, sub)
  let p ← pick name sub
  let shown := name ++ (match sub with
    | some t => "[" ++ t ++ "]"
    | none => "")
  let checked : Run Unit := do
    if (p matches .one none) && s.options.contains 'u' then
      unbound (if (plainNumber? name).isSome then "$" ++ shown else shown)
  let hasGroups := s.features.contains "extglob"
  let foldsCase := s.features.contains "nocasematch"
  let acceptorOf (w : Word) : Run Reshaping.Acceptor :=
    return Reshaping.acceptor hasGroups foldsCase (← inner.marked w)
  let changed (f : List Char → List Char) : List Bit :=
    (p.map fun t => String.ofList (f t.toList)).bits s inDouble
  match form with
  | .value =>
    checked
    return p.bits s inDouble
  | .length =>
    checked
    return bitsOf inDouble (!inDouble) (toString (match p with
      | .one v => (v.getD "").length
      | .many _ vs => vs.length))
  | .orElse mark w => if p.isMissing mark then inner.bits w else return p.bits s inDouble
  | .instead mark w => if p.isMissing mark then return [] else inner.bits w
  | .assign mark w =>
    if !p.isMissing mark then return p.bits s inDouble
    let text := textOfBits (← inner.bits w)
    if !isName name.toList then refuse ("$" ++ name ++ ": cannot assign in this way")
    match sub with
    | none => assign name text
    | some sub =>
      match ← slotOf name sub with
      | some slot => store name slot text
      | none => refuse (shown ++ ": bad array subscript")
    return bitsOf inDouble (!inDouble) text
  | .require mark w =>
    if !p.isMissing mark then return p.bits s inDouble
    let text := String.ofList ((← inner.marked (← openTilde w)).map Prod.fst)
    warn (shown ++ ": " ++ (if w.isEmpty then "parameter " ++ (if mark then "null or " else "") ++ "not set"
      else text))
    lose
  | .strip atEnd longest w =>
    checked
    let accepts ← acceptorOf w
    return changed (Reshaping.strip atEnd longest accepts)
  | .replace site pattern new =>
    checked
    let marks ← inner.marked pattern
    let accepts := Reshaping.acceptor hasGroups foldsCase marks
    let text := Reshaping.filled (← inner.marked new)
    let isEmpty := marks.isEmpty
    return changed fun t =>
      match site with
      | .first => if isEmpty then t else Reshaping.replaceFirst accepts text t
      | .everywhere => if isEmpty then t else Reshaping.replaceAll accepts text (t.length + 1) t
      | .start => Reshaping.replaceAtEdge false accepts text t
      | .finish => Reshaping.replaceAtEdge true accepts text t
  | .slice offset length =>
    checked
    let from_ ← calculate (← inner.text offset)
    let length : Option (Int × String) ← match length with
      | none => pure none
      | some w =>
        let text ← inner.text w
        pure (some (← calculate text, text))
    match p with
    | .one v => return bitsOf inDouble (!inDouble) (← sliceText from_ length (v.getD ""))
    | .many separate _ => return joinedRow separate (← sliceRow name sub.isNone from_ length)
  | .letters upper all w =>
    checked
    let accepts ← if w.isEmpty then pure (fun _ => true) else acceptorOf w
    return changed (Reshaping.respell upper all accepts)
  | .shown letter =>
    checked
    return (← shownForm name letter p).bits s inDouble
  | _ => return []

/-- Whether a part stands for as many fields in quotes as there are texts. -/
def isRow : Part → Bool
  | .parameter "@" .value => true
  | .parameter "@" (.slice ..) => true
  | .element _ _ _ (.keys true) | .element _ _ _ (.names true) => true
  | .element _ _ _ .length => false
  | .element _ _ (some [.plain "@"]) _ => true
  | _ => false

/-- The names that stand for other texts in scripts: those of the extended language take notice of them only if
that is asked for. -/
def Shell.replacedNames (s : Shell) : List (String × String) :=
  if !s.isExtended || s.features.contains "expand_aliases" then s.aliases else []

/-- The reader of a script that a shell runs. -/
def Shell.reader (s : Shell) (text : String) : Reader :=
  if s.isExtended then
    { rest := (if text = "" || text.endsWith "
" then text else text ++ "
").toList
      line := s.line
      dialect := .extended
      hasGroups := s.features.contains "extglob"
      aliases := s.replacedNames }
  else { rest := text.toList, aliases := s.aliases }

/-- Tells why a script of the extended language cannot be read, with a label for where it comes from. -/
def tellFault (label : String) (fault : ScriptFault) : Run Unit := do
  let s ← shell
  let name := s.source.getD s.name
  for (line, message) in (fault.line, fault.message) :: fault.more do
    tell (name ++ ": " ++ label ++ "line " ++ toString line ++ ": " ++ message ++ "
")

/-- The lines of a script, as far as it can be read. -/
def programsOf : Nat → Reader → List Program → Run (List Program × Option ScriptFault)
  | 0, _, found => return (found.reverse, none)
  | n + 1, r, found => do
    match readLine { r with nextDocument := (← world).nextDocument } with
    | .error fault => return (found.reverse, some fault)
    | .ok (none, _) => return (found.reverse, none)
    | .ok (some program, r) =>
      modifyWorld fun w => { w with nextDocument := r.nextDocument }
      programsOf n r (program :: found)

/-- Writes what is about to be run, after a sign for how deep it stands. -/
def trace (parts : List String) : Run Unit := do
  let s ← shell
  if s.options.contains 'x' then
    let mark := (s.value? "PS4").getD "+ "
    let lead := String.ofList (List.replicate s.depth (mark.toList.headD '+'))
    tell (lead ++ mark ++ " ".intercalate parts ++ "\n")

/-- How a word may be written, as it is told before it is expanded. -/
def sourceOf (w : Word) : String :=
  String.join (w.map fun
    | .plain text | .quoted text => text
    | .double ps => "\"" ++ String.join (ps.map fun
      | .plain text | .quoted text => text
      | .parameter name _ => "$" ++ name
      | _ => "") ++ "\""
    | .parameter name _ => "$" ++ name
    | _ => "")

/-- Makes a channel known under a path, which is given. -/
def lendChannel (n : Nat) : Run String := do
  let taken := (← shell).descriptors
  let fd := (((List.range 60).map (63 - ·)).find? fun fd => (taken.get? fd).isNone).getD 63
  setDescriptor fd n
  return "/dev/fd/" ++ toString fd

/-- The bits of the parts of a word; `output` runs a substitution and gives what it wrote. -/
def expandParts (output : List Program → Run String) : Nat → Bool → Bool → List Part → Run (List Bit)
  | 0, _, _, _ => throw .fault
  | _ + 1, _, _, [] => return []
  | fuel + 1, inDouble, splits, part :: parts => do
    let whole (ps : List Part) : Run (List Bit) := expandParts output fuel inDouble splits ps
    let replacement (w : Word) : Run (List Bit) := do
      let w ← if inDouble then pure w else openTilde w
      expandParts output fuel inDouble (!inDouble) w
    let value (s : String) : List Bit := bitsOf inDouble (!inDouble) s
    let inner : Inner := {
      bits := replacement
      text := fun w => return textOfBits (← expandParts output fuel true false w)
      marked := fun w => return markedOfBits (← expandParts output fuel false false w) }
    let written (lines : List Program) : Run String := do
      let text ← output lines
      if text.toList.contains '\x00' && (← shell).isExtended then
        warn "warning: command substitution: ignored null byte in input"
      return dropNewlines text
    let first : List Bit ←
      match part with
      | .plain s => pure (bitsOf inDouble splits s)
      | .quoted s => pure (.nothing :: bitsOf true false s)
      | .double ps =>
        let inner ← expandParts output fuel true false ps
        let s ← shell
        let isNone := if s.isExtended then ps.length == 1 && ps.all isRow && inner.isEmpty else vanishes s ps
        if isNone then pure [] else
          pure (if inner.any (fun | .stop => true | _ => false) then inner else .nothing :: inner)
      | .substitution lines => pure (value (← written lines))
      | .script text =>
        let (lines, fault) ← programsOf (text.length + 1) ((← shell).reader text) []
        let result ← written lines
        match fault with
        | some fault =>
          tellFault "command substitution: " fault
          modifyShell fun s => { s with substituted := some 2 }
        | none => pure ()
        pure (value result)
      | .arithmetic ps =>
        let text := textOfBits (← expandParts output fuel true false ps)
        if (← shell).isExtended then pure (value (toString (← calculate text)))
        else pure (value (toString (← arithmetic text)))
      | .setting _ => pure []
      | .process true lines =>
        let text ← output lines
        pure (value (← lendChannel (← makeChannel (.ofText text))))
      | .process false lines =>
        let n ← makeChannel (.ofText "")
        let s := (← shell)
        let path ← lendChannel n
        for program in lines do
          match program.command with
          | some command =>
            let number ← newProcess
            let job : Job := {
              number
              parent := s.process
              command
              shell := { s with descriptors := s.descriptors.insert 0 n } }
            modifyWorld fun w => { w with jobs := w.jobs ++ [job] }
          | none => pure ()
        pure (value path)
      | .element indirect name index form => formBits inner inDouble indirect name index form
      | .parameter name form =>
        let s ← shell
        if s.isExtended then
          return (← formBits inner inDouble false name none form) ++ (← whole parts)
        let old := s.parameter? name
        let here : List Bit :=
          if name = "@" ∨ (name = "*" ∧ !inDouble) then rowBits s.positional inDouble
          else value (old.getD "")
        let missing (mark : Bool) : Bool :=
          match old with
          | none => true
          | some v => mark && v.isEmpty
        match form with
        | .value =>
          if old.isNone && s.options.contains 'u' && name != "@" && name != "*" then
            refuse (name ++ ": parameter not set")
          pure here
        | .length =>
          if old.isNone && s.options.contains 'u' && name != "@" && name != "*" then
            refuse (name ++ ": parameter not set")
          pure (value (toString (old.getD "").length))
        | .orElse mark word => if missing mark then replacement word else pure here
        | .instead mark word => if missing mark then pure [] else replacement word
        | .assign mark word =>
          if missing mark then
            let text := textOfBits (← replacement word)
            if !isNameText name then refuse (name ++ ": bad variable name")
            assign name text
            pure (value text)
          else pure here
        | .require mark word =>
          if missing mark then
            let text := textOfBits (← replacement word)
            refuse (name ++ ": " ++
              if word.isEmpty then "parameter not set" ++ (if mark then " or null" else "") else text)
          else pure here
        | .strip atEnd longest word =>
          if old.isNone && s.options.contains 'u' && name != "@" && name != "*" then
            refuse (name ++ ": parameter not set")
          let pattern := Pattern.ofMarked (markedOfBits (← expandParts output fuel false false word))
          let joint := if inDouble && name = "@" then none else s.joint.toList.head?
          pure (stripBits atEnd longest pattern joint here)
        | _ => refuse "Bad substitution"
    let rest ← whole parts
    return first ++ rest
where
  /-- Whether a text is the name of a variable. -/
  isNameText (s : String) : Bool :=
    match s.toList with
    | c :: cs => (c.isAlpha || c == '_') && cs.all fun c => c.isAlphanum || c == '_'
    | [] => false

/-- How deep the expansions of a word may stand in one another, and how many parts it may have. -/
def wordFuel : Nat := 100000

/-- The names that a field of a word matches, as the options of the extended language tell. -/
def namesFor (t : FileTree) (field : List Marked) : Run (List String) := do
  let s ← shell
  let text := String.ofList (field.map Prod.fst)
  let opens := field.contains ('[', false) && !field.contains (']', false)
  let isGlob := Pattern.isGlob (if opens then field.filter fun m => m.1 != '[' else field)
  if s.options.contains 'f' || !isGlob then return [text]
  match expandNames t field with
  | [name] =>
    if name = text && (t.nodeOf? ⟨toBytes text⟩).isNone then
      if s.features.contains "failglob" then refuse ("no match: " ++ text)
      return if s.features.contains "nullglob" then [] else [name]
    else return [name]
  | names => return names

/-- The fields of a word. -/
def expandFields (output : List Program → Run String) (w : Word) : Run (List String) := do
  if (← shell).isExtended then
    (Braces.expand w).flatMapM fun w => do
      let bits ← expandParts output wordFuel false false (← openTilde w)
      let s ← shell
      let t ← tree
      (splitFields s.separators bits).flatMapM (namesFor t)
  else
    let bits ← expandParts output wordFuel false false (← openTilde w)
    let s ← shell
    let fields := splitFields s.separators bits
    if s.options.contains 'f' then return fields.map fun f => String.ofList (f.map Prod.fst)
    let t ← tree
    return fields.flatMap (expandNames t)

/-- A word as one text. -/
def expandText (output : List Program → Run String) (w : Word) : Run String := do
  return textOfBits (← expandParts output wordFuel false false (← openTilde w))

/-- A value that is assigned, with the home directory also after a colon. -/
def expandValue (output : List Program → Run String) (w : Word) : Run String := do
  return textOfBits (← expandParts output wordFuel false false (← openTildes w))

/-- A subscript as one text. -/
def expandSubscript (output : List Program → Run String) (w : Word) : Run String := do
  return textOfBits (← expandParts output wordFuel true false w)

/-- A word as a pattern. -/
def expandPattern (output : List Program → Run String) (w : Word) : Run (List Marked) := do
  return markedOfBits (← expandParts output wordFuel false false (← openTilde w))

end ClassLens.Shell
