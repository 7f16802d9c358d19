import ClassLens.Shell.State

/-! # Variables with many values

In the extended language a variable may hold values under numbers, or under texts. A variable of one value has
it under the number zero.

* `Shell.elements`: the values of a variable with their indices, in order.
* `Slot`: a place in a variable.
* `store`, `discard`: puts a value at a place, or takes it away. -/

namespace ClassLens.Shell

/-- The number of a key: the places of keys are found by it. -/
def keyCode (key : String) : Nat :=
  key.toList.foldl (fun h c => (h * 16777619 % Nat.pow 2 32) ^^^ c.toNat) 2166136261

/-- How many places there are for keys. -/
def keyPlaces : Nat := 1024

/-- Values with their indices, in the order in which they are gone through. Of keys at one place the latest
comes first. -/
def Items.entries : Items → List (String × String)
  | .numbered t =>
    (t.entries.mergeSort fun a b => a.1 ≤ b.1).map fun e => (toString e.1, e.2)
  | .keyed t =>
    let placed := t.entries.zipIdx.map fun (e, i) => ((keyCode e.1 % keyPlaces, i), e)
    (placed.mergeSort fun a b => a.1.1 < b.1.1 || (a.1.1 = b.1.1 && a.1.2 ≥ b.1.2)).map Prod.snd

/-- The values of a variable with their indices. -/
def Variable.entries (v : Variable) : List (String × String) :=
  match v.items with
  | some items => items.entries
  | none =>
    match v.value with
    | some value => [("0", value)]
    | none => []

/-- What the shell knows of itself under a name that it gives values. -/
def Shell.ownItems? (s : Shell) (name : String) : Option Items :=
  let numbered (l : List String) : Items := .numbered (l.zipIdx.foldl (fun t e => t.insert e.2 e.1) .empty)
  match name with
  | "PIPESTATUS" => some (numbered (s.pipeEnds.map toString))
  | "FUNCNAME" =>
    if s.callers.isEmpty then none
    else some (numbered (s.callers.map Prod.fst ++ (if s.isArgument then [] else ["main"])))
  | "BASH_LINENO" => some (numbered (s.callers.map fun c => toString c.2))
  | "BASH_SOURCE" => if s.isArgument then (if s.callers.isEmpty then none
      else some (numbered (s.callers.map fun _ => "environment"))) else some (numbered [s.name])
  | "BASH_VERSINFO" => some (numbered ["5", "2", "15", "1", "release", "x86_64-pc-linux-gnu"])
  | _ => none

/-- A variable, or what the shell knows under its name. -/
def Shell.lookup? (s : Shell) (name : String) : Option Variable :=
  let name := s.resolve name
  match if s.isExtended then s.ownItems? name else none with
  | some items => some { items := some items }
  | none => s.vars.get? name

/-- The values of a variable with their indices. -/
def Shell.elements (s : Shell) (name : String) : List (String × String) :=
  ((s.lookup? name).map Variable.entries).getD []

/-- Whether the indices of a variable are texts. -/
def Shell.isKeyed (s : Shell) (name : String) : Bool :=
  match (s.lookup? name).bind Variable.items with
  | some (.keyed _) => true
  | _ => false

/-- The letters of what a variable is. -/
def Variable.flags (v : Variable) : String :=
  let letter (has : Bool) (c : String) : String := if has then c else ""
  letter (v.items matches some (.numbered _)) "a" ++ letter (v.items matches some (.keyed _)) "A" ++
    letter v.isWhole "i" ++ letter v.refers "n" ++ letter v.isReadonly "r" ++ letter v.isExported "x" ++
    letter (v.letters == some false) "l" ++ letter (v.letters == some true) "u"

/-- A name, and the subscript that may follow it in brackets. -/
def splitSubscript (s : String) : String × Option String :=
  let name := s.toList.takeWhile (· != '[')
  match s.toList.drop name.length, s.toList.getLast? with
  | '[' :: rest, some ']' => (String.ofList name, some (String.ofList rest.dropLast))
  | _, _ => (s, none)

/-- A place in a variable. -/
inductive Slot where
  | number (n : Nat)
  | key (k : String)

/-- The value at a place of a variable. -/
def Shell.element? (s : Shell) (name : String) (slot : Slot) : Option String :=
  match s.lookup? name with
  | none => none
  | some v =>
    match v.items, slot with
    | none, .number n => if n = 0 then v.value else none
    | none, .key _ => v.value
    | some (.numbered t), .number n => t.get? n
    | some (.keyed t), .key k => t.get? k
    | some (.numbered t), .key _ => t.get? 0
    | some (.keyed t), .number n => t.get? (toString n)

/-- A variable with a value at a place. -/
def Variable.withElement (v : Variable) (slot : Slot) (value : String) : Variable :=
  let value := v.spelt value
  let items : Items :=
    match v.items, slot with
    | some (.keyed t), .key k => .keyed (t.insert k value)
    | some (.keyed t), .number n => .keyed (t.insert (toString n) value)
    | some (.numbered t), .number n => .numbered (t.insert n value)
    | some (.numbered t), .key _ => .numbered (t.insert 0 value)
    | none, .number n =>
      .numbered ((match v.value with
        | some old => Table.empty.insert 0 old
        | none => Table.empty).insert n value)
    | none, .key k => .keyed (Table.empty.insert k value)
  { v with items := some items, value := none }

/-- Puts a value at a place of a variable. -/
def store (name : String) (slot : Slot) (value : String) : Run Unit := do
  let s ← shell
  let name := s.resolve name
  let old := (s.vars.get? name).getD {}
  if old.isReadonly then refuseReadonly name
  modifyShell fun s => { s with vars := s.vars.insert name (old.withElement slot value) }

/-- Gives a variable many values under the numbers from zero on. -/
def storeAll (name : String) (values : List String) : Run Unit := do
  let s ← shell
  let name := s.resolve name
  let old := (s.vars.get? name).getD {}
  if old.isReadonly then refuseReadonly name
  let t := values.zipIdx.foldl (fun t e => t.insert e.2 (old.spelt e.1)) .empty
  modifyShell fun s => { s with
    vars := s.vars.insert name { old with items := some (.numbered t), value := none } }

/-- Takes away the value at a place of a variable. -/
def discard (name : String) (slot : Slot) : Run Unit := modifyShell fun s =>
  { s with vars := s.vars.modify (s.resolve name) fun v =>
    match v.items, slot with
    | some (.numbered t), .number n => { v with items := some (.numbered (t.erase n)) }
    | some (.keyed t), .key k => { v with items := some (.keyed (t.erase k)) }
    | _, _ => v }

/-- The number after the last one of a variable's values. -/
def Shell.nextIndex (s : Shell) (name : String) : Nat :=
  match (s.lookup? name).bind Variable.items with
  | some (.numbered t) => t.keys.foldl (fun n k => max n (k + 1)) 0
  | _ => ((s.lookup? name).bind Variable.text?).elim 0 fun _ => 1

/-- The options of the shell with the letters for them; those without letters get signs of their own. -/
def wideOptionNames : List (Char × String) :=
  [('a', "allexport"), ('B', "braceexpand"), ('\x03', "emacs"), ('e', "errexit"), ('E', "errtrace"),
    ('T', "functrace"), ('h', "hashall"), ('H', "histexpand"), ('\x04', "history"), ('\x05', "ignoreeof"),
    ('\x06', "interactive-comments"), ('k', "keyword"), ('m', "monitor"), ('C', "noclobber"), ('n', "noexec"),
    ('f', "noglob"), ('\x07', "nolog"), ('b', "notify"), ('u', "nounset"), ('t', "onecmd"), ('P', "physical"),
    ('\x02', "pipefail"), ('\x08', "posix"), ('p', "privileged"), ('v', "verbose"), ('\x0b', "vi"),
    ('x', "xtrace")]

/-- The value of a variable, or what the shell knows under its name. -/
def Shell.text? (s : Shell) (name : String) : Option String :=
  if s.isExtended then
    match name with
    | "LINENO" => some (toString s.line)
    | "BASHPID" => some (toString s.process)
    | "FUNCNAME" => s.callers.head?.map Prod.fst
    | "SECONDS" => (s.value? name).orElse fun _ => some "0"
    | "RANDOM" => some "12345"
    | "SHELLOPTS" =>
      some (":".intercalate ((wideOptionNames.filter fun e => s.options.contains e.1).map Prod.snd))
    | "BASHOPTS" => some (":".intercalate s.features)
    | _ => (s.lookup? name).bind Variable.text?
  else s.value? name

end ClassLens.Shell
