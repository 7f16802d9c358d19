import ClassLens.Shell.Builtin
import ClassLens.Shell.Extended.Writing

/-! # Reading in the extended language

How `read` and `mapfile` of the extended language take lines from a descriptor.

* `Reading.read`, `Reading.mapfile`: these commands. -/

namespace ClassLens.Shell.Reading

/-- How `read` is to read. -/
structure Request where
  raw : Bool := false
  array : Option String := none
  delimiter : Char := '\n'
  /-- After how many characters it ends, and whether it then takes no heed of the delimiter. -/
  most : Option Nat := none
  exactly : Bool := false
  descriptor : Nat := 0
  names : List String := []

/-- How `read` is used. -/
def readUsage : String :=
  "read [-ers] [-a array] [-d delim] [-i text] [-n nchars] [-N nchars] [-p prompt] [-t timeout] [-u fd] [name ...]"

/-- The options of a reading; or the status with which it ends. -/
def request (letters : List Char) (usage : String) : Nat → Request → List (Char × String) → List String →
    Run (Except Nat (Request × List (Char × String)))
  | 0, r, found, _ => return .ok (r, found)
  | _ + 1, r, found, [] => return .ok (r, found)
  | n + 1, r, found, word :: words => do
    match word.toList with
    | ['-', '-'] => return .ok ({ r with names := words }, found)
    | '-' :: c :: cs =>
      if c == 'r' || c == 'e' || c == 's' || (c == 't' && letters.contains 'O') then
        if c == 's' && letters.contains 'O' then valued c cs words n r found
        else
          let r := if c == 'r' then { r with raw := true } else r
          request letters usage n r (found ++ [(c, "")])
            (if cs.isEmpty then words else String.ofList ('-' :: cs) :: words)
      else if letters.contains c then valued c cs words n r found
      else return .error (← Writing.invalidOption (String.ofList ['-', c]) usage)
    | _ => return .ok ({ r with names := word :: words }, found)
where
  /-- An option with its value. -/
  valued (c : Char) (cs : List Char) (words : List String) (n : Nat) (r : Request)
      (found : List (Char × String)) : Run (Except Nat (Request × List (Char × String))) := do
    match if cs.isEmpty then words.head? else some (String.ofList cs) with
    | some value =>
      request letters usage n r (found ++ [(c, value)]) (if cs.isEmpty then words.tail else words)
    | none =>
      warn ("-" ++ String.singleton c ++ ": option requires an argument")
      tell (((← shell).builtin.getD "") ++ ": usage: " ++ usage ++ "\n")
      return .error 2

/-- Characters up to a delimiter, which is taken too. -/
def cutAt (delimiter : Char) : List Char → List Char × List Char
  | [] => ([], [])
  | c :: cs =>
    if c == delimiter then ([c], cs)
    else
      let (more, rest) := cutAt delimiter cs
      (c :: more, rest)

/-- The characters that a reading takes, the last one first, and whether it found its delimiter. -/
def characters (r : Request) : Nat → List Marked → Run (List Marked × Bool)
  | 0, found => return (found, false)
  | fuel + 1, found => do
    if r.most.any (found.length ≥ ·) then return (found, true)
    match (← readSome r.descriptor 1).toList with
    | [] => return (found, false)
    | c :: _ =>
      if c == r.delimiter && !r.exactly then return (found, true)
      if c == '\x00' then characters r fuel found
      else if c == '\\' && !r.raw then
        match (← readSome r.descriptor 1).toList with
        | [] => return (found, false)
        | '\n' :: _ => characters r fuel found
        | d :: _ => characters r fuel ((d, true) :: found)
      else characters r fuel ((c, false) :: found)

/-- The fields of characters. -/
def allFields (seps : List Char) : Nat → List Marked → List (List Marked)
  | 0, _ => []
  | _ + 1, [] => []
  | n + 1, s =>
    let (field, rest) := Builtin.cutField seps s
    field :: allFields seps n rest

/-- The text of characters. -/
def textOf (s : List Marked) : String := String.ofList (s.map Prod.fst)

/-- A number, or a refusal that tells what was wanted. -/
def count (value wanted : String) : Run Nat := do
  match plainNumber? value with
  | some n => return n
  | none => refuse (value ++ ": " ++ wanted)

/-- Reads a line into variables. -/
def read (args : List String) : Run Nat := do
  match ← request "adinNptu".toList readUsage (args.length * 16 + 64) {} [] args with
  | .error status => return status
  | .ok (r, options) =>
    let value? (c : Char) : Option String := (options.reverse.find? fun o => o.1 == c).map Prod.snd
    let most : Option Nat ← match (value? 'N').orElse fun _ => value? 'n' with
      | some text => pure (some (← count text "invalid number"))
      | none => pure none
    let descriptor ← match value? 'u' with
      | some text => count text "invalid file descriptor specification"
      | none => pure 0
    let r := { r with
      most
      descriptor
      exactly := (value? 'N').isSome
      array := value? 'a'
      delimiter := ((value? 'd').map fun d => d.toList.headD '\x00').getD '\n' }
    for name in r.array.toList ++ r.names do
      if !isName (splitSubscript name).1.toList then
        warn ("\x60" ++ name ++ "': not a valid identifier")
        return 1
    if (← channelOf r.descriptor).isNone then
      warn (toString r.descriptor ++ ": invalid file descriptor: Bad file descriptor")
      return 1
    let (found, ended) ← characters r 1000000 []
    let text := found.reverse
    let seps := (← shell).separators
    let lead := text.dropWhile (Builtin.isBlankIn seps)
    match r.array, r.names with
    | some name, _ => storeAll name ((allFields seps (text.length + 1) lead).map textOf)
    | none, [] => assign "REPLY" (textOf text)
    | none, names =>
      if r.exactly then
        for (name, value) in names.zip (textOf text :: names.map fun _ => "") do putValue name none false value
      else
        for (name, field) in names.zip (Builtin.fieldsFor seps names.length lead) do
          putValue name none false (textOf field)
    return if ended then 0 else 1

/-- How `mapfile` is used. -/
def mapfileUsage : String :=
  "[-d delim] [-n count] [-O origin] [-s count] [-t] [-u fd] [-C callback] [-c quantum] [array]"

/-- The pieces of a text that a delimiter ends. -/
def pieces (delimiter : Char) : Nat → List Char → List (List Char)
  | 0, _ => []
  | _ + 1, [] => []
  | n + 1, s =>
    let (piece, rest) := cutAt delimiter s
    piece :: pieces delimiter n rest

/-- At most so many pieces of an input, of which no more is taken. -/
def takePieces (descriptor : Nat) (delimiter : Char) : Nat → Run (List (List Char))
  | 0 => return []
  | n + 1 => do
    match ← channelOf descriptor with
    | none => return []
    | some channel =>
      match (← takeBy channel (cutAt delimiter)).toList with
      | [] => return []
      | piece => return piece :: (← takePieces descriptor delimiter n)

/-- Reads lines into an array. -/
def mapfile (args : List String) : Run Nat := do
  let self := (← shell).builtin.getD "mapfile"
  match ← request "dnOsuCc".toList (self ++ " " ++ mapfileUsage) (args.length * 16 + 64) {} [] args with
  | .error status => return status
  | .ok (r, options) =>
    let value? (c : Char) : Option String := (options.reverse.find? fun o => o.1 == c).map Prod.snd
    let number (c : Char) (wanted : String) : Run Nat := do
      match value? c with
      | some text => count text wanted
      | none => pure 0
    let most ← number 'n' "invalid line count"
    let skipped ← number 's' "invalid line count"
    let origin ← number 'O' "invalid array origin"
    let descriptor ← number 'u' "invalid file descriptor specification"
    let name := r.names.headD "MAPFILE"
    if !isName name.toList then
      warn ("\x60" ++ name ++ "': not a valid identifier")
      return 1
    let delimiter := ((value? 'd').map fun d => d.toList.headD '\x00').getD '\n'
    let trims := options.any fun o => o.1 == 't'
    let found ←
      if most = 0 then do
        let text := (← readAll descriptor).toList
        pure (pieces delimiter (text.length + 1) text)
      else takePieces descriptor delimiter (skipped + most)
    let found := found.drop skipped
    let trimmed (s : List Char) : List Char :=
      if trims && s.getLast? == some delimiter then s.dropLast else s
    let values := found.map fun s => String.ofList ((trimmed s).filter (· != '\x00'))
    if options.any fun o => o.1 == 'O' then
      for (value, i) in values.zipIdx do store name (.number (origin + i)) value
    else storeAll name values
    return 0

end ClassLens.Shell.Reading
