import ClassLens.Shell.Builtin

/-! # Redirections

Where the descriptors of a command lead. The names in redirections are expanded before the first of them
takes place.

* `openPath`: the channel of a path, opened in some way.
* `resolve`, `redirect`: the redirections of a command with their names expanded, and their effect. -/

namespace ClassLens.Shell

/-- How a path is opened. -/
inductive Opening where
  | input
  /-- The file is made or emptied, which an option forbids unless it is forced. -/
  | output (forced : Bool)
  | append
  | both
  deriving DecidableEq

/-- Opens a path; the channel, or why there is none. -/
def openPath (how : Opening) (path : String) : Run (Except ReadFault Nat) := do
  let existing ← match descriptorOf? path with
    | some fd => channelOf fd
    | none => pure none
  match existing with
  | some n => return .ok n
  | none =>
    let t ← tree
    let file (here : Location) (offset : Nat) (appends : Bool) : Run (Except ReadFault Nat) := do
      return .ok (← makeChannel (.file here offset appends))
    if how = .input then
      match t.locate ⟨toBytes path⟩ with
      | .error fault => return .error fault
      | .ok here =>
        match t.node? here with
        | some .zeros => return .ok (← makeChannel .zeros)
        | some (.file ..) => file here 0 false
        | _ => return .ok (← makeChannel .nothing)
    else
      match t.locateNew ⟨toBytes path⟩ with
      | .error fault => return .error fault
      | .ok here =>
        match t.node? here with
        | some .directory => return .error .isDirectory
        | some .sink | some .zeros => return .ok (← makeChannel .nothing)
        | found =>
          let content := match found with
            | some (.file content _) => content
            | _ => []
          let isKept := how = .append ∨ how = .both
          if !(isKept && found.isSome) then keepContent here (if isKept then content else [])
          file here 0 (how = .append)

/-- A redirection with its name expanded. The text of a document is expanded only when it takes place. -/
inductive Target where
  | path (fd : Nat) (how : Opening) (path : String)
  | copy (fd source : Nat)
  | close (fd : Nat)
  | text (fd : Nat) (word : Word)
  | line (fd : Nat) (text : String)

/-- The path that a word names in the extended language. -/
def pathOf (output : List Program → Run String) (w : Word) : Run String := do
  match ← expandFields output w with
  | [path] => return path
  | _ => refuse (sourceOf w ++ ": ambiguous redirect")

/-- The redirection of a descriptor in the extended language: a word that is no number names a file for both
outputs. -/
def copied (output : List Program → Run String) (fd : Nat) (w : Word) : Run (List Target) := do
  let path ← pathOf output w
  match path.toList with
  | ['-'] => return [.close fd]
  | cs =>
    let moves := cs.getLast? == some '-'
    let digits := if moves then cs.dropLast else cs
    match plainNumber? (String.ofList digits) with
    | some n => return .copy fd n :: (if moves && n != fd then [.close n] else [])
    | none =>
      if fd = 1 then return [.path 1 (.output false) path, .copy 2 1]
      else refuse (sourceOf w ++ ": ambiguous redirect")

/-- Expands the names of redirections. -/
def resolve (output : List Program → Run String) : List Redirect → Run (List Target)
  | [] => return []
  | r :: rs => do
    let isExtended := (← shell).isExtended
    let path (w : Word) : Run String := if isExtended then pathOf output w else expandText output w
    let targets : List Target ← match r with
      | .input fd w => pure [.path fd .input (← path w)]
      | .output forced fd w => pure [.path fd (.output forced) (← path w)]
      | .append fd w => pure [.path fd .append (← path w)]
      | .both fd w => pure [.path fd .both (← path w)]
      | .copy fd w =>
        if isExtended then copied output fd w
        else
          match (← expandText output w).toList with
          | ['-'] => pure [.close fd]
          | [d] => if d.isDigit then pure [.copy fd (d.toNat - 48)] else refuse "Syntax error: Bad fd number"
          | _ => refuse "Syntax error: Bad fd number"
      | .document fd n =>
        pure [.text fd (((← world).documents.get? n).getD [])]
      | .line fd w => pure [.line fd (← expandText output w)]
      | .outputs appends w =>
        pure [.path 1 (if appends then .append else .output false) (← path w), .copy 2 1]
    return targets ++ (← resolve output rs)

/-- What a shell says of a path that it cannot open. -/
def openFault (how : Opening) (path : String) (fault : ReadFault) : String :=
  let missing := fault = .notFound ∨ fault = .notDirectory
  if how = .input then
    "cannot open " ++ path ++ ": " ++ (if missing then "No such file" else fault.wording)
  else
    "cannot create " ++ path ++ ": " ++ (if missing then "Directory nonexistent" else fault.wording)

/-- Makes redirections; refuses where one of them is not possible. -/
def redirect (output : List Program → Run String) : List Target → Run Unit
  | [] => return ()
  | target :: targets => do
    match target with
    | .path fd how path =>
      let t ← tree
      if how = .output false && (← shell).options.contains 'C' then
        if t.nodeOf? ⟨toBytes path⟩ matches some (.file ..) then
          if (← shell).isExtended then refuse (path ++ ": cannot overwrite existing file")
          else refuse ("cannot create " ++ path ++ ": File exists")
      match ← openPath how path with
      | .ok n => setDescriptor fd n
      | .error fault =>
        if (← shell).isExtended then refuse (path ++ ": " ++ fault.wording)
        else refuse (openFault how path fault)
    | .copy fd source =>
      match ← channelOf source with
      | some n => setDescriptor fd n
      | none => refuse (toString source ++ ": Bad file descriptor")
    | .close fd => closeDescriptor fd
    | .text fd word => setDescriptor fd (← makeChannel (.ofText (← expandText output word)))
    | .line fd text => setDescriptor fd (← makeChannel (.ofText (text ++ "\n")))
    redirect output targets

/-- Makes redirections; whether all of them were possible. -/
def redirects (output : List Program → Run String) (targets : List Target) : Run Bool := do
  match ← attempt (redirect output targets) with
  | .ok _ => return true
  | .error .fault => return false
  | .error e => throw e

end ClassLens.Shell
