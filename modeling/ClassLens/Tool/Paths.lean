import ClassLens.Tool.Files

/-! # Programs that tell of paths

* `Paths.resolve`: the place of a path whose last names need not be there.
* `readlink`, `realpath`, `which`: programs that show it. -/

namespace ClassLens.Tool

open Shell

/-- The path of a place. -/
def textOf (here : Location) : String := ofBytes (Path.ofPieces true here).bytes

namespace Paths

/-- How much of a path has to be there. -/
inductive Needs where
  | all
  | allButLast
  | nothing
  deriving DecidableEq

/-- Whether what follows a piece says that the piece is a directory. -/
def saysDirectory : List Name → Bool
  | [] => false
  | piece :: rest =>
    if piece = [] || piece = Path.here then rest.isEmpty || saysDirectory rest
    else piece = Path.above

/-- The place of pieces after a place. With `plain` links are not followed. -/
def follow (t : FileTree) (needs : Needs) (plain : Bool) : Nat → Location → List Name → Except ReadFault Location
  | 0, _, _ => .error .tooManyLinks
  | _ + 1, here, [] => .ok here
  | n + 1, here, piece :: rest =>
    if piece = [] || piece = Path.here then follow t needs plain n here rest
    else if piece = Path.above then follow t needs plain n here.dropLast rest
    else
      let next := here ++ [piece]
      match t.node? next, plain with
      | some (.link target), false =>
        follow t needs plain n (if target.isAbsolute then [] else here) (target.pieces ++ rest)
      | found, _ =>
        let isLast := rest.all (· = [])
        let fault : Option ReadFault :=
          if found.isNone then
            let isAbove := (FileTree.above next).all t.isDirectoryAt
            if isAbove then some .notFound
            else if (FileTree.above next).all fun place => (t.node? place).isSome then some .notDirectory
            else some .notFound
          else if saysDirectory rest && !(t.locate (Path.ofPieces true next)).toOption.any t.isDirectoryAt then
            some .notDirectory
          else none
        let fault := if plain && !rest.isEmpty && !saysDirectory rest then none else fault
        match fault with
        | some fault =>
          if needs = .nothing || (needs = .allButLast && fault = .notFound && isLast) then
            follow t needs plain n next rest
          else .error fault
        | none => follow t needs plain n next rest

/-- The place of a path. -/
def resolve (t : FileTree) (needs : Needs) (plain : Bool) (path : String) : Except ReadFault Location :=
  let p := pathOf path
  if p.bytes = [] then .error .notFound
  else if !p.isAbsolute && (t.node? t.start).isNone then .error .notFound
  else follow t needs plain 8192 (if p.isAbsolute then [] else t.start) p.pieces

/-- The way from one place to another. -/
def between (from_ there : Location) : String :=
  let same := ((from_.zip there).takeWhile fun p => p.1 == p.2).length
  let pieces := List.replicate (from_.length - same) Path.above ++ there.drop same
  if pieces.isEmpty then "." else ofBytes (Path.ofPieces false pieces).bytes

end Paths

open Paths

/-- Shows what a link leads to. -/
def readlink : Tool := fun self args =>
  let o : Options := {
    flags := "fenmqsvz".toList
    names := [("canonicalize", 'f'), ("canonicalize-existing", 'e'), ("canonicalize-missing", 'm'),
      ("no-newline", 'n'), ("quiet", 'q'), ("silent", 's'), ("verbose", 'v'), ("zero", 'z')] }
  o.read self args 1 fun g => do
    if g.operands.isEmpty then return ← usage self "missing operand" 1
    let many := g.operands.length > 1
    if many && g.has 'n' then complain self "ignoring --no-newline with multiple arguments"
    let stop := if g.has 'n' && !many then "" else if g.has 'z' then "\x00" else "\n"
    let needs := (g.options.filterMap fun e =>
      if e.1 == 'f' then some Needs.allButLast
      else if e.1 == 'e' then some Needs.all
      else if e.1 == 'm' then some Needs.nothing
      else none).getLast?
    let last := (g.options.filter fun e => e.1 == 'q' || e.1 == 's' || e.1 == 'v').getLast?
    let isVerbose := last.any fun e => e.1 == 'v'
    each g.operands fun path => do
      let t ← files
      let found : Except String String :=
        match needs with
        | some needs =>
          match resolve t needs false path with
          | .ok here => .ok (textOf here)
          | .error fault => .error fault.wording
        | none =>
          match placeOf t path with
          | .ok here =>
            match t.node? here with
            | some (.link target) => .ok (ofBytes target.bytes)
            | _ => .error "Invalid argument"
          | .error fault => .error fault.wording
      match found with
      | .ok text =>
        say (text ++ stop)
        return true
      | .error fault =>
        if isVerbose then complain self (named path ++ ": " ++ fault)
        return false

/-- Shows paths without links. -/
def realpath : Tool := fun self args =>
  let o : Options := {
    flags := "eEmLPqsz".toList
    valued := ['\x01', '\x02']
    names := [("canonicalize-existing", 'e'), ("canonicalize-missing", 'm'), ("logical", 'L'), ("physical", 'P'),
      ("quiet", 'q'), ("strip", 's'), ("no-symlinks", 's'), ("zero", 'z'), ("relative-to", '\x01'),
      ("relative-base", '\x02')] }
  o.read self args 1 fun g => do
    if g.operands.isEmpty then return ← usage self "missing operand" 1
    let needs := ((g.options.filterMap fun e =>
      if e.1 == 'e' then some Needs.all else if e.1 == 'm' then some Needs.nothing else none).getLast?).getD
        .allButLast
    let way := ((g.options.filter fun e => e.1 == 'L' || e.1 == 'P' || e.1 == 's').getLast?).map Prod.fst
    let t ← files
    let place (path : String) : Except ReadFault Location :=
      match resolve t needs (way == some 'L' || way == some 's') path with
      | .ok here => if way == some 'L' then resolve t needs false (textOf here) else .ok here
      | .error fault => .error fault
    let directory (path : String) : Except ReadFault Location :=
      match place path with
      | .ok here => if needs = .all && !t.isDirectoryAt here then .error .notDirectory else .ok here
      | .error fault => .error fault
    let base := g.value? '\x02'
    let start := (g.value? '\x01') <|> base
    let starts : Except (String × ReadFault) (Option Location × Option Location) :=
      match start with
      | none => .ok (none, none)
      | some path =>
        match directory path with
        | .error fault => .error (path, fault)
        | .ok from_ =>
          match base with
          | none => .ok (some from_, none)
          | some path =>
            match directory path with
            | .error fault => .error (path, fault)
            | .ok base => if base.isPrefixOf from_ then .ok (some from_, some base) else .ok (none, some from_)
    match starts with
    | .error (path, fault) =>
      complain self (named path ++ ": " ++ fault.wording)
      return 1
    | .ok (from_, base) =>
      each g.operands fun path => do
        match place path with
        | .ok here =>
          let isBelow := match base with
            | some base => base.isPrefixOf here
            | none => true
          let text := match from_ with
            | some from_ => if isBelow then between from_ here else textOf here
            | none => textOf here
          say (text ++ if g.has 'z' then "\x00" else "\n")
          return true
        | .error fault =>
          if !g.has 'q' then complain self (named path ++ ": " ++ fault.wording)
          return false

/-- Shows where programs are. -/
def which : Tool := fun self args =>
  let o : Options := { flags := ['a', 's'] }
  match o.readFrom false (args.length + 1) {} args with
  | .error e => do
    let letter := String.ofList ((e.toList.reverse.drop 1).take 1)
    tell ("Illegal option -" ++ letter ++ "\n")
    say ("Usage: /usr/bin/" ++ self ++ " [-as] args\n")
    return 2
  | .ok g => do
    let path := ((← shell).value? "PATH").getD "/usr/local/sbin:/usr/local/bin:/usr/sbin:/usr/bin:/sbin:/bin"
    let dirs := (path.splitOn ":").map fun dir => if dir = "" then "." else dir
    if g.operands.isEmpty then return 1
    each g.operands fun name => do
      let t ← files
      let paths := if name.toList.contains '/' then [name] else dirs.map fun dir => dir ++ "/" ++ name
      let hits := paths.filter fun p => t.nodeOf? (pathOf p) matches some (.file _ true)
      for p in if g.has 'a' then hits else hits.take 1 do
        if !g.has 's' then say (p ++ "\n")
      return !hits.isEmpty

end ClassLens.Tool
