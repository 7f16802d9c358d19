import ClassLens.Tool.Edit.Run

/-! # Editing streams

* `sed`: the program that applies a script to the lines of its input. -/

namespace ClassLens.Tool

open Shell

/-- How the program is used. -/
def editUsage (self : String) : String :=
  "Usage: " ++ self ++ " [OPTION]... \x7bscript-only-if-no-other-script\x7d [input-file]...\n\n"

/-- Its options. -/
def editOptions : Options :=
  { flags := "nrEsuz".toList
    valued := ['e', 'f', 'l']
    optional := ['i']
    names := [("quiet", 'n'), ("silent", 'n'), ("expression", 'e'), ("file", 'f'), ("regexp-extended", 'E'),
      ("in-place", 'i'), ("separate", 's'), ("null-data", 'z'), ("line-length", 'l'), ("unbuffered", 'u'),
      ("zero-terminated", 'z')] }

/-- Opens the files that a script writes; none where one of them cannot be written. -/
def openStreams (self : String) (names : List String) : Run (Option (List Edit.Stream)) := do
  let streams ← names.eraseDups.mapM fun path => do
    match ← openPath (.output true) path with
    | .ok channel => return some { name := path, channel }
    | .error e =>
      complain self ("couldn't open file " ++ path ++ ": " ++ e.wording)
      return none
  return if streams.any Option.isNone then none else some (streams.filterMap id)

/-- Edits streams. -/
def sed (launch : Launch) : Tool := fun self args => do
  let args := args.filter (· ≠ "--posix")
  match editOptions.readFrom true (args.length + 1) {} args with
  | .error e =>
    complain self e
    tell (editUsage self)
    return 1
  | .ok g =>
    let sources ← g.options.mapM fun (c, v) => do
      match c with
      | 'e' => return .ok (some (Edit.Source.argument v))
      | 'f' =>
        match ← readInput v with
        | .ok content => return .ok (some (Edit.Source.file v content))
        | .error e => return .error ("couldn't open file " ++ v ++ ": " ++ e.wording)
      | _ => return Except.ok none
    let direct := !g.has 'e' && !g.has 'f'
    match sources.mapM id, direct, g.operands with
    | .error e, _, _ =>
      complain self e
      return 1
    | _, true, [] =>
      tell (editUsage self)
      return 1
    | .ok found, _, operands =>
      let pieces := if direct then [Edit.Source.argument (operands.headD "")] else found.filterMap id
      let paths := if direct then operands.tail else operands
      match Edit.parse (g.has 'E' || g.has 'r') pieces with
      | .error e =>
        match ← openStreams self e.files with
        | none => return 4
        | some _ =>
          complain self e.message
          return e.status
      | .ok script =>
        match ← openStreams self script.files with
        | none => return 4
        | some streams =>
          let x : Edit.Setting := {
            self, launch, quiet := script.quiet || g.has 'n', stop := if g.has 'z' then '\x00' else '\n'
            separate := g.has 's' || g.has 'i', inPlace := g.has 'i', suffix := (g.value? 'i').getD ""
            width := ((g.value? 'l').bind natOf?).getD 70, noRegex := script.noRegex
            isDirect := g.has 'u' }
          let work : Edit.Work := { files := inputs paths, streams }
          let edit : Edit.Editing Unit := do
            Edit.runBefore x script.commands
            Edit.runAll x script.commands 10000000 false
            Edit.sendRest
          let ((), w) ← edit.run work
          return w.status

end ClassLens.Tool
