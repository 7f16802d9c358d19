import ClassLens.Tool.Records.Run

/-! # Working on records

* `awk`: the program that runs a program on the records of its input. -/

namespace ClassLens.Tool

open Shell

namespace Records

/-- How the program is used. -/
def usageText (self : String) : String :=
  "Usage: " ++ self ++ " [Options] [Program] [file ...]\n\n" ++
  "Program:\n" ++
  "    The -f option value is the name of a file containing program text.\n" ++
  "    If no -f option is given, a \"--\" ends option processing; the following\n" ++
  "    parameters are the program text.\n\n" ++
  "Options:\n" ++
  "    -f program-file  Program  text is read from file instead of from the\n" ++
  "                     command-line.  Multiple -f options are accepted.\n" ++
  "    -F value         sets the field separator, FS, to value.\n" ++
  "    -v var=value     assigns value to program variable var.\n" ++
  "    --               unambiguous end of options.\n\n" ++
  "    Implementation-specific options are prefixed with \"-W\".  They can be\n" ++
  "    abbreviated:\n\n" ++
  "    -W version       show version information and exit.\n" ++
  "    -W dump          show assembler-like listing of program and exit.\n" ++
  "    -W help          show this message and exit.\n" ++
  "    -W interactive   set unbuffered output, line-buffered input.\n" ++
  "    -W exec file     use file as program as well as last option.\n" ++
  "    -W random=number set initial random seed.\n" ++
  "    -W sprintf=number adjust size of sprintf buffer.\n" ++
  "    -W posix_space   do not consider \"\\n\" a space.\n" ++
  "    -W usage         show this message and exit.\n"

/-- What the arguments of the program say. -/
structure Request where
  files : List String := []
  settings : List (String × String) := []
  /-- What separates fields. -/
  separator : Option String := none
  /-- Whether only the use of the program is to be shown. -/
  showsUsage : Bool := false
  /-- Options that are passed over, which is told. -/
  idle : List String := []
  operands : List String := []

/-- A request with an option that only this kind of program has. -/
def Request.withWord (r : Request) (word : String) : Option Request :=
  let name := (word.takeWhile (· != '=')).toString
  let known := ["version", "dump", "help", "interactive", "exec", "random", "sprintf", "posix", "posix_space",
    "usage"]
  match known.find? fun k => name ≠ "" && k.startsWith name with
  | some "help" | some "usage" => some { r with showsUsage := true }
  | some _ => some r
  | none => none

/-- The options before the operands, or what is wrong with them. -/
def readRequest : Nat → Request → List String → Except String Request
  | 0, r, _ => .ok r
  | _ + 1, r, [] => .ok r
  | n + 1, r, word :: words =>
    match word.toList with
    | ['-'] => .ok { r with operands := word :: words }
    | ['-', '-'] => .ok { r with operands := words }
    | '-' :: '-' :: name =>
      match r.withWord (String.ofList name) with
      | some r => readRequest n r words
      | none => .error ("not an option: " ++ word)
    | '-' :: c :: cs =>
      if !"WvFf".toList.contains c then .error ("not an option: " ++ word)
      else
        let value : Option (String × List String) :=
          if !cs.isEmpty then some (String.ofList cs, words)
          else
            match words with
            | w :: words => some (w, words)
            | [] => none
        match value with
        | none => .error ("option -" ++ String.singleton c ++ " lacks argument")
        | some (value, words) =>
          match c with
          | 'F' => readRequest n { r with separator := some (unescape value) } words
          | 'f' => readRequest n { r with files := r.files ++ [value] } words
          | 'v' =>
            match setting? value with
            | some (name, v) => readRequest n { r with settings := r.settings ++ [(name, unescape v)] } words
            | none => .error ("improper assignment: -v " ++ value)
          | _ =>
            match r.withWord value with
            | some r => readRequest n r words
            | none => readRequest n { r with idle := r.idle ++ [value] } words
    | _ => .ok { r with operands := word :: words }

/-- Checks what separates fields from the start on. -/
def checkSeparators (separators : List String) : Except (List String) Unit :=
  separators.forM fun s =>
    if s.length ≤ 1 then .ok ()
    else
      match readPattern s with
      | .ok _ => .ok ()
      | .error e => .error ["line 0: regular expression compile failed (" ++ e ++ ")\n" ++ s]

/-- The machine that runs a program. -/
def machineFor (self : String) (launch : Launch) (program : Program) (arguments : List String)
    (exported : List (String × String)) : Machine :=
  let numbered := (self :: arguments).zipIdx.foldl (fun (g : Group) (s, i) =>
    (g.touchNumber i).put (toString i) (.input s)) {}
  let environment := exported.foldl (fun (g : Group) (name, value) =>
    (g.touchText name).put name (.input value)) {}
  let names := ["ARGV", "ENVIRON"] ++ program.groups.filter fun n => n ≠ "ARGV" && n ≠ "ENVIRON"
  let globals : List (String × Value) :=
    [("FS", .text " "), ("OFS", .text " "), ("RS", .text "\n"), ("ORS", .text "\n"), ("SUBSEP", .text "\x1c"),
      ("CONVFMT", .text "%.6g"), ("OFMT", .text "%.6g"), ("NR", .number 0), ("FNR", .number 0),
      ("FILENAME", .text ""), ("RSTART", .number 0), ("RLENGTH", .number (-1)),
      ("ARGC", .number (Float.ofNat (arguments.length + 1)))]
  { self, launch, program
    globals := globals.foldl (fun t e => t.insert e.1 e.2) .empty
    groupNames := names.zipIdx.foldl (fun t e => t.insert e.1 e.2) .empty
    groups := #[numbered, environment] ++ Array.replicate (names.length - 2) {} }

end Records

open Records in
/-- Runs a program on the records of some files. -/
def awk (launch : Launch) : Tool := fun self args => do
  match readRequest (args.length + 1) {} args with
  | .error message =>
    complain self message
    return 2
  | .ok r =>
    if r.showsUsage then
      say (usageText self)
      return 0
    for word in r.idle do
      complain self ("vacuous option: -W \"" ++ word ++ "\"")
    let sources ← r.files.mapM fun path => do
      match ← readInput path with
      | .ok content => return Except.ok content
      | .error e => return Except.error ("cannot open \"" ++ path ++ "\" (" ++ e.wording ++ ")")
    match sources.mapM id, r.files, r.operands with
    | .error message, _, _ =>
      complain self message
      return 2
    | .ok _, [], [] =>
      tell (usageText self)
      return 2
    | .ok texts, files, operands =>
      let text := if files.isEmpty then operands.headD "" else "\n".intercalate texts
      let arguments := if files.isEmpty then operands.tail else operands
      let inFile := match files.getLast? with
        | some path => path ++ ": "
        | none => ""
      let separators := r.separator.toList ++ r.settings.filterMap fun (name, v) => if name = "FS" then some v else none
      match checkSeparators separators *> readProgram text with
      | .error messages =>
        for message in messages do complain self (inFile ++ message)
        return 2
      | .ok program =>
        let machine := machineFor self launch program arguments (← shell).exported
        let whole : Exec Nat := do
          match r.separator with
          | some s => setVariable "FS" (.input s)
          | none => pure ()
          for (name, value) in r.settings do setVariable name (.input value)
          runProgram
        let (result, _) ← whole.run machine
        match result with
        | .ok status => return status
        | .error _ => return 2

end ClassLens.Tool
