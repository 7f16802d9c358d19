import ClassLens.Path

/-! # The command line

* `CommandLine.ofArgs`: what a command line asks for.
* `Invocation.logFile`: where a server's log goes. -/

namespace ClassLens

/-- How a server is to run. -/
structure Invocation where
  verbose : Bool := false
  logFile : Option String := none
  /-- A command that extracts, whatever the settings say. -/
  extractor : Option String := none
  deriving DecidableEq, Repr

/-- What a command line asks for. -/
inductive CommandLine where
  | serve (invocation : Invocation)
  | help
  | version
  /-- Nothing that can be done, and why. -/
  | refused (reason : String)
  deriving DecidableEq, Repr

namespace CommandLine

/-- An option that is given a second time. -/
def repeated (name : String) : CommandLine :=
  refused ("the argument '" ++ name ++ "' cannot be used multiple times")

/-- An option without the value that belongs to it. -/
def valueless (name : String) : CommandLine :=
  refused ("a value is required for '" ++ name ++ "' but none was supplied")

/-- The name of an option and the value that stands behind an equals sign. -/
def splitOption (arg : String) : String × Option String :=
  let chars := arg.toList
  match chars.dropWhile (· != '=') with
  | _ :: value => (String.ofList (chars.takeWhile (· != '=')), some (String.ofList value))
  | [] => (arg, none)

/-- What the rest of a command line asks for, `given` being what was read before. -/
def ofArgsFrom (given : Invocation) : List String → CommandLine
  | [] => serve given
  | arg :: rest =>
    if arg = "--help" ∨ arg = "-h" then help
    else if arg = "--version" ∨ arg = "-V" then version
    else if arg = "--verbose" ∨ arg = "-v" then
      if given.verbose then repeated "--verbose" else ofArgsFrom { given with verbose := true } rest
    else
      match splitOption arg, rest with
      | ("--log-file", some value), rest =>
        if given.logFile.isSome then repeated "--log-file <LOG_FILE>"
        else ofArgsFrom { given with logFile := some value } rest
      | ("--log-file", none), value :: rest =>
        if given.logFile.isSome then repeated "--log-file <LOG_FILE>"
        else ofArgsFrom { given with logFile := some value } rest
      | ("--log-file", none), [] => valueless "--log-file <LOG_FILE>"
      | ("--extractor", some value), rest =>
        if given.extractor.isSome then repeated "--extractor <EXTRACTOR>"
        else ofArgsFrom { given with extractor := some value } rest
      | ("--extractor", none), value :: rest =>
        if given.extractor.isSome then repeated "--extractor <EXTRACTOR>"
        else ofArgsFrom { given with extractor := some value } rest
      | ("--extractor", none), [] => valueless "--extractor <EXTRACTOR>"
      | _, _ => refused ("unexpected argument '" ++ arg ++ "' found")

/-- What a command line asks for. -/
def ofArgs (args : List String) : CommandLine :=
  ofArgsFrom {} args

/-- The text that explains the options. -/
def usage : String :=
  "Usage: css-lens [OPTIONS]\n\nOptions:\n" ++
  "  -v, --verbose                Log more\n" ++
  "      --log-file <LOG_FILE>    File that the log is written to\n" ++
  "      --extractor <EXTRACTOR>  Extractor executable; overrides the `extractor.command` setting\n" ++
  "  -h, --help                   Print help\n" ++
  "  -V, --version                Print version\n"

/-- What is said where a command line is refused. -/
def complaint (reason : String) : String :=
  "error: " ++ reason ++ "\n\nUsage: css-lens [OPTIONS]\n\nFor more information, try '--help'.\n"

end CommandLine

/-- The directory of the log where no file is given, in a home directory. -/
def logDirectory (home : String) : Path :=
  (Path.ofString home).join (.ofString ".css-lens")

/-- The name of the log. -/
def logName : Path := .ofString "css-lens.log"

end ClassLens
