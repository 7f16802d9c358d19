import ClassLens.Rule.Decode
import ClassLens.Text.Blank
import ClassLens.Text.Utf8

/-! # What comes of running an extractor

An extractor is a program that reads a stylesheet from its input and writes rule data to its output.

* `ExtractionFault`: why there are no rules, with its wording.
* `Outcome`: what the system says of the program.
* `Outcome.sheet`: the rules, or why there are none. -/

namespace ClassLens

/-- Why an extractor gives no rules. -/
inductive ExtractionFault where
  | commandNotFound (command : String)
  | launchFailed (command reason : String)
  | extractorFailed (command reason : String)
  | malformedOutput (detail : String)
  | invalidCss (detail : String)
  deriving DecidableEq, Repr

/-- The wording of a fault. -/
def ExtractionFault.message : ExtractionFault → String
  | commandNotFound command => command ++ " is not available"
  | launchFailed command reason => "failed to launch " ++ command ++ ": " ++ reason
  | extractorFailed command reason => command ++ " failed: " ++ reason
  | malformedOutput detail => "extractor returned malformed rule data: " ++ detail
  | invalidCss detail => "invalid stylesheet: " ++ detail

/-- How a program ended. -/
inductive Ending where
  | exited (code : Nat)
  | killed (signal : Nat)
  deriving DecidableEq, Repr

/-- What the system says of a program. -/
inductive Outcome where
  | notFound
  /-- There is such a file, and the system does not run it. -/
  | refused (reason : String)
  | ended (ending : Ending) (output errors : List UInt8)
  deriving DecidableEq, Repr

/-- The names of the signals, from the first one on. -/
def signalNames : List String :=
  ["HUP", "INT", "QUIT", "ILL", "TRAP", "ABRT", "BUS", "FPE", "KILL", "USR1", "SEGV", "USR2", "PIPE",
    "ALRM", "TERM", "STKFLT", "CHLD", "CONT", "STOP", "TSTP", "TTIN", "TTOU", "URG", "XCPU", "XFSZ",
    "VTALRM", "PROF", "WINCH", "IO", "PWR", "SYS"]

/-- A signal as it is shown. -/
def signalText (signal : Nat) : String :=
  match signalNames[signal - 1]? with
  | some name => toString signal ++ " (SIG" ++ name ++ ")"
  | none => toString signal

/-- An ending as it is shown. -/
def Ending.text : Ending → String
  | exited code => "exit status: " ++ toString code
  | killed signal => "signal: " ++ signalText signal

/-- A fault of decoding as it is shown. -/
def utf8Text : Text.Utf8Fault → String
  | .invalid length index =>
    "invalid utf-8 sequence of " ++ toString length ++ " bytes from index " ++ toString index
  | .incomplete index => "incomplete utf-8 byte sequence from index " ++ toString index

/-- A fault in rule data as it is shown. -/
def faultText : Json.Fault → String
  | .truncated => "the text ends too early"
  | .malformed => "the text is not JSON"
  | .mismatched => "the JSON has another shape"

/-- Why a program that ended badly gives no rules: what it wrote to its error output, or else how it
ended. -/
def failureReason (ending : Ending) (errors : List UInt8) : String :=
  let said := Text.trim (Text.decodeLossy errors)
  if said = "" then "process exited with status " ++ ending.text else said

/-- The rules that a program's output holds. -/
def sheetOfOutput (command : String) (output : List UInt8) : Except ExtractionFault Sheet :=
  match Text.decode output with
  | .error fault =>
    .error (.extractorFailed command ("extractor produced invalid UTF-8 output: " ++ utf8Text fault))
  | .ok text =>
    match Sheet.ofJson text with
    | .ok sheet => .ok sheet
    | .error fault => .error (.malformedOutput (faultText fault))

/-- The rules that a command gives by its outcome. -/
def Outcome.sheet (command : String) : Outcome → Except ExtractionFault Sheet
  | notFound => .error (.commandNotFound command)
  | refused reason => .error (.launchFailed command reason)
  | ended (.exited 0) output _ => sheetOfOutput command output
  | ended ending _ errors => .error (.extractorFailed command (failureReason ending errors))

end ClassLens
