import ClassLens.Extraction.Machine

/-! # Extractors

An extractor takes the text of a stylesheet and gives its rules, after some time.

* `Extractor.command`: the extractor that runs a command.
* `Extractor.scripted`: an extractor for which a stylesheet says itself what comes of it: `@ms rest`
  takes so many milliseconds, `!kind text` fails, and everything else is rule data. -/

namespace ClassLens

/-- An extraction: how many milliseconds it takes, and what comes of it. -/
structure Extraction where
  delay : Nat
  result : Except ExtractionFault Sheet

/-- What a stylesheet's text leads to. -/
structure Extractor where
  extract : String → Extraction

namespace Extractor

/-- The extractor that runs a command on a machine with the given files. -/
def command (files : FileTree) (command : String) (args : List String) : Extractor :=
  ⟨fun css => ⟨0, Machine.extract files command args css⟩⟩

/-! ### Stylesheets that say what comes of them -/

/-- The part of a text before its first space and the part after it. -/
def splitSpace? (s : List Char) : Option (List Char × List Char) :=
  match s.dropWhile (· != ' ') with
  | _ :: rest => some (s.takeWhile (· != ' '), rest)
  | [] => none

/-- The time that a stylesheet asks for, and what follows. -/
def splitDelay (s : List Char) : Nat × List Char :=
  match s with
  | '@' :: rest =>
    match splitSpace? rest with
    | some (digits, rest') =>
      if digits ≠ [] ∧ digits.all Char.isDigit then (Json.natOfDigits digits, rest') else (0, s)
    | none => (0, s)
  | _ => (0, s)

/-- The fault of a kind. -/
def faultOfKind (kind text : String) : ExtractionFault :=
  if kind = "notfound" then .commandNotFound text
  else if kind = "launch" then .launchFailed "tool" text
  else if kind = "failed" then .extractorFailed "tool" text
  else if kind = "malformed" then .malformedOutput text
  else .invalidCss text

/-- What a stylesheet without a delay says. -/
def scriptedResult (s : List Char) : Except ExtractionFault Sheet :=
  let data : Except ExtractionFault Sheet :=
    match Sheet.ofJson (String.ofList s) with
    | .ok sheet => .ok sheet
    | .error _ => .error (.invalidCss "not rule data")
  match s with
  | '!' :: rest =>
    match splitSpace? rest with
    | some (kind, text) => .error (faultOfKind (String.ofList kind) (String.ofList text))
    | none => data
  | _ => data

/-- The extractor for stylesheets that say what comes of them. -/
def scripted : Extractor :=
  ⟨fun css =>
    let (delay, rest) := splitDelay css.toList
    ⟨delay, scriptedResult rest⟩⟩

end Extractor

end ClassLens
