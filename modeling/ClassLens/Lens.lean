import ClassLens.ClassIndex
import ClassLens.Document.Basic
import ClassLens.Settings.Basic

/-! # Code lenses

A lens stands over a usage and sums up the rules that were found for it.

* `lensTitle?`: the text of the lens for an annotation; an annotation without rules has one only
  if the settings ask for it.
* `lenses`: the lenses for the annotations of a document that belong to its current version. -/

namespace ClassLens

/-- A lens: the positions it covers and its text. -/
structure Lens where
  start : Position
  stop : Position
  title : String
  deriving DecidableEq, Repr

/-- The declarations of a rule as they are shown, with an ellipsis where some are left out. -/
def shownDeclarations (r : Rule) (limit : Nat) : List String :=
  (r.declarations.take limit).map (fun d => d.property ++ ": " ++ d.value ++ ";") ++
    if limit < r.declarations.length then ["…"] else []

/-- A rule in one line. -/
def ruleSummary (r : Rule) (limit : Nat) : String :=
  match shownDeclarations r limit with
  | [] => r.selectorText ++ " \x7b \x7d"
  | parts => r.selectorText ++ " \x7b " ++ " ".intercalate parts ++ " \x7d"

/-- The text of the lens for an annotation. -/
def lensTitle? (settings : LensSettings) (a : Annotation) : Option String :=
  match a.rules with
  | [] => if settings.showUnmatched then some ("no rule for ." ++ a.usage.className) else none
  | [r] => some (ruleSummary r settings.maxDeclarations)
  | r :: rest =>
    some (ruleSummary r settings.maxDeclarations ++ " +" ++ toString rest.length ++ " more")

/-- The lens for an annotation of a document. -/
def lens? (d : Document) (settings : LensSettings) (a : Annotation) : Option Lens :=
  (lensTitle? settings a).map fun title =>
    ⟨d.positionOf a.usage.start, d.positionOf a.usage.stop, title⟩

/-- The lenses for the annotations that belong to the document's version. -/
def lenses (d : Document) (settings : LensSettings) (annotations : List Annotation) : List Lens :=
  (annotations.filter fun a => a.usage.version = d.version).filterMap (lens? d settings)

end ClassLens
