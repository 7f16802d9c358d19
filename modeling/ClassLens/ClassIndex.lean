import ClassLens.Rule.Basic
import ClassLens.Selector.ClassName
import ClassLens.Table
import ClassLens.Usage.Scanner

/-! # Classes of a stylesheet

* `Rule.names r x`: whether one of the rule's selectors names the class `x`.
* `ClassIndex`: a sheet with, for each class that it names, the ascending positions of the rules
  that name it. `ClassIndex.ofSheet` cuts every selector once.
* `ClassIndex.rulesFor`: the rules that name a class.
* `Annotation`: a usage with the rules that name its class. -/

namespace ClassLens

open Selector Usage

/-- Whether one of the rule's selectors names a class. -/
def Rule.names (r : Rule) (className : String) : Bool :=
  r.selectors.any fun s => hasClass s className

/-- The class names in a rule's selectors, in order. -/
def Rule.classNames (r : Rule) : List String :=
  r.selectors.flatMap namedClasses

/-- The positions of the rules that name each class. -/
abbrev Positions := Table String (List Nat)

/-- Notes that the rule at a position names a class; a position that was noted last is not noted
again. -/
def Positions.note (t : Positions) (position : Nat) (className : String) : Positions :=
  match t.get? className with
  | none => t.insert className [position]
  | some ps => if ps.getLast? = some position then t else t.insert className (ps ++ [position])

/-- Notes all classes of the rule at a position. -/
def Positions.noteRule (t : Positions) (position : Nat) (r : Rule) : Positions :=
  r.classNames.foldl (fun t x => t.note position x) t

/-- Notes the rules of a list, the first being at the given position. -/
def Positions.noteRules : Positions → Nat → List Rule → Positions
  | t, _, [] => t
  | t, position, r :: rest => Positions.noteRules (t.noteRule position r) (position + 1) rest

/-- A sheet with the positions of the rules that name each class. -/
structure ClassIndex where
  sheet : Sheet
  positions : Positions
  deriving Repr

/-- A usage with every rule that names its class. -/
structure Annotation where
  usage : Site
  rules : List Rule
  deriving DecidableEq, Repr

/-- Whether a rule was found. -/
def Annotation.isMatched (a : Annotation) : Bool :=
  !a.rules.isEmpty

namespace ClassIndex

/-- Cuts the selectors of a sheet. -/
def ofSheet (sheet : Sheet) : ClassIndex :=
  ⟨sheet, Positions.noteRules .empty 0 sheet.rules⟩

/-- Number of classes that the sheet names. -/
def classCount (i : ClassIndex) : Nat :=
  i.positions.size

/-- The rules that name a class, in the order of the sheet. -/
def rulesFor (i : ClassIndex) (className : String) : List Rule :=
  ((i.positions.get? className).getD []).filterMap fun p => i.sheet.rules[p]?

/-- A usage with the rules that name its class. -/
def annotate (i : ClassIndex) (usage : Site) : Annotation :=
  ⟨usage, i.rulesFor usage.className⟩

/-- Usages with the rules that name their classes, in order. -/
def annotateAll (i : ClassIndex) (usages : List Site) : List Annotation :=
  usages.map i.annotate

end ClassIndex

end ClassLens
