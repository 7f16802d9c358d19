import ClassLens.Text.Blank

/-! # Compound selectors

A selector list is cut into compound selectors at commas, combinators and white space. Inside
parentheses, brackets and quotes nothing is cut, and a backslash takes the next character with it.

* `Place`: where a reader stands inside a selector.
* `Place.after`: the place after one more character.
* `compounds s`: the compound selectors of a selector list, as they stand in its text. -/

namespace ClassLens.Selector

open Text (isBlank)

/-- What the next character is part of. -/
inductive Mode where
  | plain
  /-- A character after a backslash. -/
  | escaped
  /-- A string, with its quote. -/
  | quoted (quote : Char)
  /-- A character after a backslash in a string. -/
  | quotedEscape (quote : Char)
  deriving DecidableEq, Repr

/-- Where a reader stands: the mode, and how many brackets are open. -/
structure Place where
  mode : Mode := .plain
  depth : Nat := 0
  deriving DecidableEq, Repr

/-- A character that separates compound selectors. -/
def isDelimiter (c : Char) : Bool :=
  c == ',' || c == '>' || c == '+' || c == '~' || isBlank c

/-- A quote of either kind. -/
def isQuote (c : Char) : Bool :=
  c == '"' || c == '\''

/-- An opening bracket of either kind. -/
def isOpener (c : Char) : Bool :=
  c == '(' || c == '['

/-- A closing bracket of either kind. -/
def isCloser (c : Char) : Bool :=
  c == ')' || c == ']'

/-- The place after one more character. -/
def Place.after (p : Place) (c : Char) : Place :=
  match p.mode with
  | .escaped => { p with mode := .plain }
  | .quotedEscape q => { p with mode := .quoted q }
  | .quoted q =>
    if c = '\\' then { p with mode := .quotedEscape q }
    else if c = q then { p with mode := .plain }
    else p
  | .plain =>
    if c = '\\' then { p with mode := .escaped }
    else if isQuote c then { p with mode := .quoted c }
    else if isOpener c then { p with depth := p.depth + 1 }
    else if isCloser c then { p with depth := p.depth - 1 }
    else p

/-- Whether a character ends the compound selector before it. -/
def Place.cuts (p : Place) (c : Char) : Bool :=
  p.mode == .plain && p.depth == 0 && isDelimiter c

/-- Whether a character that ends no compound selector begins one where none has begun. -/
def begins (c : Char) : Bool :=
  !isCloser c

/-- The compound selectors in the rest of a text, `current` being the one that has begun, the last
character first. -/
def compoundsFrom (p : Place) (current : Option (List Char)) : List Char → List (List Char)
  | [] => (current.map List.reverse).toList
  | c :: cs =>
    if p.cuts c then (current.map List.reverse).toList ++ compoundsFrom p none cs
    else
      match current with
      | some taken => compoundsFrom (p.after c) (some (c :: taken)) cs
      | none => compoundsFrom (p.after c) (if begins c then some [c] else none) cs

/-- The compound selectors of a selector list. -/
def compounds (selector : List Char) : List (List Char) :=
  compoundsFrom {} none selector

/-- The compound selectors of a selector list, as texts. -/
def compoundTexts (selector : String) : List String :=
  (compounds selector.toList).map String.ofList

end ClassLens.Selector
