import ClassLens.FileTree
import ClassLens.Shell.Command

/-! # Patterns for names

A pattern matches a text as a whole: `*` any characters, `?` one, and `[...]` one of a set. Characters
that were quoted stand for themselves.

* `Pattern.ofMarked`: the pattern of characters that are marked as quoted or not.
* `Pattern.accepts`: whether a pattern matches a text.
* `expandNames`: the paths in a file tree that a pattern matches. -/

namespace ClassLens.Shell

/-- A character, and whether it was quoted. -/
abbrev Marked := Char × Bool

/-- What a pattern says of one place of a text. -/
inductive PatternItem where
  | one (c : Char)
  | any
  | many
  /-- A character in one of some ranges or classes, or in none. -/
  | among (negated : Bool) (ranges : List (Char × Char)) (classes : List String)

/-- A pattern. -/
abbrev Pattern := List PatternItem

/-- Whether a byte belongs to a class by its name. -/
def inClass (name : String) (c : Char) : Bool :=
  match name with
  | "alpha" => c.isAlpha
  | "digit" => c.isDigit
  | "alnum" => c.isAlphanum
  | "upper" => c.isUpper
  | "lower" => c.isLower
  | "space" => c == ' ' || (9 ≤ c.toNat && c.toNat ≤ 13)
  | "blank" => c == ' ' || c == '\t'
  | "punct" => 33 ≤ c.toNat && c.toNat ≤ 126 && !c.isAlphanum
  | "cntrl" => c.toNat < 32 || c.toNat == 127
  | "print" => 32 ≤ c.toNat && c.toNat ≤ 126
  | "graph" => 33 ≤ c.toNat && c.toNat ≤ 126
  | "xdigit" => c.isDigit || ('a' ≤ c && c ≤ 'f') || ('A' ≤ c && c ≤ 'F')
  | _ => false

namespace PatternItem

/-- Whether an item that stands for one character stands for a given one. -/
def holds (c : Char) : PatternItem → Bool
  | one d => c == d
  | any => true
  | many => false
  | among negated ranges classes =>
    (ranges.any (fun r => r.1 ≤ c && c ≤ r.2) || classes.any fun k => inClass k c) != negated

end PatternItem

namespace Pattern

/-- Whether a pattern matches a text. -/
def accepts : Pattern → List Char → Bool
  | [], s => s.isEmpty
  | .many :: ps, [] => accepts ps []
  | .many :: ps, c :: s => accepts ps (c :: s) || accepts (.many :: ps) s
  | _ :: _, [] => false
  | p :: ps, c :: s => p.holds c && accepts ps s
termination_by ps s => ps.length + s.length

/-- The inside of a set up to its closing bracket, and what follows it. -/
def readSet : Nat → Bool → List Marked → List (Char × Char) → List String →
    Option (List (Char × Char) × List String × List Marked)
  | 0, _, _, _, _ => none
  | _ + 1, _, [], _, _ => none
  | n + 1, first, (']', false) :: s, ranges, classes =>
    if first then readSet n false s (ranges ++ [(']', ']')]) classes else some (ranges, classes, s)
  | n + 1, _, ('[', false) :: (':', false) :: s, ranges, classes =>
    let name := s.takeWhile fun m => m.1.isAlpha
    match s.drop name.length with
    | (':', _) :: (']', _) :: s =>
      readSet n false s ranges (classes ++ [String.ofList (name.map Prod.fst)])
    | _ => readSet n false ((':', false) :: s) (ranges ++ [('[', '[')]) classes
  | n + 1, _, (a, _) :: ('-', false) :: (b, q) :: s, ranges, classes =>
    if b = ']' ∧ !q then
      readSet n false (('-', true) :: (b, q) :: s) (ranges ++ [(a, a)]) classes
    else readSet n false s (ranges ++ [(a, b)]) classes
  | n + 1, _, (a, _) :: s, ranges, classes => readSet n false s (ranges ++ [(a, a)]) classes

/-- The pattern of marked characters. -/
def ofMarkedFrom : Nat → List Marked → Pattern
  | 0, _ => []
  | _ + 1, [] => []
  | n + 1, ('*', false) :: s => .many :: ofMarkedFrom n s
  | n + 1, ('?', false) :: s => .any :: ofMarkedFrom n s
  | n + 1, ('[', false) :: s =>
    let (negated, inner) := match s with
      | ('!', false) :: s => (true, s)
      | ('^', false) :: s => (true, s)
      | s => (false, s)
    match readSet (inner.length + 1) true inner [] [] with
    | some (ranges, classes, rest) => .among negated ranges classes :: ofMarkedFrom n rest
    | none => .one '[' :: ofMarkedFrom n s
  | n + 1, ('\\', false) :: (c, _) :: s => .one c :: ofMarkedFrom n s
  | n + 1, (c, _) :: s => .one c :: ofMarkedFrom n s

/-- The pattern of marked characters. -/
def ofMarked (s : List Marked) : Pattern :=
  ofMarkedFrom (s.length + 1) s

/-- Whether marked characters hold anything that matches more than itself. -/
def isGlob (s : List Marked) : Bool :=
  s.any fun m => !m.2 && (m.1 == '*' || m.1 == '?' || m.1 == '[')

end Pattern

/-! ### Names in a file tree -/

/-- The names in a directory. -/
def namesIn (t : FileTree) (here : Location) : List String :=
  t.nodes.keys.filterMap fun l =>
    if l.dropLast = here then l.getLast?.map ofBytes else none

/-- The pieces between the slashes of marked characters. -/
def markedPieces : List Marked → List (List Marked)
  | [] => [[]]
  | m :: ms =>
    match markedPieces ms with
    | [] => [[m]]
    | piece :: rest => if m.1 = '/' then [] :: piece :: rest else (m :: piece) :: rest

/-- The texts that continue a path by the pieces of a pattern. -/
def expandPieces (t : FileTree) (found : String) : List (List Marked) → List String
  | [] => [found]
  | piece :: rest =>
    let text := String.ofList (piece.map Prod.fst)
    let tail (s : String) := if rest.isEmpty then s else s ++ "/"
    if Pattern.isGlob piece then
      let dir := if found = "" then Path.ofString "." else ⟨toBytes found⟩
      match t.locate dir with
      | .ok here =>
        let pattern := Pattern.ofMarked piece
        let names := (namesIn t here).filter fun name =>
          pattern.accepts name.toList &&
            (name.toList.head? != some '.' || (piece.head?.any fun m => m.1 == '.'))
        names.flatMap fun name =>
          if rest.isEmpty then [found ++ name] else expandPieces t (found ++ name ++ "/") rest
      | .error _ => []
    else
      let here := found ++ tail text
      if (rest.isEmpty && (t.locate ⟨toBytes here⟩).toBool) || !rest.isEmpty then
        expandPieces t here rest
      else []

/-- The paths that a pattern matches, in order; a pattern that matches none stands for itself. -/
def expandNames (t : FileTree) (s : List Marked) : List String :=
  let text := String.ofList (s.map Prod.fst)
  if Pattern.isGlob s then
    match expandPieces t "" (markedPieces s) with
    | [] => [text]
    | found => found.mergeSort fun a b => a ≤ b
  else [text]

end ClassLens.Shell
