import ClassLens.Tool.Regex.RichReader
import ClassLens.Tool.Scripting.Syntax

/-! # Matches in scripts

* `Matcher`: an expression that texts are looked through for.
* `Hit`: a match with its groups, and the text that it was found in.
* `Matcher.all`: all matches in a text, one after the other.
* `piecesBetween`: the pieces of a text between matches. -/

namespace ClassLens.Tool.Scripting

/-- An expression that texts are looked through for. -/
structure Matcher where
  expression : Rich
  groups : Nat
  names : List (String × Nat)

/-- The matcher of a text with flags. -/
def Matcher.parse (flags source : String) : Except String Matcher := do
  let has (c : Char) : Bool := flags.toList.contains c
  let rich : Rich.Flags := {
    foldsCase := has 'i'
    byLine := has 'm'
    dotAll := has 's'
    spaced := has 'x'
    plainGroups := has 'n' }
  let (expression, found) ← Rich.parse rich source.toList
  return ⟨expression, found.count, found.names⟩

/-- A match and the text that it was found in. -/
structure Hit where
  text : Array Char
  start : Nat
  stop : Nat
  places : List (Nat × Nat × Nat)
  groups : Nat
  names : List (String × Nat)

/-- The characters of a text between two places. -/
def between (text : Array Char) (start stop : Nat) : String :=
  String.ofList (text.extract start stop).toList

/-- The text of a match. -/
def Hit.whole (h : Hit) : String := between h.text h.start h.stop

/-- Where a group stands. -/
def Hit.place? (h : Hit) (n : Nat) : Option (Nat × Nat) :=
  if n = 0 then some (h.start, h.stop) else (h.places.find? fun p => p.1 == n).map Prod.snd

/-- The text of a group. -/
def Hit.group (h : Hit) (n : Nat) : Value :=
  match h.place? n with
  | some (start, stop) => .text (between h.text start stop)
  | none => .undefined

/-- The texts of all groups. -/
def Hit.values (h : Hit) : List Value := (List.range h.groups).map fun i => h.group (i + 1)

/-- The first match from a place on. With `mayBeEmpty` it may be empty even where the search starts. -/
def Matcher.find? (m : Matcher) (text : Array Char) (start : Nat) (mayBeEmpty : Bool) : Option Hit :=
  let hit (f : Rich.Found) : Hit := ⟨text, f.start, f.stop, f.groups, m.groups, m.names⟩
  if mayBeEmpty then (m.expression.find? text start true).map hit
  else
    match m.expression.matchAt? text start start false with
    | some f => some (hit f)
    | none => if start < text.size then (m.expression.find? text (start + 1) true).map hit else none

/-- All matches from a place on, none of which is empty where the last one was. -/
def Matcher.allFrom (m : Matcher) (text : Array Char) : Nat → Nat → Bool → List Hit
  | 0, _, _ => []
  | fuel + 1, start, mayBeEmpty =>
    match m.find? text start mayBeEmpty with
    | none => []
    | some h => h :: allFrom m text fuel h.stop (h.start < h.stop)

/-- All matches in a text. -/
def Matcher.all (m : Matcher) (text : Array Char) : List Hit := m.allFrom text (2 * text.size + 2) 0 true

/-- The pieces of a text between matches from a place on, at most so many, with the groups of the matches. -/
def piecesFrom (m : Matcher) (text : Array Char) (most : Option Nat) : Nat → Nat → Nat → Nat → List Value
  | 0, _, _, _ => []
  | fuel + 1, count, piece, place =>
    let rest : List Value := [.text (between text piece text.size)]
    if most.any (count + 1 ≥ ·) then rest
    else
      match m.find? text place true with
      | none => rest
      | some h =>
        if h.start = h.stop then
          -- an empty match separates characters, and neither stands at the start nor at the end
          if h.start ≥ text.size then rest
          else if h.start = piece then
            match m.find? text (place + 1) true with
            | some g =>
              if g.start ≥ text.size && g.start = g.stop then rest
              else .text (between text piece g.start) :: g.values ++ piecesFrom m text most fuel (count + 1) g.stop g.stop
            | none => rest
          else .text (between text piece h.start) :: h.values ++ piecesFrom m text most fuel (count + 1) h.stop h.stop
        else .text (between text piece h.start) :: h.values ++ piecesFrom m text most fuel (count + 1) h.stop h.stop

/-- The pieces of a text between matches. Without a bound empty pieces at the end are left out. -/
def piecesBetween (m : Matcher) (s : String) (limit : Int) : List Value :=
  let text := s.toList.toArray
  if text.isEmpty then []
  else
    let most : Option Nat := if 0 < limit then some limit.toNat else none
    let pieces := piecesFrom m text most (text.size + 2) 0 0 0
    if limit = 0 then (pieces.reverse.dropWhile fun v => v.toText = "").reverse else pieces

/-- A text with signs that mean something in expressions made plain. -/
def withBackslashes (s : String) : String :=
  String.ofList (s.toList.flatMap fun c =>
    if c.isAlphanum || c == '_' || c.toNat > 127 then [c] else ['\\', c])

/-- Replaces characters by a table; the new text, and how many there were. -/
def Exchange.apply (x : Exchange) (s : String) : String × Nat :=
  let target := if x.target.isEmpty && !x.drops then (if x.complements then [] else x.source) else x.target
  let newOf (c : Char) : Option (Option Char) :=
    if x.complements then
      if x.source.contains c then none
      else if x.drops then some none
      else some (some (target.getLast?.getD c))
    else
      match x.source.findIdx? (· == c) with
      | none => none
      | some i =>
        match target[i]? with
        | some d => some (some d)
        | none => if x.drops then some none else some (some (target.getLast?.getD c))
  let (cs, _, count) := s.toList.foldl (fun (done, last, count) c =>
    match newOf c with
    | none => (c :: done, none, count)
    | some none => (done, last, count + 1)
    | some (some d) =>
      if x.squeezes && last == some d then (done, last, count + 1) else (d :: done, some d, count + 1))
    (([], none, 0) : List Char × Option Char × Nat)
  (String.ofList cs.reverse, count)

end ClassLens.Tool.Scripting
