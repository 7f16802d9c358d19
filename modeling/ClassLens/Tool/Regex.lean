import ClassLens.Shell.Pattern

/-! # Regular expressions

The expressions of `grep` and `sed`. Of all matches that start at one place the longest counts, and the
first place counts where there is a match at all.

* `Regex.find`: the first match in a text from a place on.

Matching gives all places where a match may end, the preferred one first, and keeps each of them once. -/

namespace ClassLens.Tool

open Shell (PatternItem Marked inClass)

/-- A regular expression. -/
inductive Regex where
  | nothing
  | one (item : PatternItem)
  | lineStart
  | lineEnd
  /-- The start and the end of a line in a text of many. -/
  | rowStart
  | rowEnd
  /-- A place between a character of a word and another one, or not such a place. -/
  | wordEdge (wanted : Bool)
  | wordStart
  | wordEnd
  | seq (first second : Regex)
  | either (first second : Regex)
  | many (least : Nat) (most : Option Nat) (body : Regex)
  | group (number : Nat) (body : Regex)
  | again (number : Nat)

namespace Regex

/-- A place in a text: what stands before it, the nearest character first, and after it, and what the
groups have matched. -/
structure Place where
  before : List Char
  after : List Char
  pos : Nat
  groups : List (Nat × Nat × Nat) := []

/-- Whether two places are the same, with the same groups. -/
def Place.same (p q : Place) : Bool := p.pos == q.pos && p.groups == q.groups

/-- The place after the next character. -/
def Place.next (p : Place) : Place :=
  match p.after with
  | c :: cs => { p with before := c :: p.before, after := cs, pos := p.pos + 1 }
  | [] => p

/-- A place so many characters further. -/
def Place.skip (n : Nat) (p : Place) : Place :=
  { p with before := (p.after.take n).reverse ++ p.before, after := p.after.drop n, pos := p.pos + n }

/-- A character of a word. -/
def isWordChar (c : Char) : Bool := c.isAlphanum || c == '_'

/-- Whether a character of a word stands before and after a place. -/
def Place.sides (p : Place) : Bool × Bool :=
  (p.before.head?.any isWordChar, p.after.head?.any isWordChar)

/-- Places without those that stand in the list before. -/
def distinct (ps : List Place) : List Place :=
  ps.foldl (fun found p => if found.any p.same then found else found ++ [p]) []

/-- The character in lower case where case does not count. -/
def fold (foldsCase : Bool) (c : Char) : Char := if foldsCase then c.toLower else c

/-- Whether an item stands for a character. -/
def holds (foldsCase : Bool) (c : Char) (item : PatternItem) : Bool :=
  if foldsCase then
    match item with
    | .among true .. => item.holds c.toLower && item.holds c.toUpper
    | item => item.holds c.toLower || item.holds c.toUpper
  else item.holds c

/-- The text of a group. -/
def Place.group? (p : Place) (whole : List Char) (n : Nat) : Option (List Char) :=
  (p.groups.find? fun g => g.1 == n).map fun g => (whole.drop g.2.1).take (g.2.2 - g.2.1)

/-- The places after so many characters that an item stands for, the last one first. -/
def run (foldsCase : Bool) (item : PatternItem) (least : Nat) (most : Option Nat) (p : Place) :
    List Place :=
  let hits := p.after.takeWhile fun c => holds foldsCase c item
  let n := match most with
    | some m => min m hits.length
    | none => hits.length
  ((List.range (n + 1)).filter (least ≤ ·)).reverse.map fun k => p.skip k

mutual

/-- The places where a match of an expression may end. -/
def ends (foldsCase : Bool) (whole : List Char) (fuel : Nat) (r : Regex) (p : Place) : List Place :=
  match fuel with
  | 0 => []
  | fuel + 1 =>
    match r with
    | nothing => [p]
    | one item =>
      match p.after with
      | c :: _ => if holds foldsCase c item then [p.next] else []
      | [] => []
    | lineStart => if p.before.isEmpty then [p] else []
    | lineEnd => if p.after.isEmpty then [p] else []
    | rowStart => if p.before.isEmpty || p.before.head? == some '\n' then [p] else []
    | rowEnd => if p.after.isEmpty || p.after.head? == some '\n' then [p] else []
    | wordEdge wanted => if (p.sides.1 != p.sides.2) == wanted then [p] else []
    | wordStart => if !p.sides.1 && p.sides.2 then [p] else []
    | wordEnd => if p.sides.1 && !p.sides.2 then [p] else []
    | seq a b =>
      distinct ((ends foldsCase whole fuel a p).flatMap fun q => ends foldsCase whole fuel b q)
    | either a b =>
      distinct (ends foldsCase whole fuel a p ++ ends foldsCase whole fuel b p)
    | many least most (one item) => run foldsCase item least most p
    | many least most body => (repeated foldsCase whole fuel least most body 0 p []).1
    | group n body =>
      (ends foldsCase whole fuel body p).map fun q =>
        { q with groups := (n, p.pos, q.pos) :: q.groups.filter fun g => g.1 != n }
    | again n =>
      match p.group? whole n with
      | some s =>
        let here := p.after.take s.length
        if here.map (fold foldsCase) == s.map (fold foldsCase) then [p.skip s.length] else []
      | none => []

/-- The places after repeating an expression from a place on, `count` times having come before, longer
rows first; and the places that were come to, with the times, each of which is looked at once. -/
def repeated (foldsCase : Bool) (whole : List Char) (fuel : Nat) (least : Nat) (most : Option Nat)
    (body : Regex) (count : Nat) (p : Place) (seen : List (Nat × Nat)) :
    List Place × List (Nat × Nat) :=
  match fuel with
  | 0 => ([], seen)
  | fuel + 1 =>
    let times := if most.isNone then min count least else count
    if seen.contains (p.pos, times) then ([], seen)
    else
      let seen := (p.pos, times) :: seen
      let next := if most.any (· ≤ count) then []
        else (ends foldsCase whole fuel body p).filter fun q => count < least || q.pos > p.pos
      let (found, seen) := next.foldl (fun (found, seen) q =>
        let (more, seen) := repeated foldsCase whole fuel least most body (count + 1) q seen
        (found ++ more, seen)) (([], seen) : List Place × List (Nat × Nat))
      (if least ≤ count then found ++ [p] else found, seen)

end

/-- A match: where it starts and ends, and its groups. -/
structure Hit where
  start : Nat
  stop : Nat
  groups : List (Nat × Nat × Nat)

/-- How much work one match may take. -/
def matchFuel (whole : List Char) : Nat := 2 * whole.length + 1000

/-- The longest match at a place. -/
def matchAt (r : Regex) (foldsCase : Bool) (whole : List Char) (p : Place) : Option Hit :=
  let found := r.ends foldsCase whole (matchFuel whole) p
  match found with
  | [] => none
  | q :: qs =>
    let best := qs.foldl (fun b q => if q.pos > b.pos then q else b) q
    some ⟨p.pos, best.pos, best.groups⟩

/-- The first match from a place on. -/
def findFrom (r : Regex) (foldsCase : Bool) (whole : List Char) : Nat → Place → Option Hit
  | 0, _ => none
  | n + 1, p =>
    match r.matchAt foldsCase whole p with
    | some hit => some hit
    | none => if p.after.isEmpty then none else findFrom r foldsCase whole n p.next

/-- The first match in a text from an offset on. -/
def find (r : Regex) (foldsCase : Bool) (text : List Char) (offset : Nat) : Option Hit :=
  r.findFrom foldsCase text (text.length + 1)
    ({ before := [], after := text, pos := 0 : Place }.skip offset)

end Regex

end ClassLens.Tool
