import ClassLens.Shell.Pattern

/-! # Rich regular expressions

Expressions with repetitions that prefer more or less, with looks ahead and behind, and with groups that are
not given up again. Alternatives are tried in their order, and the first way in which the whole expression
matches counts.

* `Rich.find?`: the first match in a text from a place on.

A match is looked for with what is to follow it at hand, so that another way is tried where that fails. -/

namespace ClassLens.Tool

open Shell (inClass)

/-- A part of a set of characters. -/
inductive Letter where
  | range (low high : Char)
  /-- The characters of a class by its name, or all other ones. -/
  | kind (negated : Bool) (name : String)

/-- How a repetition is tried. -/
inductive Eagerness where
  | greedy
  | lazy
  /-- What was repeated is not given up again. -/
  | possessive
  deriving DecidableEq

/-- A condition of a choice. -/
inductive RichCondition where
  | hasGroup (n : Nat)
  | never

/-- A rich regular expression. -/
inductive Rich where
  | nothing
  | fails
  /-- One character of a set, or one that is not in it. -/
  | one (foldsCase negated : Bool) (letters : List Letter)
  | seq (first second : Rich)
  | either (first second : Rich)
  | many (least : Nat) (most : Option Nat) (eagerness : Eagerness) (body : Rich)
  | group (number : Nat) (body : Rich)
  /-- A group that is not given up again. -/
  | atomic (body : Rich)
  /-- A look at what follows or at what stands before. -/
  | look (ahead negated : Bool) (body : Rich)
  | again (foldsCase : Bool) (number : Nat)
  /-- The expression of a group, or the whole one for zero. -/
  | call (number : Nat)
  | choose (condition : RichCondition) (yes no : Rich)
  | textStart
  | textEnd
  /-- The end of the text, or the line break that ends it. -/
  | lastEnd
  | lineStart
  | lineEnd
  | wordEdge (wanted : Bool)
  /-- The place where the search started. -/
  | searchStart
  /-- The match starts here. -/
  | keep
  deriving Inhabited

namespace Rich

/-- Whether a character is in a class of a rich expression. -/
def inKind (name : String) (c : Char) : Bool :=
  match name with
  | "word" => c.isAlphanum || c == '_'
  | "ascii" => c.toNat < 128
  | "horizontal" => c == ' ' || c == '\t' || c.toNat == 0xA0
  | "vertical" => (10 ≤ c.toNat && c.toNat ≤ 13) || c.toNat == 0x85
  | "any" => true
  | name => inClass name c

/-- Whether a part of a set holds a character. -/
def Letter.holds (c : Char) : Letter → Bool
  | .range low high => low ≤ c && c ≤ high
  | .kind negated name => inKind name c != negated

/-- Whether a set holds a character. -/
def setHolds (foldsCase negated : Bool) (letters : List Letter) (c : Char) : Bool :=
  let among (c : Char) : Bool := letters.any (Letter.holds c)
  (if foldsCase then among c || among c.toLower || among c.toUpper else among c) != negated

/-- What a match is looked for in. -/
structure Subject where
  text : Array Char
  start : Nat
  whole : Rich
  groups : List (Nat × Rich)

/-- Where a match stands: a place, what groups have matched, and where the match starts. -/
structure Standing where
  pos : Nat
  groups : List (Nat × Nat × Nat) := []
  start : Nat

/-- Whether a character of a word stands at a place. -/
def wordAt (s : Subject) (i : Nat) : Bool := (s.text[i]?).any (inKind "word")

/-- How many characters of a set stand one after the other from a place on, up to a limit. -/
def runLength (s : Subject) (holds : Char → Bool) (limit : Nat) : Nat → Nat → Nat
  | 0, _ => 0
  | n + 1, i =>
    if limit = 0 then 0
    else
      match s.text[i]? with
      | some c => if holds c then runLength s holds (limit - 1) n (i + 1) + 1 else 0
      | none => 0

/-- The first of some counts for which what follows matches. -/
def firstOf (k : Nat → Option Standing) : List Nat → Option Standing
  | [] => none
  | n :: ns => (k n).orElse fun _ => firstOf k ns

/-- Tries counts from a greater one down to a smaller one. -/
def tryDown (k : Nat → Option Standing) (least : Nat) : Nat → Option Standing
  | 0 => if least = 0 then k 0 else none
  | n + 1 => if n + 1 < least then none else (k (n + 1)).orElse fun _ => tryDown k least n

/-- Tries counts from a smaller one up, so many of them. -/
def tryUp (k : Nat → Option Standing) : Nat → Nat → Option Standing
  | 0, n => k n
  | left + 1, n => (k n).orElse fun _ => tryUp k left (n + 1)

/-- The text of a group. -/
def Standing.group? (p : Standing) (n : Nat) : Option (Nat × Nat) :=
  (p.groups.find? fun g => g.1 == n).map Prod.snd

/-- Whether the text between two places stands at a third one. -/
def repeatsAt (s : Subject) (foldsCase : Bool) (start stop pos : Nat) : Bool :=
  pos + (stop - start) ≤ s.text.size &&
    (List.range (stop - start)).all fun i =>
      match s.text[start + i]?, s.text[pos + i]? with
      | some a, some b => a == b || (foldsCase && a.toLower == b.toLower)
      | _, _ => false

mutual

/-- Matches an expression from a place on, and what follows it after that. -/
def run (s : Subject) (fuel : Nat) (r : Rich) (p : Standing) (k : Standing → Option Standing) :
    Option Standing :=
  match fuel with
  | 0 => none
  | fuel + 1 =>
    match r with
    | nothing => k p
    | fails => none
    | one foldsCase negated letters =>
      match s.text[p.pos]? with
      | some c => if setHolds foldsCase negated letters c then k { p with pos := p.pos + 1 } else none
      | none => none
    | seq a b => run s fuel a p fun q => run s fuel b q k
    | either a b => (run s fuel a p k).orElse fun _ => run s fuel b p k
    | many least most eagerness (one foldsCase negated letters) =>
      let limit := most.getD (s.text.size + 1)
      let n := runLength s (setHolds foldsCase negated letters) limit (s.text.size + 1) p.pos
      let follow (n : Nat) : Option Standing := k { p with pos := p.pos + n }
      if n < least then none
      else
        match eagerness with
        | .possessive => follow n
        | .greedy => tryDown follow least n
        | .lazy => tryUp follow (n - least) least
    | many least most .possessive body =>
      match repeated s fuel least most .greedy body 0 p some with
      | some q => k q
      | none => none
    | many least most eagerness body => repeated s fuel least most eagerness body 0 p k
    | group n body =>
      run s fuel body p fun q =>
        k { q with groups := (n, p.pos, q.pos) :: q.groups.filter fun g => g.1 != n }
    | atomic body =>
      match run s fuel body p some with
      | some q => k q
      | none => none
    | look true negated body =>
      match run s fuel body p some with
      | some q => if negated then none else k { q with pos := p.pos }
      | none => if negated then k p else none
    | look false negated body =>
      let back (n : Nat) : Option Standing :=
        if n > p.pos then none
        else run s fuel body { p with pos := p.pos - n } fun q => if q.pos = p.pos then some q else none
      match tryUp back p.pos 0 with
      | some q => if negated then none else k { q with pos := p.pos, start := p.start }
      | none => if negated then k p else none
    | again foldsCase n =>
      match p.group? n with
      | some (start, stop) =>
        if repeatsAt s foldsCase start stop p.pos then k { p with pos := p.pos + (stop - start) } else none
      | none => none
    | call n =>
      let body := if n = 0 then s.whole else (s.groups.lookup n).getD fails
      match run s fuel body p some with
      | some q => k { q with groups := p.groups }
      | none => none
    | choose condition yes no =>
      let holds := match condition with
        | .hasGroup n => (p.group? n).isSome
        | .never => false
      run s fuel (if holds then yes else no) p k
    | textStart => if p.pos = 0 then k p else none
    | textEnd => if p.pos = s.text.size then k p else none
    | lastEnd =>
      if p.pos = s.text.size || (p.pos + 1 = s.text.size && s.text[p.pos]? == some '\n') then k p else none
    | lineStart =>
      if p.pos = 0 || (p.pos < s.text.size && s.text[p.pos - 1]? == some '\n') then k p else none
    | lineEnd => if p.pos = s.text.size || s.text[p.pos]? == some '\n' then k p else none
    | wordEdge wanted =>
      let edge := (p.pos > 0 && wordAt s (p.pos - 1)) != wordAt s p.pos
      if edge == wanted then k p else none
    | searchStart => if p.pos = s.start then k p else none
    | keep => k { p with start := p.pos }

/-- Repeats an expression, `count` times having come before. What matched nothing is not repeated again. -/
def repeated (s : Subject) (fuel : Nat) (least : Nat) (most : Option Nat) (eagerness : Eagerness)
    (body : Rich) (count : Nat) (p : Standing) (k : Standing → Option Standing) : Option Standing :=
  match fuel with
  | 0 => none
  | fuel + 1 =>
    let more (_ : Unit) : Option Standing :=
      if most.any (· ≤ count) then none
      else
        run s fuel body p fun q =>
          if q.pos = p.pos && count ≥ least then (if eagerness = .lazy then none else k q)
          else repeated s fuel least most eagerness body (count + 1) q k
    if count < least then more ()
    else if eagerness = .lazy then (k p).orElse more
    else (more ()).orElse fun _ => k p

end

/-- The groups of an expression with their bodies. -/
def groupsOf : Rich → List (Nat × Rich)
  | group n body => (n, body) :: groupsOf body
  | seq a b | either a b | choose _ a b => groupsOf a ++ groupsOf b
  | many _ _ _ body | atomic body | look _ _ body => groupsOf body
  | _ => []

/-- A match: where it starts and ends, and its groups. -/
structure Found where
  start : Nat
  stop : Nat
  groups : List (Nat × Nat × Nat)

/-- How deep a match may go. -/
def matchDepth (text : Array Char) : Nat := 8 * text.size + 10000

/-- The match at a place; with `mayBeEmpty` it may have no characters. -/
def matchAt? (r : Rich) (text : Array Char) (start pos : Nat) (mayBeEmpty : Bool) : Option Found :=
  let s : Subject := { text, start, whole := r, groups := groupsOf r }
  let finish (q : Standing) : Option Standing :=
    if !mayBeEmpty && q.pos = q.start then none else some q
  (run s (matchDepth text) r { pos, start := pos } finish).map fun q => ⟨q.start, q.pos, q.groups⟩

/-- The first match from a place on. -/
def findFrom? (r : Rich) (text : Array Char) (start : Nat) (mayBeEmpty : Bool) : Nat → Nat → Option Found
  | 0, _ => none
  | n + 1, pos =>
    match r.matchAt? text start pos mayBeEmpty with
    | some found => some found
    | none => if pos ≥ text.size then none else findFrom? r text start mayBeEmpty n (pos + 1)

/-- The first match in a text from a place on; with `mayBeEmpty` it may have no characters. -/
def find? (r : Rich) (text : Array Char) (start : Nat) (mayBeEmpty : Bool) : Option Found :=
  r.findFrom? text start mayBeEmpty (text.size + 1) start

/-- The only number of characters that an expression matches, if there is one. -/
def width? : Rich → Option Nat
  | nothing | fails | look .. | textStart | textEnd | lastEnd | lineStart | lineEnd | wordEdge _ | searchStart
  | keep => some 0
  | one .. => some 1
  | seq a b => do return (← width? a) + (← width? b)
  | either a b | choose _ a b => do
    let m ← width? a
    if some m = width? b then some m else none
  | many least most _ body => do
    if most = some least then return least * (← width? body) else none
  | group _ body | atomic body => width? body
  | again .. | call _ => none

end Rich

end ClassLens.Tool
