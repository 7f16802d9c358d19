import ClassLens.Tool.Basic

/-! # Replacing characters

`tr`: characters of one set are replaced by those at the same places of another one, taken away, or
written once where they stand in a row.

* `CharSet.parse`: the characters that a text lists.
* `translate`: the effect on a text. -/

namespace ClassLens.Tool

open Shell

namespace CharSet

/-- An entry of a set. -/
inductive Entry where
  | one (c : Char)
  | range (first last : Char)
  | named (name : String)
  /-- The characters that are equal to one. -/
  | equal (c : Char)
  /-- A character that is repeated; without a number, as often as there is room. -/
  | filled (c : Char) (count : Nat)

/-- A character after a backslash, and what follows it. -/
def escape (s : List Char) : Char × List Char :=
  match s with
  | [] => ('\\', [])
  | c :: rest =>
    let ds := (s.take 3).takeWhile fun c => '0' ≤ c && c ≤ '7'
    let value := ds.foldl (fun n c => n * 8 + (c.toNat - 48)) 0
    if !ds.isEmpty then
      if value < 256 then (Char.ofNat value, s.drop ds.length)
      else
        let two := ds.take 2
        (Char.ofNat (two.foldl (fun n c => n * 8 + (c.toNat - 48)) 0), s.drop 2)
    else
      match c with
      | 'n' => ('\n', rest)
      | 't' => ('\t', rest)
      | 'r' => ('\r', rest)
      | 'a' => ('\x07', rest)
      | 'b' => ('\x08', rest)
      | 'f' => ('\x0c', rest)
      | 'v' => ('\x0b', rest)
      | c => (c, rest)

/-- The characters of a text with the marks of those that a backslash quotes. -/
def marked : Nat → List Char → List (Char × Bool)
  | 0, _ => []
  | _ + 1, [] => []
  | n + 1, '\\' :: s =>
    let (c, rest) := escape s
    (c, true) :: marked n rest
  | n + 1, c :: s => (c, false) :: marked n s

/-- The entries of marked characters. -/
def entries : Nat → List (Char × Bool) → Except String (List Entry)
  | 0, _ => .ok []
  | _ + 1, [] => .ok []
  | n + 1, s =>
    let more (e : Entry) (rest : List (Char × Bool)) : Except String (List Entry) :=
      (entries n rest).map (e :: ·)
    match s with
    | ('[', false) :: (':', false) :: rest =>
      let name := rest.takeWhile fun m => m.1 != ':'
      match rest.drop name.length with
      | (':', false) :: (']', false) :: after =>
        let text := String.ofList (name.map Prod.fst)
        if ["alpha", "digit", "alnum", "upper", "lower", "space", "blank", "punct", "cntrl", "print",
            "graph", "xdigit"].contains text then more (.named text) after
        else if text = "" then .error "missing character class name '[::]'"
        else .error ("invalid character class " ++ quoted text)
      | _ => more (.one '[') ((':', false) :: rest)
    | ('[', false) :: ('=', false) :: (c, _) :: ('=', false) :: (']', false) :: rest => more (.equal c) rest
    | ('[', false) :: (c, q) :: ('*', false) :: rest =>
      let ds := rest.takeWhile fun m => m.1.isDigit
      match rest.drop ds.length with
      | (']', false) :: after =>
        let base := if ds.head?.any fun m => m.1 == '0' then 8 else 10
        more (.filled c (ds.foldl (fun n m => n * base + (m.1.toNat - 48)) 0)) after
      | _ =>
        let count := rest.takeWhile fun m => m != (']', false)
        if count.length < rest.length then
          .error ("invalid repeat count " ++ quoted (String.ofList (count.map Prod.fst)) ++
            " in [c*n] construct")
        else more (.one '[') ((c, q) :: ('*', false) :: rest)
    | (a, _) :: ('-', false) :: (b, _) :: rest =>
      if b < a then
        .error ("range-endpoints of '" ++ String.ofList [a, '-', b] ++
          "' are in reverse collating sequence order")
      else more (.range a b) rest
    | (c, _) :: rest => more (.one c) rest
    | [] => .ok []

/-- The entries of a text. -/
def parse (text : String) : Except String (List Entry) :=
  entries (text.length + 1) (marked (text.length + 1) text.toList)

/-- All bytes in order. -/
def allChars : List Char := (List.range 256).map Char.ofNat

/-- The characters of an entry, where `room` is left for one that fills up. -/
def Entry.chars (room : Nat) : Entry → List Char
  | one c | equal c => [c]
  | range a b => (List.range (b.toNat + 1 - a.toNat)).map fun n => Char.ofNat (a.toNat + n)
  | named name => allChars.filter (inClass name)
  | filled c count => List.replicate (if count = 0 then room else count) c

/-- The characters of a set that is to have so many ones. -/
def chars (wanted : Nat) (es : List Entry) : List Char :=
  let fixed := (es.flatMap (Entry.chars 0)).length
  es.flatMap (Entry.chars (wanted - fixed))

/-- Whether an entry is a class that letters change between. -/
def Entry.isCase : Entry → Bool
  | named name => name = "upper" || name = "lower"
  | _ => false

/-- The places in a set at which a class of letters of one case starts. -/
def casePlaces (es : List Entry) (room : Nat) : List Nat :=
  (es.foldl (fun (places, n) e =>
    ((if e.isCase then places ++ [n] else places), n + (e.chars room).length))
    (([], 0) : List Nat × Nat)).1

/-- What is wrong with two sets. The second one is there only if there are two of them. -/
def fault? (translates complements truncates : Bool) (one : List Entry) (oldCount : Nat)
    (two : Option (List Entry)) : Option String :=
  let isIndefinite (e : Entry) : Bool := e matches .filled _ 0
  if one.any isIndefinite then some "the [c*] repeat construct may not appear in string1"
  else
    match two with
    | none => none
    | some es =>
      if (es.filter isIndefinite).length > 1 then
        some "only one [c*] repeat construct may appear in string2"
      else if !translates then
        if es.any isIndefinite then some "the [c*] construct may appear in string2 only when translating"
        else none
      else if es.any fun e => e matches .equal _ then
        some "[=c=] expressions may not appear in string2 when translating"
      else if es.any fun e => (e matches .named _) && !e.isCase then
        some ("when translating, the only character classes that may appear in\n" ++
          "string2 are 'upper' and 'lower'")
      else
        let count := (chars oldCount es).length
        let room := oldCount - (es.flatMap (Entry.chars 0)).length
        let aligned := casePlaces one 0
        if !complements && (casePlaces es room).any fun n => n ≤ oldCount && !aligned.contains n then
          some "misaligned [:upper:] and/or [:lower:] construct"
        else if oldCount > count && !truncates && count = 0 then
          some "when not truncating set1, string2 must be non-empty"
        else if oldCount > count && !truncates && es.getLast?.any Entry.isCase then
          some ("when translating with string1 longer than string2,\n" ++
            "the latter string must not end with a character class")
        else if complements && (one.any fun e => e matches .named _) &&
            (chars oldCount es).eraseDups.length != 1 then
          some ("when translating with complemented character classes,\n" ++
            "string2 must map all characters in the domain to one")
        else none

end CharSet

/-- What is done with characters: each one by its number. -/
structure Translation where
  replaces : Array Char
  drops : List Char
  joins : List Char

/-- The effect of a translation on a text. -/
def translate (t : Translation) (text : String) : String :=
  let kept := if t.drops.isEmpty then text.toList else text.toList.filter fun c => !t.drops.contains c
  let new := kept.map fun c => (t.replaces[c.toNat]?).getD c
  if t.joins.isEmpty then String.ofList new
  else
    let out := new.foldl (fun (out : List Char) c =>
      if out.head? == some c && t.joins.contains c then out else c :: out) []
    String.ofList out.reverse

/-- Replaces characters of the input. -/
def tr : Tool := fun self args =>
  let o : Options := { flags := "cCdst".toList, names := [("complement", 'c'), ("delete", 'd'),
    ("squeeze-repeats", 's'), ("truncate-set1", 't')] }
  let hint := "Try '" ++ self ++ " --help' for more information.\n"
  o.readFirst self args 1 fun g => do
    let deletes := g.has 'd'
    let squeezes := g.has 's'
    let least := if deletes == squeezes then 2 else 1
    let most := if deletes && !squeezes then 1 else 2
    match g.operands with
    | [] => usage self "missing operand" 1
    | first :: rest =>
      if rest.length + 1 < least then
        complain self ("missing operand after " ++ quoted first)
        tell (if squeezes then "Two strings must be given when both deleting and squeezing repeats.\n"
          else "Two strings must be given when translating.\n")
        tell hint
        return 1
      else if rest.length + 1 > most then
        complain self ("extra operand " ++ quoted ((g.operands[most]?).getD ""))
        if most = 1 ∧ rest.length = 1 then
          tell "Only one string may be given when deleting without squeezing repeats.\n"
        tell hint
        return 1
      else
        let complements := g.has 'c' || g.has 'C'
        match CharSet.parse first, rest.head?.map CharSet.parse with
        | .error e, _ | _, some (.error e) =>
          complain self e
          return 1
        | .ok one, two =>
          let old := CharSet.chars 0 one
          let old := if complements then CharSet.allChars.filter fun c => !old.contains c else old
          let new := match two with
            | some (.ok es) => CharSet.chars old.length es
            | _ => []
          let translates := !deletes && two.isSome
          let two? := two.bind Except.toOption
          if let some e := CharSet.fault? translates complements (g.has 't') one old.length two? then
            complain self e
            return 1
          let last := new.getLast?.getD ' '
          let pairs := (List.range old.length).filterMap fun i =>
            match old[i]?, new[i]? with
            | some a, some b => some (a, b)
            | some a, none => if g.has 't' then none else some (a, last)
            | none, _ => none
          let replaces := if translates then
              pairs.foldl (fun (t : Array Char) p => t.set! p.1.toNat p.2) CharSet.allChars.toArray
            else #[]
          let t : Translation := {
            replaces
            drops := if deletes then old else []
            joins := if squeezes then (if two.isSome then new else old) else [] }
          say (translate t (← readAll 0))
          return 0

end ClassLens.Tool
