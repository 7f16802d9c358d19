import ClassLens.Shell.Command

/-! # Braces in words

In the extended language a word with a list or a range between braces stands for many words.

* `Braces.expand`: the words that a word stands for. -/

namespace ClassLens.Shell.Braces

/-- A character without quotes, or a part that stays as it is. -/
inductive Piece where
  | char (c : Char)
  | part (p : Part)

/-- The pieces of a word. -/
def ofWord (w : Word) : List Piece :=
  w.flatMap fun
    | .plain text => text.toList.map Piece.char
    | p => [.part p]

/-- The word of some pieces. -/
def toWord : List Piece → Word
  | [] => []
  | .char c :: ps =>
    match toWord ps with
    | .plain text :: w => .plain (String.singleton c ++ text) :: w
    | w => .plain (String.singleton c) :: w
  | .part p :: ps => p :: toWord ps

/-- Pieces up to the brace that closes them, between the commas among them, and what follows. -/
def choices : Nat → List Piece → List Piece → Option (List (List Piece) × List Piece)
  | _, _, [] => none
  | depth, found, p :: ps =>
    match p with
    | .char '\x7d' =>
      if depth = 0 then some ([found.reverse], ps) else choices (depth - 1) (p :: found) ps
    | .char '\x7b' => choices (depth + 1) (p :: found) ps
    | .char ',' =>
      if depth = 0 then (choices 0 [] ps).map fun (more, rest) => (found.reverse :: more, rest)
      else choices depth (p :: found) ps
    | p => choices depth (p :: found) ps

/-- The text of pieces that are characters. -/
def text? (ps : List Piece) : Option String :=
  (ps.mapM fun (p : Piece) => match p with
    | .char c => some c
    | .part _ => none).map String.ofList

/-- A whole number with a sign, and how many characters it has where zeros come first. -/
def number? (s : String) : Option (Int × Nat) :=
  let (negative, ds) := match s.toList with
    | '-' :: ds => (true, ds)
    | '+' :: ds => (false, ds)
    | ds => (false, ds)
  if ds.isEmpty || !ds.all Char.isDigit then none
  else
    let n : Nat := ds.foldl (fun n c => n * 10 + (c.toNat - 48)) 0
    let width := if ds.length > 1 && ds.head? == some '0' then s.length else 0
    some (if negative then -n else n, width)

/-- The numbers from one to another in steps. -/
def numbers (first last : Int) (step : Nat) : List Int :=
  let step := max step 1
  let count := (last - first).natAbs / step
  (List.range (count + 1)).map fun (i : Nat) =>
    if first ≤ last then first + (i * step : Nat) else first - (i * step : Nat)

/-- The decimal form of a number, with zeros before it up to a width. -/
def padded (width : Nat) (n : Int) : String :=
  let ds := toString n.natAbs
  let sign := if n < 0 then "-" else ""
  sign ++ String.ofList (List.replicate (width - ds.length - sign.length) '0') ++ ds

/-- The texts of a range between braces. -/
def range? (s : String) : Option (List String) :=
  let step? : Option (String × String × Nat) :=
    match s.splitOn ".." with
    | [a, b] => some (a, b, 1)
    | [a, b, c] => (number? c).map fun n => (a, b, n.1.natAbs)
    | _ => none
  match step? with
  | none => none
  | some (a, b, step) =>
    match number? a, number? b with
    | some (m, v), some (n, w) => some ((numbers m n step).map (padded (max v w)))
    | _, _ =>
      match a.toList, b.toList with
      | [c], [d] =>
        if c.isAlpha && d.isAlpha then
          some ((numbers c.toNat d.toNat step).map fun n => String.singleton (Char.ofNat n.toNat))
        else none
      | _, _ => none

/-- The rows of pieces that a row stands for. -/
def expandPieces : Nat → List Piece → List (List Piece)
  | 0, ps => [ps]
  | _ + 1, [] => [[]]
  | fuel + 1, p :: ps =>
    let kept : List (List Piece) := (expandPieces fuel ps).map (p :: ·)
    match p with
    | .char '\x7b' =>
      match choices 0 [] ps with
      | none => kept
      | some (found, rest) =>
        let texts : Option (List (List Piece)) :=
          match found with
          | [only] => ((text? only).bind range?).map fun ts => ts.map fun t => t.toList.map Piece.char
          | many => some (many.flatMap (expandPieces fuel))
        match texts with
        | none => kept
        | some texts =>
          let after := expandPieces fuel rest
          texts.flatMap fun t => after.map (t ++ ·)
    | _ => kept

/-- The words that a word stands for. -/
def expand (w : Word) : List Word :=
  let ps := ofWord w
  if ps.any fun | .char '\x7b' => true | _ => false then
    (expandPieces (ps.length + 1) ps).map toWord
  else [w]

end ClassLens.Shell.Braces
