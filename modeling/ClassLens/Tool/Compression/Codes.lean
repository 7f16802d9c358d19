/-! # Prefix codes

Compressed blocks are written with prefix codes: symbols that are frequent have short codes. A code is
given by the lengths alone, since codes of one length follow each other in the order of their symbols.

* `codesOf`: the codes of some lengths.
* `Code.ofLengths?`: the code of some lengths as a reader uses it, if they make one.
* `lengthParts`, `distanceParts`: the symbols for lengths and distances, with the bits that follow them. -/

namespace ClassLens.Tool.Compression

/-- The longest code of a symbol. -/
def maxLength : Nat := 15

/-- How many bits follow each symbol for a length. -/
def lengthExtra : Array Nat :=
  #[0, 0, 0, 0, 0, 0, 0, 0, 1, 1, 1, 1, 2, 2, 2, 2, 3, 3, 3, 3, 4, 4, 4, 4, 5, 5, 5, 5, 0]

/-- The least length of each symbol. -/
def lengthBase : Array Nat :=
  #[3, 4, 5, 6, 7, 8, 9, 10, 11, 13, 15, 17, 19, 23, 27, 31, 35, 43, 51, 59, 67, 83, 99, 115, 131, 163, 195,
    227, 258]

/-- How many bits follow each symbol for a distance. -/
def distanceExtra : Array Nat :=
  #[0, 0, 0, 0, 1, 1, 2, 2, 3, 3, 4, 4, 5, 5, 6, 6, 7, 7, 8, 8, 9, 9, 10, 10, 11, 11, 12, 12, 13, 13]

/-- The least distance of each symbol. -/
def distanceBase : Array Nat :=
  #[1, 2, 3, 4, 5, 7, 9, 13, 17, 25, 33, 49, 65, 97, 129, 193, 257, 385, 513, 769, 1025, 1537, 2049, 3073, 4097,
    6145, 8193, 12289, 16385, 24577]

/-- How many bits follow the symbols that stand for repeated lengths of codes. -/
def repeatExtra : Array Nat := #[0, 0, 0, 0, 0, 0, 0, 0, 0, 0, 0, 0, 0, 0, 0, 0, 2, 3, 7]

/-- The order in which the lengths of the code for lengths are written. -/
def lengthOrder : List Nat := [16, 17, 18, 0, 8, 7, 9, 6, 10, 5, 11, 4, 12, 3, 13, 2, 14, 1, 15]

/-- The last entry of a table that is at most a number, by its place. -/
def placeIn (base : Array Nat) (n : Nat) : Nat :=
  (List.range base.size).foldl (fun k i => if base.getD i 0 ≤ n then i else k) 0

/-- The symbol of a length, counted from the first one for lengths, and the number that follows it. -/
def lengthParts (n : Nat) : Nat × Nat :=
  let k := placeIn lengthBase n
  (k, n - lengthBase.getD k 0)

/-- The symbol of a distance and the number that follows it. -/
def distanceParts (n : Nat) : Nat × Nat :=
  let k := placeIn distanceBase n
  (k, n - distanceBase.getD k 0)

/-- The lengths of the fixed code for bytes and lengths. -/
def fixedLengths : Array Nat :=
  Array.replicate 144 8 ++ Array.replicate 112 9 ++ Array.replicate 24 7 ++ Array.replicate 8 8

/-- The lengths of the fixed code for distances. -/
def fixedDistances : Array Nat := Array.replicate 30 5

/-- How many symbols have a code of each length. -/
def countsOf (lengths : Array Nat) : Array Nat :=
  lengths.foldl (fun counts n => if n = 0 then counts else counts.modify n (· + 1))
    (Array.replicate (maxLength + 1) 0)

/-- The first code of each length. -/
def firstCodes (counts : Array Nat) : Array Nat :=
  ((List.range (maxLength + 1)).foldl (fun (codes, code) n =>
    let code := (code + (if n = 0 then 0 else counts.getD (n - 1) 0)) * 2
    (codes.push code, code)) ((#[], 0) : Array Nat × Nat)).1

/-- A number of so many bits, the other way round. -/
def reversedBits : Nat → Nat → Nat
  | 0, _ => 0
  | width + 1, n => (n % 2) * Nat.pow 2 width + reversedBits width (n / 2)

/-- The codes of some lengths, their first bit being the lowest one. -/
def codesOf (lengths : Array Nat) : Array Nat :=
  (lengths.foldl (fun (codes, next) n =>
    if n = 0 then (codes.push 0, next)
    else (codes.push (reversedBits n (next.getD n 0)), next.modify n (· + 1)))
    ((#[], firstCodes (countsOf lengths)) : Array Nat × Array Nat)).1

/-- A code as a reader uses it: how many codes each length has, and the symbols in the order of their
codes. The reader looks at `ahead` bits at once. -/
structure Code where
  counts : Array Nat
  symbols : Array Nat
  ahead : Nat

/-- The code of some lengths, of which `ahead` bits are read at once unless all codes are longer or shorter. There
is none if two codes would be in each other's way, or if some bits would be no code, unless just one bit is
ever read. -/
def Code.ofLengths? (ahead : Nat) (lengths : Array Nat) : Option Code :=
  let counts := countsOf lengths
  let used := (List.range (maxLength + 1)).filter fun n => counts.getD n 0 ≠ 0
  let longest := used.getLast?.getD 0
  let taken := used.foldl (fun sum n => sum + counts.getD n 0 * Nat.pow 2 (maxLength - n)) 0
  let room := Nat.pow 2 maxLength
  if taken = room ∨ (taken < room ∧ longest ≤ 1) then
    let symbols := used.foldl (fun (symbols : Array Nat) n =>
      (List.range lengths.size).foldl (fun symbols s => if lengths.getD s 0 = n then symbols.push s else symbols)
        symbols) #[]
    some ⟨counts, symbols, min longest (max ahead (used.head?.getD 0))⟩
  else none

/-- The fixed code for distances, of which two codes stand for nothing. -/
def Code.ofFixedDistances : Code := ⟨countsOf fixedDistances, Array.range 30, 5⟩

end ClassLens.Tool.Compression
