import ClassLens.Tool.Compression.Codes

/-! # Writing compressed blocks

Bytes are written as pieces: a byte, or a copy of bytes that stand before. The places at which the same three
bytes stand are kept in chains, which are searched from the nearest place on. The lengths of a code for the
pieces are found by joining the two rarest symbols again and again. Which two of equally rare ones are joined
depends on a heap, in which the shallower tree comes first.

* `lengthsFor`: the lengths of the code for some frequencies.
* `Effort`: how long one searches.
* `Search.run`: the blocks of pieces that stand for some bytes.
* `deflate`: the blocks for some bytes. Each one is written in the shortest of three ways: as it is, with the
  fixed codes, or with codes of its own. -/

namespace ClassLens.Tool.Compression

/-! ## Short codes for frequent symbols -/

/-- Trees in a heap, whose first place is not used: how often each one occurs and how deep it is. -/
structure Heap where
  frequencies : Array Nat
  depths : Array Nat
  places : Array Nat := #[0]

namespace Heap

/-- Whether a tree comes before another one. -/
def precedes (h : Heap) (a b : Nat) : Bool :=
  let x := h.frequencies.getD a 0
  let y := h.frequencies.getD b 0
  x < y || (x == y && h.depths.getD a 0 ≤ h.depths.getD b 0)

/-- Lets the tree `v` sink from the place `k`. -/
def sinkFrom (h : Heap) (v k : Nat) : Nat → Heap
  | 0 => { h with places := h.places.set! k v }
  | fuel + 1 =>
    let last := h.places.size - 1
    let left := 2 * k
    if left > last then { h with places := h.places.set! k v }
    else
      let j :=
        if left < last && h.precedes (h.places.getD (left + 1) 0) (h.places.getD left 0) then left + 1 else left
      let child := h.places.getD j 0
      if h.precedes v child then { h with places := h.places.set! k v }
      else sinkFrom { h with places := h.places.set! k child } v j fuel

/-- Lets the tree at a place sink. -/
def sink (h : Heap) (k : Nat) : Heap := h.sinkFrom (h.places.getD k 0) k h.places.size

/-- Joins the first two trees until one is left. Gives the parent of each tree, and the trees from the root to
the one that was joined first. -/
def joinAll (h : Heap) (parents : Array Nat) (order : List Nat) : Nat → Array Nat × List Nat
  | 0 => (parents, order)
  | fuel + 1 =>
    if h.places.size < 3 then (parents, (h.places.getD 1 0) :: order)
    else
      let n := h.places.getD 1 0
      let last := h.places.back?.getD 0
      let h := { h with places := (h.places.pop).set! 1 last }.sink 1
      let m := h.places.getD 1 0
      let node := h.frequencies.size
      let h := { h with
        frequencies := h.frequencies.push (h.frequencies.getD n 0 + h.frequencies.getD m 0)
        depths := h.depths.push (max (h.depths.getD n 0) (h.depths.getD m 0) + 1)
        places := h.places.set! 1 node }
      joinAll (h.sink 1) ((parents.set! n node).set! m node) (m :: n :: order) fuel

end Heap

/-- A code for some frequencies: the lengths, and the last symbol that has a code. -/
structure Tree where
  lengths : Array Nat
  last : Nat

/-- The counts of lengths after codes that are too long were made shorter: `excess` of them stand at
the greatest length, and for two of them a shorter code becomes longer. -/
def shorten (limit : Nat) (counts : Array Nat) (excess : Nat) : Nat → Array Nat
  | 0 => counts
  | fuel + 1 =>
    if excess = 0 then counts
    else
      let bits := ((List.range limit).filter fun n => counts.getD n 0 ≠ 0).getLast?.getD 0
      let counts := ((counts.modify bits (· - 1)).modify (bits + 1) (· + 2)).modify limit (· - 1)
      shorten limit counts (excess - 2) fuel

/-- The lengths of a code for some frequencies, no code being longer than `limit`. At least two symbols
get a code. -/
def lengthsFor (limit : Nat) (frequencies : Array Nat) : Tree :=
  let elements := frequencies.size
  let used := (List.range elements).filter fun n => frequencies.getD n 0 ≠ 0
  let last := used.getLast?
  let forced : List Nat := match used, last with
    | [], _ => [0, 1]
    | [_], some n => if n < 2 then [n + 1] else [0]
    | _, _ => []
  let last := max (last.getD 0) (forced.getLast?.getD 0)
  let frequencies := forced.foldl (fun f n => f.set! n 1) frequencies
  let h : Heap := { frequencies, depths := Array.replicate elements 0, places := (0 :: used ++ forced).toArray }
  let count := h.places.size - 1
  let h := (List.range (count / 2)).foldl (fun h k => h.sink (count / 2 - k)) h
  let (parents, order) := h.joinAll (Array.replicate (2 * elements) 0) [] (elements + 1)
  -- each tree is one deeper than its parent, unless that is too deep
  let (depths, excess) := order.tail.foldl (fun (depths, excess) n =>
    let depth := depths.getD (parents.getD n 0) 0 + 1
    if depth > limit then (depths.set! n limit, excess + 1) else (depths.set! n depth, excess))
    ((Array.replicate (2 * elements) 0, 0) : Array Nat × Nat)
  let leaves := order.filter (· < elements)
  if excess = 0 then ⟨depths.extract 0 elements, last⟩
  else
    let counts := leaves.foldl (fun (counts : Array Nat) n => counts.modify (depths.getD n 0) (· + 1))
      (Array.replicate (limit + 1) 0)
    let counts := shorten limit counts excess elements
    -- the rarest symbols get the longest codes
    let wanted := (List.range limit).flatMap fun k => List.replicate (counts.getD (limit - k) 0) (limit - k)
    let lengths := (leaves.reverse.zip wanted).foldl (fun (lengths : Array Nat) (n, bits) => lengths.set! n bits)
      (Array.replicate elements 0)
    ⟨lengths, last⟩

/-- How many bits are written for some frequencies: the code of each symbol and those that follow it. -/
def Tree.cost (lengths frequencies extra : Array Nat) (base : Nat) : Nat :=
  (List.range frequencies.size).foldl (fun sum n =>
    sum + frequencies.getD n 0 * (lengths.getD n 0 + (if n < base then 0 else extra.getD (n - base) 0))) 0

/-! ## Finding what is repeated -/

/-- A piece of what is written. -/
inductive Piece where
  | byte (b : UInt8)
  | copy (length distance : Nat)

/-- The pieces that are written as one block, and where the bytes begin and end for which they stand. -/
structure Block where
  pieces : Array Piece := #[]
  start : Nat := 0
  stop : Nat := 0
  isLast : Bool := false

/-- How long one searches. -/
structure Effort where
  /-- A match of this length makes the search for a better one shorter. -/
  good : Nat
  /-- No better match is looked for at the next byte after a match of this length; where nothing is deferred,
  the places in a longer match are not kept. -/
  lazy : Nat
  /-- A match of this length is taken at once. -/
  nice : Nat
  /-- How many places are looked at. -/
  chain : Nat
  /-- Whether a match is deferred to see whether the next byte begins a longer one. -/
  defers : Bool
  /-- Whether a block may end early where it compresses well. -/
  splits : Bool

/-- The effort of a level. -/
def Effort.ofLevel : Nat → Effort
  | 1 => ⟨4, 4, 8, 4, false, false⟩
  | 2 => ⟨4, 5, 16, 8, false, false⟩
  | 3 => ⟨4, 6, 32, 32, false, true⟩
  | 4 => ⟨4, 4, 16, 16, true, true⟩
  | 5 => ⟨8, 16, 32, 32, true, true⟩
  | 6 => ⟨8, 16, 128, 128, true, true⟩
  | 7 => ⟨8, 32, 128, 256, true, true⟩
  | 8 => ⟨32, 128, 258, 1024, true, true⟩
  | _ => ⟨32, 258, 258, 4096, true, true⟩

/-- The least and the greatest length of a match. -/
def minMatch : Nat := 3
def maxMatch : Nat := 258

/-- The greatest distance of a match, and the distance from which on the shortest matches are not worth it. -/
def maxDistance : Nat := 32506
def tooFar : Nat := 4096

/-- How many pieces a block has at most. -/
def blockLimit : Nat := 32767

/-- A search for matches. -/
structure Search where
  /-- The last place of each key, zero for none, and the one before each place. -/
  heads : Array Nat
  before : Array Nat
  /-- The byte that is next. -/
  place : Nat := 0
  /-- The match that is deferred: its length and where it begins. -/
  length : Nat := 2
  origin : Nat := 0
  /-- Whether the byte before is not yet written. -/
  isPending : Bool := false
  /-- The block that is made, with the number of its copies and the bits that distances may take. -/
  block : Block := {}
  copies : Nat := 0
  distanceBits : Nat := 0
  done : Array Block := #[]

namespace Search

/-- The byte at a place, zero after the end. -/
def byteAt (data : Array UInt8) (k : Nat) : UInt8 := data.getD k 0

/-- The key of the three bytes at a place. -/
def keyAt (data : Array UInt8) (k : Nat) : Nat :=
  ((byteAt data k).toNat * 1024 ^^^ (byteAt data (k + 1)).toNat * 32 ^^^ (byteAt data (k + 2)).toNat) % 32768

/-- Keeps a place; gives the last one with the same key. -/
def keep (data : Array UInt8) (s : Search) (k : Nat) : Search × Nat :=
  let key := keyAt data k
  let last := s.heads.getD key 0
  ({ s with heads := s.heads.set! key k, before := s.before.set! k last }, last)

/-- Keeps some places from one on. -/
def keepFrom (data : Array UInt8) (s : Search) (k : Nat) : Nat → Search
  | 0 => s
  | n + 1 => keepFrom data (keep data s k).1 (k + 1) n

/-- How many bytes are the same at two places, from the offset `n` on. -/
def sameFrom (data : Array UInt8) (a b n : Nat) : Nat → Nat
  | 0 => n
  | fuel + 1 => if byteAt data (a + n) == byteAt data (b + n) then sameFrom data a b (n + 1) fuel else n

/-- Looks for a match at `place` that is longer than `best` along the chain that begins at `k`. Gives its length
and where it begins. -/
def longest (data : Array UInt8) (before : Array Nat) (nice place limit : Nat) :
    Nat → Nat → Nat × Nat → Nat × Nat
  | 0, _, found => found
  | chain + 1, k, (best, origin) =>
    let isBetter := byteAt data (k + best) == byteAt data (place + best)
    let n := if isBetter then sameFrom data k place 0 maxMatch else 0
    let found := if n > best then (n, k) else (best, origin)
    if n > best && n ≥ nice then found
    else
      let next := before.getD k 0
      if next > limit then longest data before nice place limit chain next found else found

/-- Looks for a match at the next byte. -/
def findMatch (data : Array UInt8) (e : Effort) (s : Search) (head previous : Nat) : Nat × Nat :=
  let limit := s.place - maxDistance
  let chain := if previous ≥ e.good then e.chain / 4 else e.chain
  let (n, origin) := longest data s.before e.nice s.place limit chain head (previous, s.origin)
  (min n (data.size - s.place), origin)

/-- Whether the block is to end: it is full, or it is long enough and has compressed well so far. -/
def isFull (e : Effort) (s : Search) : Bool :=
  let n := s.block.pieces.size
  let guess := (n * 8 + s.distanceBits) / 8
  (e.splits && n % 4096 == 0 && s.copies < n / 2 && guess < (s.place - s.block.start) / 2) ||
    n == blockLimit || s.copies == blockLimit + 1

/-- Writes a piece; whether the block is to end after it. -/
def write (e : Effort) (s : Search) (p : Piece) : Search × Bool :=
  let block := s.block
  let s := { s with block := {} }
  let s := { s with block := { block with pieces := block.pieces.push p } }
  let s := match p with
    | .byte _ => s
    | .copy _ distance =>
      { s with
        copies := s.copies + 1
        distanceBits := s.distanceBits + 5 + distanceExtra.getD (distanceParts distance).1 0 }
  (s, s.isFull e)

/-- Ends the block before a place. -/
def endBlock (s : Search) (stop : Nat) (isLast : Bool) : Search :=
  { s with
    done := s.done.push { s.block with stop, isLast }
    block := { start := stop }
    copies := 0
    distanceBits := 0 }

/-- A step that takes a match at once. -/
def eager (data : Array UInt8) (e : Effort) (s : Search) : Search :=
  let (s, head) := keep data s s.place
  let (n, origin) :=
    if head ≠ 0 ∧ s.place - head ≤ maxDistance then findMatch data e s head (minMatch - 1) else (0, 0)
  let (s, isFull) :=
    if n ≥ minMatch then
      let (s, isFull) := s.write e (.copy n (s.place - origin))
      let s := if n ≤ e.lazy then keepFrom data s (s.place + 1) (n - 1) else s
      ({ s with place := s.place + n }, isFull)
    else
      let (s, isFull) := s.write e (.byte (byteAt data s.place))
      ({ s with place := s.place + 1 }, isFull)
  if isFull then s.endBlock s.place false else s

/-- A step that defers a match. -/
def deferring (data : Array UInt8) (e : Effort) (s : Search) : Search :=
  let (s, head) := keep data s s.place
  let previous := s.length
  let origin := s.origin
  let (n, found) :=
    if head ≠ 0 ∧ previous < e.lazy ∧ s.place - head ≤ maxDistance then
      let (n, found) := findMatch data e s head previous
      (if n = minMatch ∧ s.place - found > tooFar then n - 1 else n, found)
    else (minMatch - 1, origin)
  if previous ≥ minMatch ∧ n ≤ previous then
    let (s, isFull) := s.write e (.copy previous (s.place - 1 - origin))
    let s := keepFrom data s (s.place + 1) (previous - 2)
    let s := { s with isPending := false, length := minMatch - 1, origin := found, place := s.place + previous - 1 }
    if isFull then s.endBlock s.place false else s
  else if s.isPending then
    let (s, isFull) := s.write e (.byte (byteAt data (s.place - 1)))
    let s := if isFull then s.endBlock s.place false else s
    { s with length := n, origin := found, place := s.place + 1 }
  else { s with isPending := true, length := n, origin := found, place := s.place + 1 }

/-- Goes on to the end. -/
def go (data : Array UInt8) (e : Effort) (s : Search) : Nat → Search
  | 0 => s
  | fuel + 1 =>
    if s.place ≥ data.size then s
    else go data e (if e.defers then s.deferring data e else s.eager data e) fuel

/-- The blocks that stand for some bytes. -/
def run (data : Array UInt8) (e : Effort) : Array Block :=
  let s : Search := { heads := Array.replicate 32768 0, before := Array.replicate (data.size + maxMatch) 0 }
  let s := s.go data e data.size
  let s := if s.isPending then (s.write e (.byte (byteAt data (s.place - 1)))).1 else s
  (s.endBlock data.size true).done

end Search

/-! ## Blocks -/

/-- What is written: full bytes, and the bits that do not fill one yet. -/
structure BitWriter where
  bytes : Array UInt8 := #[]
  pending : Nat := 0
  width : Nat := 0

namespace BitWriter

/-- Moves full bytes out of the pending bits. -/
def settle (w : BitWriter) : Nat → BitWriter
  | 0 => w
  | fuel + 1 =>
    if w.width < 8 then w
    else settle ⟨w.bytes.push (UInt8.ofNat (w.pending % 256)), w.pending / 256, w.width - 8⟩ fuel

/-- Writes a number as so many bits, the lowest one first. -/
def put (w : BitWriter) (n width : Nat) : BitWriter :=
  settle { w with pending := w.pending + n * Nat.pow 2 w.width, width := w.width + width } 4

/-- Fills up the last byte. -/
def align (w : BitWriter) : BitWriter :=
  if w.width = 0 then w else ⟨w.bytes.push (UInt8.ofNat (w.pending % 256)), 0, 0⟩

end BitWriter

/-- What stands for a list of lengths: a length, or a symbol for a repeated one with the number that follows. -/
structure LengthRun where
  symbol : Nat
  more : Nat := 0

/-- The equal lengths at the start of a list as runs. `previous` is the length before them. -/
def runsOf (previous : Option Nat) (n : Nat) : Nat → Nat → List LengthRun
  | 0, _ => []
  | fuel + 1, count =>
    if count = 0 then []
    else if n = 0 then
      if count < 3 then List.replicate count ⟨0, 0⟩
      else if count ≤ 10 then [⟨17, count - 3⟩]
      else
        let taken := min count 138
        ⟨18, taken - 11⟩ :: runsOf (some 0) 0 fuel (count - taken)
    else if previous = some n then
      if count < 3 then List.replicate count ⟨n, 0⟩
      else
        let taken := min count 6
        ⟨16, taken - 3⟩ :: runsOf (some n) n fuel (count - taken)
    else if count < 4 then List.replicate count ⟨n, 0⟩
    else
      let taken := min count 7
      ⟨n, 0⟩ :: ⟨16, taken - 4⟩ :: runsOf (some n) n fuel (count - taken)

/-- Lengths as runs of equal ones. -/
def lengthRuns (previous : Option Nat) : Nat → List Nat → List LengthRun
  | 0, _ => []
  | _, [] => []
  | fuel + 1, n :: ns =>
    let count := (ns.takeWhile (· == n)).length + 1
    runsOf previous n (count + 1) count ++ lengthRuns (some n) fuel (ns.drop (count - 1))

/-- How often each symbol for bytes and lengths occurs in a block, and each one for distances. -/
def frequenciesOf (pieces : Array Piece) : Array Nat × Array Nat :=
  pieces.foldl (fun (symbols, distances) p =>
    match p with
    | .byte b => (symbols.modify b.toNat (· + 1), distances)
    | .copy length distance =>
      (symbols.modify (257 + (lengthParts length).1) (· + 1), distances.modify (distanceParts distance).1 (· + 1)))
    ((Array.replicate 286 0).set! 256 1, Array.replicate 30 0)

/-- Writes pieces with some codes. -/
def putPieces (w : BitWriter) (pieces : Array Piece) (lengths distances : Array Nat) : BitWriter :=
  let codes := codesOf lengths
  let distanceCodes := codesOf distances
  let symbol (w : BitWriter) (n : Nat) : BitWriter := w.put (codes.getD n 0) (lengths.getD n 0)
  let w := pieces.foldl (fun w p =>
    match p with
    | .byte b => symbol w b.toNat
    | .copy length distance =>
      let (k, more) := lengthParts length
      let w := (symbol w (257 + k)).put more (lengthExtra.getD k 0)
      let (k, more) := distanceParts distance
      (w.put (distanceCodes.getD k 0) (distances.getD k 0)).put more (distanceExtra.getD k 0)) w
  symbol w 256

/-- Writes a block. -/
def putBlock (data : Array UInt8) (w : BitWriter) (b : Block) : BitWriter :=
  let (symbols, distances) := frequenciesOf b.pieces
  let symbolTree := lengthsFor maxLength symbols
  let distanceTree := lengthsFor maxLength distances
  let runs (t : Tree) : List LengthRun := lengthRuns none 300 ((t.lengths.extract 0 (t.last + 1)).toList)
  let allRuns := runs symbolTree ++ runs distanceTree
  let runFrequencies := allRuns.foldl (fun (f : Array Nat) r => f.modify r.symbol (· + 1)) (Array.replicate 19 0)
  let runTree := lengthsFor 7 runFrequencies
  let orderCount := max 4 (lengthOrder.reverse.dropWhile fun k => runTree.lengths.getD k 0 = 0).length
  let cost (lengths distanceLengths : Array Nat) : Nat :=
    Tree.cost lengths symbols lengthExtra 257 + Tree.cost distanceLengths distances distanceExtra 0
  let ownCost := (cost symbolTree.lengths distanceTree.lengths + Tree.cost runTree.lengths runFrequencies repeatExtra 0 +
    3 * orderCount + 14 + 10) / 8
  let fixedCost := (cost fixedLengths fixedDistances + 10) / 8
  let size := b.stop - b.start
  let last := if b.isLast then 1 else 0
  let w :=
    if size + 4 ≤ min ownCost fixedCost then
      let w := ((w.put last 3).align.put size 16).put (65535 - size) 16
      { w with bytes := w.bytes ++ data.extract b.start b.stop }
    else if fixedCost ≤ ownCost then putPieces (w.put (2 + last) 3) b.pieces fixedLengths fixedDistances
    else
      let w := (((w.put (4 + last) 3).put (symbolTree.last - 256) 5).put distanceTree.last 5).put (orderCount - 4) 4
      let w := (lengthOrder.take orderCount).foldl (fun (w : BitWriter) k => w.put (runTree.lengths.getD k 0) 3) w
      let codes := codesOf runTree.lengths
      let w := allRuns.foldl (fun (w : BitWriter) r =>
        (w.put (codes.getD r.symbol 0) (runTree.lengths.getD r.symbol 0)).put r.more (repeatExtra.getD r.symbol 0)) w
      putPieces w b.pieces symbolTree.lengths distanceTree.lengths
  if b.isLast then w.align else w

/-- The blocks for some bytes. -/
def deflate (level : Nat) (data : Array UInt8) : Array UInt8 :=
  ((Search.run data (.ofLevel level)).foldl (putBlock data) {}).bytes

end ClassLens.Tool.Compression
