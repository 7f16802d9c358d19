/-! # What has changed between two rows

Two rows of items are compared: which items of the first one are gone and which of the second one are new, so
that what is left of both is the same. Few items are marked where there is a choice, and marked items that
stand beside one another are kept together.

* `changesOf`: the marked items of two rows of numbers, as runs that stand at the same place. -/

namespace ClassLens.Tool.Comparing

/-- Marks of the items of a row. -/
abbrev Marks := Array Bool

/-- Whether an item is marked; places outside of the row are not. -/
def isMarked (m : Marks) (i : Int) : Bool := 0 ≤ i && (m[i.toNat]?).getD false

/-- Marks an item, or takes its mark away. -/
def mark (m : Marks) (i : Int) (b : Bool) : Marks := m.setIfInBounds i.toNat b

/-! ### The middle of a shortest way

Positions in both rows lie on diagonals: `x - y` is the number of the diagonal. From both ends ways are
followed that get one step dearer at a time, until two of them meet. -/

/-- The farthest positions reached on diagonals, which are counted from `shift` below zero. -/
structure Reach where
  shift : Int
  places : Array Int

def Reach.get (r : Reach) (d : Int) : Int := (r.places[(d + r.shift).toNat]?).getD 0

def Reach.set (r : Reach) (d x : Int) : Reach := { r with places := r.places.setIfInBounds (d + r.shift).toNat x }

/-- A part of two rows. -/
structure Window where
  xLow : Int
  xHigh : Int
  yLow : Int
  yHigh : Int

/-- The item at a place. -/
def itemAt (row : Array Nat) (i : Int) : Option Nat := if 0 ≤ i then row[i.toNat]? else none

/-- How far the rows go on alike from a place on. -/
def slideDown (a b : Array Nat) (w : Window) (d : Int) : Nat → Int → Int
  | 0, x => x
  | n + 1, x =>
    if x < w.xHigh && x - d < w.yHigh && itemAt a x == itemAt b (x - d) then slideDown a b w d n (x + 1) else x

/-- How far the rows go on alike before a place. -/
def slideUp (a b : Array Nat) (w : Window) (d : Int) : Nat → Int → Int
  | 0, x => x
  | n + 1, x =>
    if w.xLow < x && w.yLow < x - d && itemAt a (x - 1) == itemAt b (x - d - 1) then slideUp a b w d n (x - 1)
    else x

/-- A range of diagonals with the farthest positions on them. -/
structure Front where
  low : Int
  high : Int
  reach : Reach

/-- The range made wider by a step at both sides, or narrower at a side where there is no room; `stop` is
what counts as nothing reached. -/
def Front.widen (f : Front) (least most stop : Int) : Front :=
  let f := if f.low > least then { f with low := f.low - 1, reach := f.reach.set (f.low - 2) stop }
    else { f with low := f.low + 1 }
  if f.high < most then { f with high := f.high + 1, reach := f.reach.set (f.high + 2) stop }
  else { f with high := f.high - 1 }

/-- One more step down on every other diagonal from one on; where it meets the way up. -/
def stepDown (a b : Array Nat) (w : Window) (meets : Option Front) : Nat → Int → Front → Front × Option (Int × Int)
  | 0, _, f => (f, none)
  | n + 1, d, f =>
    if d < f.low then (f, none)
    else
      let low := f.reach.get (d - 1)
      let high := f.reach.get (d + 1)
      let x := slideDown a b w d (a.size + 1) (if low < high then high else low + 1)
      let f := { f with reach := f.reach.set d x }
      match meets with
      | some g =>
        if g.low ≤ d && d ≤ g.high && g.reach.get d ≤ x then (f, some (x, x - d))
        else stepDown a b w meets n (d - 2) f
      | none => stepDown a b w meets n (d - 2) f

/-- One more step up on every other diagonal from one on; where it meets the way down. -/
def stepUp (a b : Array Nat) (w : Window) (meets : Option Front) : Nat → Int → Front → Front × Option (Int × Int)
  | 0, _, f => (f, none)
  | n + 1, d, f =>
    if d < f.low then (f, none)
    else
      let low := f.reach.get (d - 1)
      let high := f.reach.get (d + 1)
      let x := slideUp a b w d (a.size + 1) (if low < high then low else high - 1)
      let f := { f with reach := f.reach.set d x }
      match meets with
      | some g =>
        if g.low ≤ d && d ≤ g.high && x ≤ g.reach.get d then (f, some (x, x - d))
        else stepUp a b w meets n (d - 2) f
      | none => stepUp a b w meets n (d - 2) f

/-- The place where the ways from both ends of a window meet. -/
def meeting (a b : Array Nat) (w : Window) : Nat → Front → Front → Option (Int × Int)
  | 0, _, _ => none
  | n + 1, down, up =>
    let least := w.xLow - w.yHigh
    let most := w.xHigh - w.yLow
    let isOdd := ((w.xLow - w.yLow) - (w.xHigh - w.yHigh)) % 2 ≠ 0
    let width := a.size + b.size + 3
    let down := down.widen least most (-1)
    match stepDown a b w (if isOdd then some up else none) width down.high down with
    | (_, some p) => some p
    | (down, none) =>
      let up := up.widen least most (1 + (a.size + b.size : Nat))
      match stepUp a b w (if isOdd then none else some down) width up.high up with
      | (_, some p) => some p
      | (up, none) => meeting a b w n down up

/-- The middle of a shortest way through a window. -/
def middle (a b : Array Nat) (w : Window) : Int × Int :=
  let shift : Int := (b.size : Int) + 1
  let reach : Reach := ⟨shift, Array.replicate (a.size + b.size + 3) 0⟩
  let first := w.xLow - w.yLow
  let last := w.xHigh - w.yHigh
  (meeting a b w (a.size + b.size + 2) ⟨first, first, reach.set first w.xLow⟩ ⟨last, last, reach.set last w.xHigh⟩).getD
    (w.xHigh, w.yHigh)

/-- Marks the items of a range. -/
def markRange (m : Marks) (low high : Int) : Marks :=
  (List.range (high - low).toNat).foldl (fun m (k : Nat) => mark m (low + k) true) m

/-- Marks what differs in a window. -/
def compareIn (a b : Array Nat) : Nat → Window → Marks × Marks → Marks × Marks
  | 0, _, m => m
  | n + 1, w, (gone, new) =>
    let x := slideDown a b w (w.xLow - w.yLow) (a.size + 1) w.xLow
    let w := { w with xLow := x, yLow := w.yLow + (x - w.xLow) }
    let x := slideUp a b w (w.xHigh - w.yHigh) (a.size + 1) w.xHigh
    let w := { w with xHigh := x, yHigh := w.yHigh - (w.xHigh - x) }
    if w.xLow = w.xHigh then (gone, markRange new w.yLow w.yHigh)
    else if w.yLow = w.yHigh then (markRange gone w.xLow w.xHigh, new)
    else
      let (x, y) := middle a b w
      let m := compareIn a b n { w with xHigh := x, yHigh := y } (gone, new)
      compareIn a b n { w with xLow := x, yLow := y } m

/-! ### Items that confuse

Items without a like one in the other row are marked at once. So are items with many like ones, where they
stand among such items: they would only be taken for one another. -/

/-- What is said of an item. -/
inductive Verdict where
  | keep
  | drop
  /-- It is dropped only among others that are. -/
  | doubt
  deriving DecidableEq

/-- How often each number occurs. -/
def countsIn (row : Array Nat) (classes : Nat) : Array Nat :=
  row.foldl (fun t n => t.modify n (· + 1)) (Array.replicate classes 0)

/-- The threshold for a row of so many items: a number that occurs more often confuses. -/
def manyFor (size : Nat) : Nat :=
  let rec go : Nat → Nat → Nat → Nat
    | 0, _, many => many
    | n + 1, m, many => if m / 4 = 0 then many else go n (m / 4) (many * 2)
  go 64 (size / 64) 5

/-- What is first said of the items of a row, by how often they occur in the other one. -/
def firstVerdicts (row counts : Array Nat) : Array Verdict :=
  let many := manyFor row.size
  row.map fun n =>
    let found := (counts[n]?).getD 0
    if found = 0 then .drop else if found > many then .doubt else .keep

def verdictAt (v : Array Verdict) (i : Nat) : Verdict := (v[i]?).getD .keep

/-- Keeps the doubtful items of a range. -/
def settle (v : Array Verdict) (start count : Nat) : Array Verdict :=
  (List.range count).foldl (fun v k =>
    if verdictAt v (start + k) = .doubt then v.setIfInBounds (start + k) .keep else v) v

/-- Keeps each row of so many doubtful items or more in a run. -/
def settleRows (least start count : Nat) : Nat → Nat → Nat → Array Verdict → Array Verdict
  | 0, _, _, v => v
  | n + 1, j, row, v =>
    if j ≥ count then v
    else if verdictAt v (start + j) ≠ .doubt then settleRows least start count n (j + 1) 0 v
    else
      let row := row + 1
      if row = least then settleRows least start count n (j + 1 - row) row v
      else if least < row then settleRows least start count n (j + 1) row (v.setIfInBounds (start + j) .keep)
      else settleRows least start count n (j + 1) row v

/-- Keeps the doubtful items from one end of a run on, up to three items in a row that are dropped, or up to
the first one that is dropped and stands far enough inside. -/
def settleEnd (place : Nat → Nat) (count : Nat) : Nat → Nat → Nat → Array Verdict → Array Verdict
  | 0, _, _, v => v
  | n + 1, j, row, v =>
    if j ≥ count then v
    else
      let i := place j
      if j ≥ 8 && verdictAt v i = .drop then v
      else
        match verdictAt v i with
        | .doubt => settleEnd place count n (j + 1) 0 (v.setIfInBounds i .keep)
        | .keep => settleEnd place count n (j + 1) 0 v
        | .drop => if row + 1 = 3 then v else settleEnd place count n (j + 1) (row + 1) v

/-- The least length of a row of doubtful items that is kept in a run of a length. -/
def leastRow (length : Nat) : Nat :=
  let rec go : Nat → Nat → Nat → Nat
    | 0, _, least => least
    | n + 1, m, least => if m / 4 = 0 then least else go n (m / 4) (least * 2)
  go 64 (length / 4) 1 + 1

/-- Decides about the doubtful items from a place on. -/
def decide_ (size : Nat) : Nat → Nat → Array Verdict → Array Verdict
  | 0, _, v => v
  | n + 1, i, v =>
    if i ≥ size then v
    else
      match verdictAt v i with
      | .keep => decide_ size n (i + 1) v
      | .doubt => decide_ size n (i + 1) (v.setIfInBounds i .keep)
      | .drop =>
        let run := ((List.range (size - i)).takeWhile fun k => verdictAt v (i + k) ≠ .keep).length
        let tail := ((List.range run).takeWhile fun k => verdictAt v (i + run - 1 - k) = .doubt).length
        let v := settle v (i + run - tail) tail
        let length := run - tail
        let doubts := ((List.range length).filter fun k => verdictAt v (i + k) = .doubt).length
        if doubts * 4 > length then decide_ size n (i + 1) (settle v i length)
        else
          let v := settleRows (leastRow length) i length (4 * length + 4) 0 0 v
          let v := settleEnd (i + ·) length (length + 1) 0 0 v
          let last := i + length - 1
          let v := settleEnd (last - ·) length (length + 1) 0 0 v
          decide_ size n (last + 1) v

/-- What is said of the items of a row in the end. -/
def verdicts (row counts : Array Nat) : Array Verdict :=
  decide_ row.size (row.size + 1) 0 (firstVerdicts row counts)

/-- The places of the items that are kept. -/
def keptPlaces (v : Array Verdict) : Array Nat :=
  ((List.range v.size).filter fun i => verdictAt v i = .keep).toArray

/-! ### Runs of marked items

A run of marked items may as well be one that starts a bit earlier or later, if the items at its ends are
alike. Runs are moved so that they meet others, and else as far down as they can be, or to where the other row
has a run too. -/

/-- A run of marked items of a row, and the place in the other row that corresponds to its end. -/
structure Slide where
  own : Marks
  start : Int
  stop : Int
  other : Int

/-- The first place from one on that is not marked. -/
def afterMarks (m : Marks) : Nat → Int → Int
  | 0, i => i
  | n + 1, i => if isMarked m i then afterMarks m n (i + 1) else i

/-- The last place before one that is not marked. -/
def freeBefore (m : Marks) : Nat → Int → Int
  | 0, i => i - 1
  | n + 1, i => if isMarked m (i - 1) then freeBefore m n (i - 1) else i - 1

/-- The first place of the marked items that end before a place. -/
def beforeMarks (m : Marks) : Nat → Int → Int
  | 0, i => i
  | n + 1, i => if isMarked m (i - 1) then beforeMarks m n (i - 1) else i

/-- Moves a run up as far as it can be moved. -/
def slideBack (row : Array Nat) (others : Marks) : Nat → Slide → Slide
  | 0, s => s
  | n + 1, s =>
    if 0 < s.start && itemAt row (s.start - 1) == itemAt row (s.stop - 1) then
      let own := mark (mark s.own (s.start - 1) true) (s.stop - 1) false
      let start := beforeMarks own own.size (s.start - 1)
      let other := freeBefore others others.size s.other
      slideBack row others n { own, start, stop := s.stop - 1, other }
    else s

/-- Moves a run down as far as it can be moved; `meets` is the end of the run where the other row last had one
too. -/
def slideOn (row : Array Nat) (others : Marks) : Nat → Slide → Int → Slide × Int
  | 0, s, meets => (s, meets)
  | n + 1, s, meets =>
    if s.stop < row.size && itemAt row s.start == itemAt row s.stop then
      let own := mark (mark s.own s.start false) s.stop true
      let stop := afterMarks own own.size (s.stop + 1)
      let next := s.other + 1
      let other := afterMarks others others.size next
      slideOn row others n { own, start := s.start + 1, stop, other } (if other > next then stop else meets)
    else (s, meets)

/-- Moves a run up and down until it meets no other run any more. -/
def settleRun (row : Array Nat) (others : Marks) : Nat → Slide → Slide × Int
  | 0, s => (s, row.size)
  | n + 1, s =>
    let length := s.stop - s.start
    let s := slideBack row others (row.size + 1) s
    let meets : Int := if isMarked others (s.other - 1) then s.stop else row.size
    let (s, meets) := slideOn row others (row.size + 1) s meets
    if length = s.stop - s.start then (s, meets) else settleRun row others n s

/-- Moves a run back to where the other row has one too. -/
def slideTo (others : Marks) (meets : Int) : Nat → Slide → Slide
  | 0, s => s
  | n + 1, s =>
    if meets < s.stop then
      let own := mark (mark s.own (s.start - 1) true) (s.stop - 1) false
      let other := freeBefore others others.size s.other
      slideTo others meets n { own, start := s.start - 1, stop := s.stop - 1, other }
    else s

/-- Moves the runs of a row from a place on; `j` is the place in the other row that corresponds to it. -/
def settleRuns (row : Array Nat) (others : Marks) : Nat → Int → Int → Marks → Marks
  | 0, _, _, own => own
  | n + 1, i, j, own =>
    if i ≥ row.size then own
    else if !isMarked own i then settleRuns row others n (i + 1) (afterMarks others others.size j + 1) own
    else
      let stop := afterMarks own own.size i
      let other := afterMarks others others.size j
      let (s, meets) := settleRun row others (row.size + 1) { own, start := i, stop, other }
      let s := slideTo others meets (row.size + 1) s
      settleRuns row others n s.stop s.other s.own

/-! ### Changes -/

/-- A change: so many items of the first row from a place on become so many of the second row. -/
structure Change where
  first : Nat
  second : Nat
  gone : Nat
  new : Nat

/-- The changes that marks make. -/
def collect (gone new : Marks) : Nat → Nat → Nat → List Change
  | 0, _, _ => []
  | n + 1, i, j =>
    if i ≥ gone.size && j ≥ new.size then []
    else
      let x := (afterMarks gone gone.size i).toNat
      let y := (afterMarks new new.size j).toNat
      if x = i && y = j then collect gone new n (i + 1) (j + 1)
      else { first := i, second := j, gone := x - i, new := y - j } :: collect gone new n x y

/-- The changes between two rows of numbers below `classes`. With `least` no items are taken for confusing
ones. -/
def changesOf (least : Bool) (classes : Nat) (a b : Array Nat) : List Change :=
  let all (row : Array Nat) : Array Verdict := row.map fun _ => .keep
  let forA := if least then all a else verdicts a (countsIn b classes)
  let forB := if least then all b else verdicts b (countsIn a classes)
  let placesA := keptPlaces forA
  let placesB := keptPlaces forB
  let itemsOf (row places : Array Nat) : Array Nat := places.map fun i => (row[i]?).getD 0
  let keptA := itemsOf a placesA
  let keptB := itemsOf b placesB
  let none_ (n : Nat) : Marks := Array.replicate n false
  let window : Window := ⟨0, keptA.size, 0, keptB.size⟩
  let (gone, new) :=
    compareIn keptA keptB (keptA.size + keptB.size + 2) window (none_ keptA.size, none_ keptB.size)
  let spread (v : Array Verdict) (places : Array Nat) (marks : Marks) : Marks :=
    places.zipIdx.foldl (fun m (i, k) => m.setIfInBounds i ((marks[k]?).getD false)) (v.map (· ≠ .keep))
  let gone := spread forA placesA gone
  let new := spread forB placesB new
  let gone := settleRuns a new (a.size + 1) 0 0 gone
  let new := settleRuns b gone (b.size + 1) 0 0 new
  collect gone new (a.size + b.size + 1) 0 0

end ClassLens.Tool.Comparing
