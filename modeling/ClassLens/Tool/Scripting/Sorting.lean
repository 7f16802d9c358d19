import ClassLens.Tool.Scripting.Syntax

/-! # Putting values in order

The order may be a function of a script, which sees every comparison, so the comparisons and the turn in which
they are made are a part of what sorting means.

* `findRuns`: cuts values into runs that are in order, or in order from their end. Pairs are compared first;
  longer runs are found by looking back from every sixteenth value.
* `mergeRuns`: two runs as one. The greater one of the first values is looked for in the other run, at first one
  by one and then in growing steps.
* `sortValues`: the runs are merged as a balanced tree. Values that are alike keep their order. -/

namespace ClassLens.Tool.Scripting

section Sorting

variable {m : Type → Type} [Monad m] {α : Type} [Inhabited α] (order : α → α → m Ordering) (a : Array α)

/-- Whether the value before a place and the one at it are in the wrong order. -/
def fallsAt (p : Nat) : m Bool := return (← order a[p - 1]! a[p]!) == .gt

/-- Where the pairs end, from a place on, that are all in order or all not. -/
def pairsEnd (isFalling : Bool) : Nat → Nat → m Nat
  | 0, p => return p
  | fuel + 1, p => do
    if p + 1 < a.size then
      if (← fallsAt order a (p + 1)) == isFalling then pairsEnd isFalling fuel (p + 2) else return p
    else return p

/-- How far pairs are connected back from a place to `low`. -/
def connectedBack (isFalling : Bool) (low : Nat) : Nat → Nat → m Nat
  | 0, p => return p
  | fuel + 1, p => do
    if (← fallsAt order a p) == isFalling then
      if p ≤ low + 2 then return p - 2 else connectedBack isFalling low fuel (p - 2)
    else return p

/-- The start of the last of the pairs, from a place on, that are connected. -/
def connectedOn (isFalling : Bool) (stop : Nat) : Nat → Nat → m Nat
  | 0, p => return p
  | fuel + 1, p => do
    if p + 2 < stop then
      if (← fallsAt order a (p + 2)) == isFalling then connectedOn isFalling stop fuel (p + 2) else return p
    else return p

/-- Some of the values as a run. -/
def runOf (isFalling : Bool) (start stop : Nat) : Array α :=
  let part := a.extract start stop
  if isFalling then part.reverse else part

/-- How many places apart values are from which longer runs are looked for. -/
def stride : Nat := 16

/-- The runs that pairs make which end at `stop`; and where the runs end. A run has been found from `start` to the
pair at `sure`. -/
def cutRuns (isFalling : Bool) (stop : Nat) : Nat → Nat → Nat → Array (Array α) → m (Array (Array α) × Nat)
  | 0, start, _, runs => return (runs, start)
  | fuel + 1, start, sure, runs => do
    let far := start + stride
    -- the pairs from `sure` to `near` are runs of their own
    let (near, sure, far) ←
      if far ≥ stop then pure (stop, sure, stop)
      else
        let near ← connectedBack order a isFalling sure fuel far
        if near ≤ sure then
          let last ← connectedOn order a isFalling stop fuel far
          pure (last + 2, last, last + 2)
        else pure (near, sure, far)
    let (runs, sure, near, far) ←
      if sure > start then
        let finish := sure + 2
        let takesLast ←
          if finish = stop && stop + 1 = a.size then do pure ((← fallsAt order a finish) == isFalling) else pure false
        if takesLast then pure (runs.push (runOf a isFalling start a.size), a.size, a.size, a.size)
        else pure (runs.push (runOf a isFalling start finish), finish, near, far)
      else pure (runs, sure, near, far)
    let pairs := (List.range ((near - sure) / 2)).map fun i => runOf a isFalling (sure + 2 * i) (sure + 2 * i + 2)
    let runs := runs ++ pairs
    if near = stop && stop + 1 = a.size then return (runs.push #[a[near]!], near + 1)
    else if near < stop then cutRuns isFalling stop fuel near far runs
    else return (runs, near)

/-- Cuts values into runs, from a place on at which a pair has been compared. -/
def findRuns (isFalling : Bool) : Nat → Nat → Array (Array α) → m (Array (Array α))
  | 0, _, runs => return runs
  | fuel + 1, start, runs => do
    if start < a.size then
      let stop ← pairsEnd order a isFalling a.size (start + 2)
      let (runs, start) ← cutRuns order a isFalling stop a.size start start runs
      findRuns (!isFalling) fuel start runs
    else return runs

/-- How many steps are made one by one before they grow. -/
def smallSteps : Nat := 6

/-- Where a value belongs in a run, at least and at most: it is after the place `low`. -/
def ramp (isBefore : α → m Bool) (run : Array α) (stop : Nat) : Nat → Nat → Nat → Nat → m (Nat × Nat)
  | 0, low, _, _ => return (low, stop)
  | fuel + 1, low, step, count => do
    let p := low + step
    if p ≥ stop then
      let p := stop - 1
      if p > low then
        if ← isBefore run[p]! then return (low, p) else return (p, stop)
      else return (p, stop)
    else if ← isBefore run[p]! then return (low, p)
    else ramp isBefore run stop fuel p (if count + 1 ≥ smallSteps then 2 * step else step) (count + 1)

/-- Where a value belongs in a part of a run. -/
def bisect (isBefore : α → m Bool) (run : Array α) : Nat → Nat → Nat → m Nat
  | 0, low, _ => return low
  | fuel + 1, low, high => do
    if low < high then
      let p := low + (high - low - 1) / 2
      if ← isBefore run[p]! then bisect isBefore run fuel low p else bisect isBefore run fuel (p + 1) high
    else return low

/-- Where a value belongs in a run, after the place `low`. -/
def placeIn (isBefore : α → m Bool) (run : Array α) (low : Nat) : m Nat := do
  let (low, high) ← ramp isBefore run run.size run.size low 1 0
  bisect isBefore run run.size (low + 1) high

/-- Two runs as one, from a place in each of them on. -/
def mergeRuns (x y : Array α) : Nat → Nat → Nat → Array α → m (Array α)
  | 0, _, _, done => return done
  | fuel + 1, i, j, done => do
    if i < x.size && j < y.size then
      if (← order x[i]! y[j]!) == .gt then
        let stop ← placeIn (fun v => return (← order x[i]! v) != .gt) y j
        mergeRuns x y fuel (i + 1) stop ((done ++ y.extract j stop).push x[i]!)
      else
        let stop ← placeIn (fun v => return (← order y[j]! v) == .lt) x i
        mergeRuns x y fuel stop (j + 1) ((done ++ x.extract i stop).push y[j]!)
    else return done ++ x.extract i x.size ++ y.extract j y.size

/-- Many runs as one. -/
def mergeAll : Nat → Array (Array α) → m (Array α)
  | 0, runs => return runs.foldl (· ++ ·) #[]
  | fuel + 1, runs => do
    if runs.size ≤ 1 then return runs.foldl (· ++ ·) #[]
    else
      let half := runs.size - runs.size / 2
      let first ← mergeAll fuel (runs.extract 0 half)
      let second ← mergeAll fuel (runs.extract half runs.size)
      mergeRuns order first second (first.size + second.size + 1) 0 0 #[]

/-- Values in order. -/
def sortValues : m (Array α) := do
  if a.size ≤ 1 then return a
  else
    let isFalling ← fallsAt order a 1
    let runs ← findRuns order a isFalling a.size 0 #[]
    mergeAll order runs.size runs

end Sorting

/-- The order of values that an expression is, where it is a plain one: whether numbers are compared, and whether
the greatest one comes first. -/
def plainOrder? (order : Expr) : Option (Bool × Bool) :=
  match order with
  | .newCode body =>
    match body.filter fun a => !(a matches .heed _) with
    | [.compute _ (.binary op (.variable .one x) (.variable .one y))] =>
      if op ≠ "<=>" && op ≠ "cmp" then none
      else if x = "a" && y = "b" then some (op = "<=>", false)
      else if x = "b" && y = "a" then some (op = "<=>", true)
      else none
    | _ => none
  | _ => none

/-- How two values compare, as numbers or as texts. -/
def compareValues (areNumbers isBackward : Bool) (v w : Value) : Ordering :=
  let (v, w) := if isBackward then (w, v) else (v, w)
  if areNumbers then (v.toNumeric.compare? w.toNumeric).getD .eq else compare v.toText w.toText

end ClassLens.Tool.Scripting
