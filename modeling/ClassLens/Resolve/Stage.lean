/-! # Stages of a resolution

A run goes from `idle` over scanning, locating the stylesheet, extracting and matching to `ready`;
from the second and third of these it may also fail.

* `Stage.mayMove`: the moves that are allowed.
* `Progress.advance`: makes a move, if it is allowed. -/

namespace ClassLens

/-- A stage of a run. -/
inductive Stage where
  | idle
  | scanning
  | resolvingPath
  | extractingRules
  | matching
  | ready
  | failed
  deriving DecidableEq, Repr

namespace Stage

/-- The moves that are allowed. -/
def mayMove : Stage → Stage → Bool
  | idle, scanning => true
  | scanning, resolvingPath => true
  | resolvingPath, extractingRules => true
  | resolvingPath, failed => true
  | extractingRules, matching => true
  | extractingRules, failed => true
  | matching, ready => true
  | _, _ => false

/-- A stage that no move leaves. -/
def isTerminal (s : Stage) : Bool :=
  s == ready || s == failed

/-- No move leaves a terminal stage. -/
theorem mayMove_of_isTerminal {s : Stage} (h : s.isTerminal = true) (t : Stage) :
    s.mayMove t = false := by
  cases s <;> simp_all [isTerminal, mayMove]

end Stage

/-- How far the run for a version of a document has come. -/
structure Progress where
  document : String
  version : Int
  stage : Stage := .idle
  /-- Number of moves that were refused. -/
  refused : Nat := 0
  deriving DecidableEq, Repr

/-- Makes a move, if it is allowed; says whether it was. -/
def Progress.advance (p : Progress) (next : Stage) : Progress × Bool :=
  if p.stage.mayMove next then ({ p with stage := next }, true)
  else ({ p with refused := p.refused + 1 }, false)

end ClassLens
