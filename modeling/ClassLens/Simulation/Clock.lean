import ClassLens.Session.Step

/-! # A virtual clock

The clock stands still while any agent can go on. Agents that can are taken in the order in which they
became able to; those that wait for time go on in the order of their deadlines.

* `World`: something with agents, as the clock sees it.
* `Timeline`: a world with its clock, the agents that can go on, and the deadlines of those that wait.
* `Timeline.settle`: lets agents go on until none can without time passing.
* `Timeline.advance`: moves the clock by some time.
* `Timeline.await`: moves the clock just as far as an agent needs to come to its end. -/

namespace ClassLens.Simulation

/-- What the clock needs to know of an agent. -/
inductive Pause where
  | gone
  | blocked
  /-- The agent goes on after so many milliseconds. -/
  | time (ms : Nat)
  deriving DecidableEq, Repr

/-- Something with agents, as the clock sees it. -/
structure World (σ : Type) where
  /-- The numbers of the agents. -/
  agents : σ → List Nat
  pause : σ → Nat → Pause
  step : σ → Nat → σ

/-- A world with its clock. -/
structure Timeline (σ : Type) where
  state : σ
  now : Nat := 0
  /-- The agents that can go on; a mark tells that an agent's time has come. -/
  ready : List (Nat × Bool) := []
  /-- The agents that wait for time, by their deadlines. -/
  timers : List (Nat × Nat) := []

namespace Timeline

variable {σ : Type} (w : World σ)

/-- Puts a deadline behind those that are not later. -/
def insertTimer (deadline id : Nat) : List (Nat × Nat) → List (Nat × Nat)
  | [] => [(deadline, id)]
  | (d, i) :: rest =>
    if d ≤ deadline then (d, i) :: insertTimer deadline id rest else (deadline, id) :: (d, i) :: rest

/-- Whether the clock knows that an agent can go on or waits for time. -/
def knows (t : Timeline σ) (id : Nat) : Bool :=
  t.ready.any (fun e => e.1 == id) || t.timers.any fun e => e.2 == id

/-- Takes notice of the agents that can go on by now or begin to wait for time. -/
def notice (t : Timeline σ) : Timeline σ :=
  let found := (w.agents t.state).filter fun id =>
    !t.knows id && match w.pause t.state id with
      | .time _ => true
      | _ => false
  { t with ready := t.ready ++ found.map fun id => (id, false) }

/-- Lets the first agent that can go on do so until it has to wait. -/
def settleLoop : Nat → Timeline σ → Timeline σ
  | 0, t => t
  | fuel + 1, t =>
    match t.ready with
    | [] => t
    | (id, due) :: rest =>
      let goOn : Timeline σ :=
        notice w { t with state := w.step t.state id, ready := (id, false) :: rest }
      if due then settleLoop fuel goOn
      else
        match w.pause t.state id with
        | .time 0 => settleLoop fuel goOn
        | .time ms =>
          settleLoop fuel
            { t with ready := rest, timers := insertTimer (t.now + ms) id t.timers }
        | .blocked | .gone => settleLoop fuel { t with ready := rest }

/-- More steps than the agents can take without time passing. -/
def budget (t : Timeline σ) : Nat :=
  64 * ((w.agents t.state).length + t.ready.length + 2)

/-- Lets agents go on until none can without time passing. -/
def settle (t : Timeline σ) : Timeline σ :=
  let t := notice w t
  settleLoop w (t.budget w) t

/-- Moves the clock to the next deadline, if it is within a limit. -/
def fire? (t : Timeline σ) (limit : Option Nat) : Option (Timeline σ) :=
  match t.timers with
  | [] => none
  | (deadline, _) :: _ =>
    if limit.all (deadline ≤ ·) then
      let due := t.timers.takeWhile fun e => e.1 == deadline
      some { t with
        now := deadline
        ready := t.ready ++ due.map fun e => (e.2, true)
        timers := t.timers.dropWhile fun e => e.1 == deadline }
    else
      none

/-- Fires deadlines within a limit, one after the other. -/
def advanceLoop (limit : Nat) : Nat → Timeline σ → Timeline σ
  | 0, t => t
  | fuel + 1, t =>
    match t.fire? (some limit) with
    | none => t
    | some t => advanceLoop limit fuel (settle w t)

/-- Moves the clock by some time. -/
def advance (t : Timeline σ) (ms : Nat) : Timeline σ :=
  let t := settle w t
  { advanceLoop w (t.now + ms) (t.budget w) t with now := t.now + ms }

/-- Fires deadlines until an agent is gone. -/
def awaitLoop (id : Nat) : Nat → Timeline σ → Timeline σ
  | 0, t => t
  | fuel + 1, t =>
    if w.pause t.state id = .gone then t
    else
      match t.fire? none with
      | none => t
      | some t => awaitLoop id fuel (settle w t)

/-- Moves the clock just as far as an agent needs to come to its end. -/
def await (t : Timeline σ) (id : Nat) : Timeline σ :=
  let t := settle w t
  awaitLoop w id (t.budget w) t

end Timeline

end ClassLens.Simulation
