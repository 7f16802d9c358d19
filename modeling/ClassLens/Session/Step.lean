import ClassLens.Session.Basic

/-! # Steps of a session

An agent goes on from one stop to the next. Which agent goes on is the environment's choice: timers,
extractions and the editor may end in any order.

* `Session.step`: the session after an agent went on, and what others see of it. An agent that is
  blocked stays where it is.
* `Session.wait`: what an agent waits for. -/

namespace ClassLens

/-- What an agent waits for before its next step. -/
inductive Wait where
  /-- There is no such agent. -/
  | gone
  /-- For others: another one holds the slot. -/
  | blocked
  /-- For time, in milliseconds; zero for none. -/
  | time (ms : Nat)
  /-- For the editor to take a result. -/
  | editor
  deriving DecidableEq, Repr

namespace Session

/-- Puts an agent in another place. -/
def put (s : Session) (id : Nat) (a : Agent) : Session :=
  { s with agents := s.agents.insert id a }

/-- Puts a task in another place. -/
def putTask (s : Session) (id : Nat) (t : LensTask) (phase : TaskPhase) : Session :=
  s.put id (.task { t with phase })

/-- Ends a task. -/
def endTask (s : Session) (id : Nat) (resolution : Option Resolution) : Session × List Event :=
  ({ s with agents := s.agents.erase id }, [.ended id resolution])

/-- The session with the number of a document's slot, which is made if there is none. -/
def slotFor (s : Session) (uri : Uri) : Session × Nat :=
  match s.slotOf.get? uri with
  | some slot => (s, slot)
  | none =>
    ({ s with
      slotOf := s.slotOf.insert uri s.nextSlot
      slots := s.slots.insert s.nextSlot {}
      nextSlot := s.nextSlot + 1 }, s.nextSlot)

/-- The task that holds a slot. -/
def holder? (s : Session) (slot : Nat) : Option Nat :=
  (s.slots.get? slot).bind fun k => k.line.head?

/-- A task joins the line of a slot. -/
def enqueue (s : Session) (slot id : Nat) : Session :=
  { s with slots := s.slots.modify slot fun k => { k with line := k.line ++ [id] } }

/-- The holder of a slot leaves it. -/
def release (s : Session) (slot : Nat) : Session :=
  { s with slots := s.slots.modify slot fun k => { k with line := k.line.tail } }

/-- Whether a result may be applied: its version is the latest, and none newer was applied. -/
def mayApply (s : Session) (t : LensTask) (slot : Nat) : Bool :=
  s.resolver.isCurrent t.uri t.version &&
    ((s.slots.get? slot).bind Slot.last).all fun last => last ≤ t.version

/-- A task that is awake starts its run, if the editor still has its version. -/
def launch (s : Session) (editor : Editor) (id : Nat) (t : LensTask) : Session × List Event :=
  match editor.snapshot? t.uri with
  | none => s.endTask id none
  | some (text, version) =>
    if version = t.version then
      match s.resolver.start ⟨t.uri, text, version⟩ with
      | (r, .error _) => { s with resolver := r }.endTask id none
      | (r, .ok run) => ({ s with resolver := r }.putTask id t (.resolving run), [])
    else
      s.endTask id none

/-- What others see of a step of a run. -/
def eventsOf (uri : Uri) (step : RunStep) : List Event :=
  (step.report.map (Event.reported uri)).toList ++ if step.extracts then [.extracted uri] else []

/-- A task's run goes on; at its end the task joins the line of its document's slot. -/
def resume (s : Session) (editor : Editor) (id : Nat) (t : LensTask) (run : Run) (expired : Bool) :
    Session × List Event :=
  let step := s.resolver.step editor run expired
  let s := { s with resolver := step.resolver }
  let events := eventsOf t.uri step
  match step.move with
  | .next run => (s.putTask id t (.resolving run), events)
  | .done (.stale _ _) =>
    let (s, ended) := s.endTask id none
    (s, events ++ ended)
  | .done (.ready resolution) =>
    let (s, slot) := s.slotFor t.uri
    ((s.enqueue slot id).putTask id t (.waiting slot resolution), events)

/-- A task whose turn it is hands its result to the editor, or ends. -/
def applyNext (s : Session) (id : Nat) (t : LensTask) (slot : Nat) (resolution : Resolution) :
    Session × List Event :=
  if s.mayApply t slot then
    (s.putTask id t (.applying slot resolution), [.applying t.uri t.version])
  else
    (s.release slot).endTask id none

/-- The editor has taken a result. -/
def applied (s : Session) (id : Nat) (t : LensTask) (slot : Nat) (resolution : Resolution) :
    Session × List Event :=
  let s := { s with slots := s.slots.modify slot fun k => { k with last := some t.version } }
  let (s, ended) := (s.release slot).endTask id (some resolution)
  (s, .applied t.uri t.version resolution.annotations.length :: ended)

/-- A task goes on. -/
def stepTask (s : Session) (editor : Editor) (id : Nat) (t : LensTask) (expired : Bool) :
    Session × List Event :=
  match t.phase with
  | .asleep _ =>
    if s.resolver.isCurrent t.uri t.version then s.launch editor id t else s.endTask id none
  | .awake => s.launch editor id t
  | .resolving run => s.resume editor id t run expired
  | .waiting slot resolution =>
    if s.holder? slot = some id then s.applyNext id t slot resolution else (s, [])
  | .applying slot resolution => s.applied id t slot resolution

/-- A run that was asked for goes on. -/
def stepCall (s : Session) (editor : Editor) (id : Nat) (run : Run) (expired : Bool) :
    Session × List Event :=
  let step := s.resolver.step editor run expired
  let s := { s with resolver := step.resolver }
  let events := eventsOf run.request.uri step
  match step.move with
  | .next run => (s.put id (.call run), events)
  | .done answer => ({ s with agents := s.agents.erase id }, events ++ [.answered id answer])

/-- An agent goes on. `expired` counts only if it waits for an extraction. -/
def step (s : Session) (editor : Editor) (id : Nat) (expired : Bool) : Session × List Event :=
  match s.agents.get? id with
  | none => (s, [])
  | some (.task t) => s.stepTask editor id t expired
  | some (.call run) => s.stepCall editor id run expired

/-- What an agent waits for. -/
def wait (s : Session) (id : Nat) : Wait :=
  match s.agents.get? id with
  | none => .gone
  | some (.call run) => .time run.wait
  | some (.task t) =>
    match t.phase with
    | .asleep delay => .time delay
    | .awake => .time 0
    | .resolving run => .time run.wait
    | .waiting slot _ => if s.holder? slot = some id then .time 0 else .blocked
    | .applying _ _ => .editor

/-- Whether the extraction that an agent waits for takes too long. -/
def expires (s : Session) (id : Nat) : Bool :=
  match s.agents.get? id with
  | some (.call run) => run.expires
  | some (.task ⟨_, _, .resolving run⟩) => run.expires
  | _ => false

end Session

end ClassLens
