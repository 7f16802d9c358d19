import ClassLens.Server.Step
import ClassLens.Simulation.Clock

/-! # A server on a connection

A server with its client, the files it reads, and a clock that is moved by hand.

* `Connection`: the server, the files, and what was sent so far.
* `Action`: what the client does, or what happens to the files and the clock.
* `act`: does one thing and lets everything settle. -/

namespace ClassLens.Simulation

/-- A server with its client and its files. -/
structure Connection where
  server : Server
  files : FileTree := {}
  /-- Whether the client answers requests. -/
  replies : Bool := true
  /-- Whether the client has asked for an end: it is not listened to any more, while what is under way
  goes on. -/
  isShut : Bool := false
  /-- What was sent, in order. -/
  sent : List Message := []
  answered : List (Nat × Option (List Lens)) := []

namespace Connection

/-- Takes a step of the server in. -/
def take (c : Connection) (step : ServerStep) : Connection :=
  { c with
    server := step.server, sent := c.sent ++ step.sent, answered := c.answered ++ step.answered }

/-- The number that the clock knows a handler by. -/
def handlerNumber (id : Nat) : Nat := 2 * id

/-- The number that the clock knows an agent of the session by. -/
def agentNumber (id : Nat) : Nat := 2 * id + 1

/-- Lets a handler or an agent go on. -/
def step (c : Connection) (number : Nat) : Connection :=
  let id := number / 2
  if number % 2 = 0 then c.take (c.server.stepHandler c.files id)
  else c.take (c.server.stepAgent c.files id (c.server.session.expires id))

/-- What a handler or an agent waits for. A result is taken when the client has answered, if it is
asked at all. -/
def pause (c : Connection) (number : Nat) : Pause :=
  let id := number / 2
  if number % 2 = 0 then
    match c.server.handlers.get? id with
    | none => .gone
    | some (.lensResolving _ _ _) => .blocked
    | some _ => .time 0
  else
    match c.server.session.wait id with
    | .gone => .gone
    | .blocked => .blocked
    | .time ms => .time ms
    | .editor => if c.server.refreshSupported && !c.replies then .blocked else .time 0

/-- The connection as the clock sees it. -/
def world : World Connection where
  agents c :=
    c.server.handlers.keys.map handlerNumber ++ c.server.session.agents.keys.map agentNumber
  pause := pause
  step := step

end Connection

/-- What the client does, or what happens to the files and the clock. -/
inductive Action where
  | call (call : Call)
  | write (path : Path) (content : String)
  | remove (path : Path)
  | advance (ms : Nat)
  | shutdown

/-- What came of an action: the lenses, where they were asked for, and what was sent. -/
structure Exchange where
  lenses : Option (List Lens)
  sent : List Message

/-- Does one thing, before everything settles. -/
def Connection.perform (t : Timeline Connection) : Action → Timeline Connection × Option (List Lens)
  | .call call =>
    let c := t.state
    if c.isShut then (t, none) else
    let (server, id) := c.server.receive c.files call
    let t := { t with state := { c with server } }
    match id with
    | none => (t, none)
    | some id =>
      let t := Timeline.await Connection.world t (Connection.handlerNumber id)
      (t, (t.state.answered.findSome? fun e => if e.1 = id then some e.2 else none).join)
  | .write path content =>
    ({ t with state := { t.state with files := t.state.files.write path content } }, none)
  | .remove path => ({ t with state := { t.state with files := t.state.files.remove path } }, none)
  | .advance ms => (Timeline.advance Connection.world t ms, none)
  | .shutdown => ({ t with state := { t.state with isShut := true } }, none)

/-- Does one thing and lets everything settle. -/
def act (t : Timeline Connection) (a : Action) : Timeline Connection × Exchange :=
  let t := { t with state := { t.state with sent := [], answered := [] } }
  let (t, lenses) := Connection.perform t a
  let t := Timeline.settle Connection.world t
  (t, ⟨lenses, t.state.sent⟩)

/-- A connection after the first call of its client. -/
def connect (server : Server) (files : FileTree) (client : Client) (replies : Bool) :
    Timeline Connection :=
  { state := { server := server.begin files client, files, replies } }

end ClassLens.Simulation
