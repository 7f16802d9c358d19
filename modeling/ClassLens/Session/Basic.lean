import ClassLens.Resolve.Run

/-! # Sessions

A session resolves documents as the editor tells of them. Each event makes a task. A task for a text
change sleeps first, so that a burst of changes is resolved once. A finished task hands its result to
the editor while it holds the document's slot: one result at a time, in the order in which the tasks
asked for the slot, and never an older version after a newer one.

* `Slot`: the tasks that hold or want a document's slot, and the version that was applied last.
* `Agent`: what goes on beside everything else, a task or the run that some asker waits for.
* `Session`: the state of a session.
* `Session.schedule`, `Session.refresh`, `Session.handle`: events make tasks.
* `Session.call`: a run is asked for.
* `Session.forget`: a document is closed. -/

namespace ClassLens

/-- The place where results for a document wait to be applied. -/
structure Slot where
  /-- The version that was applied last. -/
  last : Option Int := none
  /-- The task that holds the slot and then those that wait for it. -/
  line : List Nat := []
  deriving DecidableEq, Repr

/-- Where a task stands. -/
inductive TaskPhase where
  /-- While it sleeps, for so many milliseconds in all. -/
  | asleep (delay : Nat)
  /-- Before it starts without having slept. -/
  | awake
  | resolving (run : Run)
  /-- While it waits in the line of a slot. -/
  | waiting (slot : Nat) (resolution : Resolution)
  /-- While the editor takes its result. -/
  | applying (slot : Nat) (resolution : Resolution)

/-- A task for a version of a document. -/
structure LensTask where
  uri : Uri
  version : Int
  phase : TaskPhase

/-- What goes on beside everything else. -/
inductive Agent where
  | task (task : LensTask)
  /-- A run that an asker waits for. -/
  | call (run : Run)

/-- The state of a session. Agents and slots are known by numbers that are not used again. -/
structure Session where
  resolver : Resolver
  /-- How long a task for a text change sleeps, in milliseconds. -/
  debounce : Nat := 0
  /-- The slot of each document. -/
  slotOf : Table Uri Nat := .empty
  slots : Table Nat Slot := .empty
  agents : Table Nat Agent := .empty
  nextAgent : Nat := 1
  nextSlot : Nat := 0

/-- What the editor tells of its documents. -/
inductive EditorEvent where
  | activated (uri : Uri)
  | edited (uri : Uri) (version : Int)
  deriving DecidableEq, Repr

/-- The document that an event is about. -/
def EditorEvent.uri : EditorEvent → Uri
  | activated uri => uri
  | edited uri _ => uri

/-- What others see of a session. -/
inductive Event where
  /-- A failure is reported. -/
  | reported (uri : Uri) (failure : Failure)
  /-- An extraction starts. -/
  | extracted (uri : Uri)
  /-- A result is handed to the editor. -/
  | applying (uri : Uri) (version : Int)
  /-- The editor has taken a result with so many annotations. -/
  | applied (uri : Uri) (version : Int) (annotations : Nat)
  /-- A task ended, with the resolution that it applied. -/
  | ended (task : Nat) (resolution : Option Resolution)
  /-- A run that was asked for ended. -/
  | answered (call : Nat) (answer : Answer)
  deriving Repr

namespace Session

/-- A session whose resolver has done nothing yet. -/
def ofResolver (r : Resolver) : Session := { resolver := r }

/-- Adds an agent; gives its number. -/
def spawn (s : Session) (a : Agent) : Session × Nat :=
  ({ s with agents := s.agents.insert s.nextAgent a, nextAgent := s.nextAgent + 1 }, s.nextAgent)

/-- Makes a task for a version of a document; the version counts as asked for right away. -/
def schedule (s : Session) (uri : Uri) (version : Int) (delay : Nat) : Session × Nat :=
  let s := { s with resolver := s.resolver.begin uri version }
  s.spawn (.task ⟨uri, version, if delay = 0 then .awake else .asleep delay⟩)

/-- Makes a task for the current version of a document, if it is open. -/
def refresh (s : Session) (editor : Editor) (uri : Uri) : Session × Option Nat :=
  match editor.snapshot? uri with
  | none => (s, none)
  | some (_, version) =>
    let (s, id) := s.schedule uri version 0
    (s, some id)

/-- Takes an event; those of documents that are not active are passed over. -/
def handle (s : Session) (editor : Editor) (e : EditorEvent) : Session × Option Nat :=
  if editor.active = some e.uri then
    match e with
    | .activated uri => s.refresh editor uri
    | .edited uri version =>
      let (s, id) := s.schedule uri version s.debounce
      (s, some id)
  else
    (s, none)

/-- Asks for a run: its number, or the answer if it is refused. -/
def call (s : Session) (q : Request) : Session × Except Answer Nat :=
  match s.resolver.start q with
  | (r, .error answer) => ({ s with resolver := r }, .error answer)
  | (r, .ok run) =>
    let (s, id) := { s with resolver := r }.spawn (.call run)
    (s, .ok id)

/-- What a lens request gets at once: nothing for a document that is not open, and the annotations of
the last resolution if it is of the current version; otherwise the request to be resolved. -/
def annotations (s : Session) (editor : Editor) (uri : Uri) : List Annotation ⊕ Request :=
  match editor.snapshot? uri with
  | none => .inl []
  | some (text, version) =>
    match s.resolver.resolution? uri with
    | some kept => if kept.version = version then .inl kept.annotations else .inr ⟨uri, text, version⟩
    | none => .inr ⟨uri, text, version⟩

/-- The annotations of an answer. -/
def annotationsOf : Answer → List Annotation
  | .ready resolution => resolution.annotations
  | .stale _ _ => []

/-- Drops all that is known of a document. Tasks that wait in its slot keep waiting there. -/
def forget (s : Session) (uri : Uri) : Session :=
  { s with resolver := s.resolver.forget uri, slotOf := s.slotOf.erase uri }

end Session

end ClassLens
