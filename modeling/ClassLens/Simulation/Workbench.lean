import ClassLens.Resolve.Location
import ClassLens.Simulation.Clock

/-! # A session on a workbench

A session whose editor is held in memory and whose clock is moved by hand.

* `Workbench`: the session, the documents and stylesheets of its editor, and what was seen so far.
* `Command`: what can be done with it.
* `run`: does one thing and lets everything settle; the entry says what came of it. -/

namespace ClassLens.Simulation

/-- A session with an editor in memory. -/
structure Workbench where
  session : Session
  documents : Table Uri (String × Int) := .empty
  /-- Stylesheets, by the components of their paths. -/
  stylesheets : Table (List Component) String := .empty
  active : Option Uri := none
  /-- How long the editor takes for a result, in milliseconds. -/
  applyDelay : Nat := 0
  /-- What was seen, in order. -/
  log : List Event := []
  /-- The numbers that tasks are known by outside. -/
  numbers : Table Nat Nat := .empty
  /-- Number of extractions so far. -/
  extractions : Nat := 0

namespace Workbench

/-- The file that an import names. -/
def locate (uri : Uri) (specifier : String) : Option Path :=
  uri.filePath?.bind fun document => locateImport {} document specifier []

/-- What the resolver reads. -/
def editor (b : Workbench) : Editor where
  active := b.active
  snapshot? := b.documents.get?
  locate := locate
  read path :=
    match b.stylesheets.get? path.components with
    | some css => .ok css
    | none => .error "no such file"

/-- Lets an agent go on. -/
def step (b : Workbench) (id : Nat) : Workbench :=
  let (session, events) := b.session.step b.editor id (b.session.expires id)
  { b with
    session, log := b.log ++ events
    extractions := b.extractions + (events.filter fun e => e matches .extracted _).length }

/-- What an agent waits for; the editor takes the same time for all results. -/
def pause (b : Workbench) (id : Nat) : Pause :=
  match b.session.wait id with
  | .gone => .gone
  | .blocked => .blocked
  | .time ms => .time ms
  | .editor => .time b.applyDelay

/-- The workbench as the clock sees it. -/
def world : World Workbench where
  agents b := b.session.agents.keys
  pause := pause
  step := step

/-- Gives an agent the next number. -/
def numbered (b : Workbench) (id : Nat) : Workbench × Nat :=
  let number := b.numbers.size + 1
  ({ b with numbers := b.numbers.insert id number }, number)

end Workbench

/-- What can be done with a workbench. -/
inductive Command where
  | setDocument (uri : Uri) (text : String) (version : Int)
  | removeDocument (uri : Uri)
  | setStylesheet (path : Path) (css : Option String)
  | setActive (uri : Option Uri)
  | setApplyDelay (ms : Nat)
  | setDebounce (ms : Nat)
  | event (event : EditorEvent)
  | refresh (uri : Uri)
  | forget (uri : Uri)
  | advance (ms : Nat)
  | resolve (request : Request)
  | spawnResolve (request : Request)
  | annotations (uri : Uri)
  | record (uri : Uri) (version : Int)
  | isCurrent (uri : Uri) (version : Int)
  | latest (uri : Uri)
  | importing (path : Path)
  | setOptions (options : Options)
  | swapExtractor
  | clearCache
  | invalidate (path : Path)

/-- What is answered at once. -/
inductive Reply where
  | nothing
  | active (snapshot : Option (String × Int))
  | number (value : Nat)
  | task (number : Option Nat)
  | answer (answer : Option Answer)
  | annotations (list : List Annotation)
  | flag (value : Bool)
  | resolution (resolution : Option Resolution)
  | uris (list : List Uri)
  | options (options : Options)

/-- How a numbered task ended. -/
inductive TaskEnd where
  | task (number : Nat) (resolution : Option Resolution)
  | call (number : Nat) (answer : Answer)

/-- The number of a task. -/
def TaskEnd.number : TaskEnd → Nat
  | task n _ | call n _ => n

/-- What came of a command. -/
structure Entry where
  reply : Reply
  /-- The tasks that ended, by number. -/
  ended : List TaskEnd
  applied : List (Uri × Int × Nat)
  reported : List (Uri × Failure)
  extractions : Nat
  cached : Nat

/-- Entries by their documents, those of one document in order. -/
def byUri {α : Type} (l : List (Uri × α)) : List (Uri × α) :=
  l.mergeSort fun a b => a.1.text ≤ b.1.text

/-- What the log says since some point of it. -/
def entryOf (reply : Reply) (ended : List TaskEnd) (b : Workbench) : Entry :=
  let endOf : Event → Option TaskEnd
    | .ended id r => (b.numbers.get? id).map (.task · r)
    | .answered id a => (b.numbers.get? id).map (.call · a)
    | _ => none
  { reply
    ended := (ended ++ b.log.filterMap endOf).mergeSort fun x y => x.number ≤ y.number
    applied := byUri (b.log.filterMap fun e =>
      match e with
      | .applied uri version n => some (uri, version, n)
      | _ => none)
    reported := byUri (b.log.filterMap fun e =>
      match e with
      | .reported uri failure => some (uri, failure)
      | _ => none)
    extractions := b.extractions
    cached := b.session.resolver.cache.size }

namespace Workbench

/-- The workbench with another session. -/
def withSession (b : Workbench) (s : Session) : Workbench := { b with session := s }

/-- The workbench with another resolver. -/
def withResolver (b : Workbench) (r : Resolver) : Workbench :=
  b.withSession { b.session with resolver := r }

/-- What is answered to a run that was asked for. -/
def answerOf? (b : Workbench) (id : Nat) : Option Answer :=
  b.log.findSome? fun e =>
    match e with
    | .answered call answer => if call = id then some answer else none
    | _ => none

/-- Numbers a task that an event made, if it made one. -/
def numberTask (b : Workbench) (made : Session × Option Nat) : Workbench × Reply :=
  let b := b.withSession made.1
  match made.2 with
  | none => (b, .task none)
  | some id => let (b, number) := b.numbered id; (b, .task (some number))

end Workbench

/-- Asks for a run and waits for its answer. -/
def awaitCall (t : Timeline Workbench) (q : Request) : Timeline Workbench × Option Answer :=
  match t.state.session.call q with
  | (s, .error answer) => ({ t with state := t.state.withSession s }, some answer)
  | (s, .ok id) =>
    let t := Timeline.await Workbench.world { t with state := t.state.withSession s } id
    (t, t.state.answerOf? id)

/-- Does one thing, before everything settles. -/
def perform (t : Timeline Workbench) (c : Command) : Timeline Workbench × Reply × List TaskEnd :=
  let b := t.state
  let r := b.session.resolver
  let done (b : Workbench) (reply : Reply) : Timeline Workbench × Reply × List TaskEnd :=
    ({ t with state := b }, reply, [])
  match c with
  | .setDocument uri text version =>
    done { b with documents := b.documents.insert uri (text, version) } .nothing
  | .removeDocument uri => done { b with documents := b.documents.erase uri } .nothing
  | .setStylesheet path (some css) =>
    done { b with stylesheets := b.stylesheets.insert path.components css } .nothing
  | .setStylesheet path none =>
    done { b with stylesheets := b.stylesheets.erase path.components } .nothing
  | .setActive uri =>
    let b := { b with active := uri }
    done b (.active (uri.bind b.documents.get?))
  | .setApplyDelay ms => done { b with applyDelay := ms } .nothing
  | .setDebounce ms => done (b.withSession { b.session with debounce := ms }) (.number ms)
  | .event e =>
    let (b, reply) := b.numberTask (b.session.handle b.editor e)
    done b reply
  | .refresh uri =>
    let (b, reply) := b.numberTask (b.session.refresh b.editor uri)
    done b reply
  | .forget uri => done (b.withSession (b.session.forget uri)) .nothing
  | .advance ms => (Timeline.advance Workbench.world t ms, .nothing, [])
  | .resolve q =>
    let (t, answer) := awaitCall t q
    (t, .answer answer, [])
  | .spawnResolve q =>
    match b.session.call q with
    | (s, .ok id) =>
      let (b, number) := (b.withSession s).numbered id
      done b (.number number)
    | (s, .error answer) =>
      let (b, number) := (b.withSession { s with nextAgent := s.nextAgent + 1 }).numbered s.nextAgent
      ({ t with state := b }, .number number, [.call number answer])
  | .annotations uri =>
    match b.session.annotations b.editor uri with
    | .inl found => done b (.annotations found)
    | .inr q =>
      let (t, answer) := awaitCall t q
      (t, .annotations ((answer.map Session.annotationsOf).getD []), [])
  | .record uri version =>
    done (b.withResolver (r.begin uri version)) (.flag (r.refusedBy? uri version).isNone)
  | .isCurrent uri version => done b (.flag (r.isCurrent uri version))
  | .latest uri => done b (.resolution (r.resolution? uri))
  | .importing path =>
    done b (.uris ((r.importing path).mergeSort fun a b => a.text ≤ b.text))
  | .setOptions options => done (b.withResolver (r.setOptions options)) (.options options)
  | .swapExtractor => done (b.withResolver (r.setExtractor .scripted)) .nothing
  | .clearCache => done (b.withResolver { r with cache := r.cache.clear }) .nothing
  | .invalidate path => done (b.withResolver { r with cache := r.cache.invalidate path }) .nothing

/-- Does one thing and lets everything settle. -/
def run (t : Timeline Workbench) (c : Command) : Timeline Workbench × Entry :=
  let (t, reply, ended) := perform { t with state := { t.state with log := [] } } c
  let t := Timeline.settle Workbench.world t
  (t, entryOf reply ended t.state)

/-- A workbench whose resolver has done nothing yet. -/
def start (options : Options) (scanner : Option Usage.Scanner) : Timeline Workbench :=
  let r := Resolver.ofOptions .scripted options
  { state := { session := .ofResolver (match scanner with
      | some s => r.withScanner s
      | none => r) } }

end ClassLens.Simulation
