import ClassLens.Server.Basic

/-! # Steps of a server

A call of the client is handled in steps, as the agents of the session are: a handler stops where it
needs something that others may hold, and any number of steps of others may come between. Changed and
closed documents are handled at once.

* `Server.receive`: a call of the client comes in.
* `Server.stepHandler`: a handler goes on to its next stop or its end.
* `Server.stepAgent`: an agent of the session goes on; a lens request that waited for it is answered. -/

namespace ClassLens

/-- A call of the client. -/
inductive Call where
  | opened (uri : Uri) (language text : String) (version : Int)
  | changed (uri : Uri) (changes : List Change) (version : Int)
  | closed (uri : Uri)
  | configured (payload : Json.Value)
  | lenses (uri : Uri)
  deriving Repr

/-- A step of a server: the server after it, what it sent, and the answers to lens requests. -/
structure ServerStep where
  server : Server
  sent : List Message := []
  answered : List (Nat × Option (List Lens)) := []

namespace Server

/-- Adds a handler; gives its number. -/
def spawn (s : Server) (h : Handler) : Server × Nat :=
  ({ s with handlers := s.handlers.insert s.nextHandler h, nextHandler := s.nextHandler + 1 },
    s.nextHandler)

/-- A call of the client comes in; the number of its handler, if it is not handled at once. -/
def receive (s : Server) (files : FileTree) : Call → Server × Option Nat
  | .opened uri language text version =>
    let (s, id) := s.spawn (.opening uri language text version)
    (s, some id)
  | .changed uri changes version => (s.changeDocument files uri changes version, none)
  | .closed uri => (s.closeDocument files uri, none)
  | .configured payload =>
    let (s, id) := s.spawn (.configuring payload)
    (s, some id)
  | .lenses uri =>
    let (s, id) := s.spawn (.lensAsked uri)
    (s, some id)

/-- Puts a handler in another place. -/
def put (s : Server) (id : Nat) (h : Handler) : Server :=
  { s with handlers := s.handlers.insert id h }

/-- Ends a handler. -/
def drop (s : Server) (id : Nat) : Server :=
  { s with handlers := s.handlers.erase id }

/-! ### Lens requests -/

/-- The lenses for annotations of a document, if it is open still. -/
def lensesFor (s : Server) (uri : Uri) (settings : LensSettings) (annotations : List Annotation) :
    Option (List Lens) :=
  (s.documents.get? uri).map fun d => lenses d settings annotations

/-- Answers a lens request. -/
def answerLens (s : Server) (id : Nat) (answer : Option (List Lens)) : ServerStep :=
  { server := s.drop id, answered := [(id, answer)] }

/-- A lens request looks at the settings, and at the last resolution of its document; it may have to
wait for a run. -/
def askLenses (s : Server) (files : FileTree) (id : Nat) (uri : Uri) : ServerStep :=
  let settings := s.settings.lens
  if settings.enabled && (s.documents.get? uri).any Document.isResolvable then
    match s.session.annotations (s.editor files) uri with
    | .inl annotations => s.answerLens id (s.lensesFor uri settings annotations)
    | .inr q =>
      match s.session.call q with
      | (session, .ok call) =>
        { server := { s with session }.put id (.lensResolving uri settings call) }
      | (session, .error answer) =>
        let s := { s with session }
        s.answerLens id (s.lensesFor uri settings (Session.annotationsOf answer))
  else
    s.answerLens id none

/-! ### Handlers -/

/-- A change of settings goes on; at its end the active document is resolved again. -/
def stepSettings (s : Server) (files : FileTree) (id : Nat) (new : Settings) :
    SettingsPhase → Server
  | .begun => (s.resizeCache new).put id (.changing new (.scanner s.settings))
  | .scanner previous => (s.followBindings new).put id (.changing new (.options previous))
  | .options previous =>
    let s := s.followOptions new
    s.put id (.changing new (if s.changesExtractor previous new then .extractor else .keeping))
  | .extractor => (s.followExtractor files new).put id (.changing new .keeping)
  | .keeping =>
    let s := (s.keepSettings new).drop id
    match s.active with
    | some uri => s.refresh files uri
    | none => s

/-- A handler goes on. One that waits for a run stays where it is. -/
def stepHandler (s : Server) (files : FileTree) (id : Nat) : ServerStep :=
  match s.handlers.get? id with
  | none => { server := s }
  | some (.opening uri language text version) =>
    if s.settings.logging.level.allowsInfo then
      { server := s.put id (.announcing uri language text version)
        sent := [.log false (clientText ("Opened " ++ uri.shortName))] }
    else
      { server := (s.openDocument files uri language text version).drop id }
  | some (.announcing uri language text version) =>
    { server := (s.openDocument files uri language text version).drop id }
  | some (.configuring payload) =>
    let new := s.settings.merge payload
    { server := if new = s.settings then s.drop id else s.put id (.changing new .begun) }
  | some (.changing new phase) => { server := s.stepSettings files id new phase }
  | some (.lensAsked uri) => s.askLenses files id uri
  | some (.lensResolving _ _ _) => { server := s }

/-! ### Agents of the session -/

/-- What the client is told of an event. -/
def messagesOf (s : Server) : Event → List Message
  | .reported uri failure =>
    if s.forwarding then [.log true (clientText (uri.shortName ++ ": " ++ failure.message))] else []
  | .applying _ _ => if s.refreshSupported then [.refreshLenses] else []
  | _ => []

/-- The handler that waits for a run. -/
def waitingFor? (s : Server) (call : Nat) : Option (Nat × Uri × LensSettings) :=
  s.handlers.entries.findSome? fun (id, h) =>
    match h with
    | .lensResolving uri settings c => if c = call then some (id, uri, settings) else none
    | _ => none

/-- Answers the lens request that waited for a run. -/
def settleCall (step : ServerStep) (call : Nat) (answer : Answer) : ServerStep :=
  match step.server.waitingFor? call with
  | none => step
  | some (id, uri, settings) =>
    let s := step.server
    { step with
      server := s.drop id
      answered := step.answered ++
        [(id, s.lensesFor uri settings (Session.annotationsOf answer))] }

/-- Takes in what was seen of the session. -/
def observe (step : ServerStep) : List Event → ServerStep
  | [] => step
  | e :: rest =>
    let step := { step with sent := step.sent ++ step.server.messagesOf e }
    match e with
    | .answered call answer => observe (settleCall step call answer) rest
    | _ => observe step rest

/-- An agent of the session goes on. -/
def stepAgent (s : Server) (files : FileTree) (id : Nat) (expired : Bool) : ServerStep :=
  let (session, events) := s.session.step (s.editor files) id expired
  observe { server := { s with session } } events

end Server

end ClassLens
