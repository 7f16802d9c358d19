import ClassLens.Document.Store
import ClassLens.Lens
import ClassLens.Resolve.Location
import ClassLens.Session.Step
import ClassLens.Settings.File

/-! # The server's state

A server keeps the documents that the client has open, runs a session over them, and follows the
client's settings.

* `Server`: the state of a server.
* `Server.editor`: what the session's resolver reads: open documents first, files else.
* `Server.documentUpdated`: an opened or edited document is resolved, or the documents that import it.
* `Server.resizeCache` … `Server.keepSettings`: the parts of a change of settings, and
  `Server.applySettings`, all of them.
* `Server.begin`: the first call of a client. -/

namespace ClassLens

/-- What the server sends to its client. -/
inductive Message where
  /-- A line for the client's log: for information, or as a warning. -/
  | log (warning : Bool) (text : String)
  /-- A request to ask for all lenses again. -/
  | refreshLenses
  deriving DecidableEq, Repr

/-- Where a change of settings stands. -/
inductive SettingsPhase where
  /-- Before it looks at the settings that hold so far. -/
  | begun
  /-- Before it replaces the scanner. -/
  | scanner (previous : Settings)
  /-- Before it replaces the options. -/
  | options (previous : Settings)
  /-- Before it replaces the extractor. -/
  | extractor
  /-- Before the new settings hold. -/
  | keeping
  deriving Repr

/-- A call of the client that is being handled, by its place. -/
inductive Handler where
  /-- An opened document, before the server looks whether to tell. -/
  | opening (uri : Uri) (language text : String) (version : Int)
  /-- An opened document, while the client is told. -/
  | announcing (uri : Uri) (language text : String) (version : Int)
  /-- New settings, before the server looks at its own. -/
  | configuring (payload : Json.Value)
  /-- A change of settings. -/
  | changing (settings : Settings) (phase : SettingsPhase)
  /-- A lens request, before the server looks at its settings. -/
  | lensAsked (uri : Uri)
  /-- A lens request that waits for a run. -/
  | lensResolving (uri : Uri) (settings : LensSettings) (call : Nat)
  deriving Repr

/-- The state of a server. -/
structure Server where
  session : Session
  documents : Documents := .empty
  /-- The document that was opened or edited last. -/
  active : Option Uri := none
  roots : List Path := []
  /-- Whether the client can be asked to ask for lenses again. -/
  refreshSupported : Bool := false
  /-- Whether failures are sent to the client. -/
  forwarding : Bool := true
  settings : Settings := {}
  /-- Whether the extractor is fixed and does not follow the settings. -/
  pinned : Bool := false
  handlers : Table Nat Handler := .empty
  nextHandler : Nat := 0

/-- What a client says of itself first. -/
structure Client where
  root : Option Uri := none
  /-- The folders that are open; without any the root does not count. -/
  folders : Option (List Uri) := none
  options : Option Json.Value := none
  refreshSupported : Bool := false

/-- The name and the version that the server gives. -/
def serverName : String := "css-lens"

def serverVersion : String := "0.1.0"

/-- How documents are kept in step: by parts. -/
def documentSync : Nat := 2

/-- A line for the client's log. -/
def clientText (text : String) : String := "css-lens: " ++ text

namespace Server

/-- A server with default settings. -/
def ofExtractor (extractor : Extractor) (pinned : Bool) : Server :=
  let settings : Settings := {}
  { session := { resolver := .ofOptions extractor settings.options,
                 debounce := settings.resolution.debounce }
    pinned }

/-- A server that runs the extractor of its settings. -/
def ofSettings : Server :=
  ofExtractor (.command {} defaultCommand []) false

/-! ### What the resolver reads -/

/-- The file that an import names. -/
def locate (s : Server) (files : FileTree) (uri : Uri) (specifier : String) : Option Path :=
  uri.filePath?.bind fun document => locateImport files document specifier s.roots

/-- The content of a stylesheet: of the open document, or else of the file. -/
def readCss (s : Server) (files : FileTree) (path : Path) : Except String String :=
  match s.documents.atPath? path with
  | some text => .ok text
  | none =>
    match files.read path with
    | .ok text => .ok text
    | .error fault => .error fault.message

/-- What the session's resolver reads. -/
def editor (s : Server) (files : FileTree) : Editor where
  active := s.active
  snapshot? := s.documents.snapshot?
  locate := s.locate files
  read := s.readCss files

/-! ### Documents -/

/-- Makes a task for the current version of a document. -/
def refresh (s : Server) (files : FileTree) (uri : Uri) : Server :=
  { s with session := (s.session.refresh (s.editor files) uri).1 }

/-- Makes tasks for the documents that import a stylesheet. -/
def refreshDependents (s : Server) (files : FileTree) (path : Path) : Server :=
  (s.session.resolver.importing path).foldl (fun s uri => s.refresh files uri) s

/-- The session takes an event. -/
def handleEvent (s : Server) (files : FileTree) (e : EditorEvent) : Server :=
  { s with session := (s.session.handle (s.editor files) e).1 }

/-- A document was opened or edited: one with usages becomes active and is resolved, right away if it
was opened or was not active; for a stylesheet those that import it are. -/
def documentUpdated (s : Server) (files : FileTree) (uri : Uri) (opened : Bool) : Server :=
  match s.documents.get? uri with
  | none => s
  | some d =>
    if d.isResolvable then
      let switched := s.active ≠ some uri
      let s := { s with active := some uri }
      s.handleEvent files (if opened || switched then .activated uri else .edited uri d.version)
    else if d.isStylesheet then
      match uri.filePath? with
      | some path => s.refreshDependents files path
      | none => s
    else s

/-- A document is opened. -/
def openDocument (s : Server) (files : FileTree) (uri : Uri) (language text : String)
    (version : Int) : Server :=
  { s with documents := s.documents.openDocument uri language text version }.documentUpdated
    files uri true

/-- A document is changed, if it is open. -/
def changeDocument (s : Server) (files : FileTree) (uri : Uri) (changes : List Change)
    (version : Int) : Server :=
  if s.documents.contains uri then
    { s with documents := s.documents.change uri changes version }.documentUpdated files uri false
  else s

/-- A document is closed. Those that import it fall back to the file. -/
def closeDocument (s : Server) (files : FileTree) (uri : Uri) : Server :=
  let closed := s.documents.get? uri
  let s := { s with
    documents := s.documents.close uri
    session := s.session.forget uri
    active := if s.active = some uri then none else s.active }
  match closed.filter Document.isStylesheet, uri.filePath? with
  | some _, some path =>
    let r := s.session.resolver
    let s := { s with
      session := { s.session with resolver := { r with cache := r.cache.invalidate path } } }
    s.refreshDependents files path
  | _, _ => s

/-! ### Settings -/

/-- The server with another resolver. -/
def withResolver (s : Server) (r : Resolver) : Server :=
  { s with session := { s.session with resolver := r } }

/-- The first part of a change of settings: the size of the cache. -/
def resizeCache (s : Server) (new : Settings) : Server :=
  s.withResolver (s.session.resolver.resizeCache new.options)

/-- The second part: the scanner. -/
def followBindings (s : Server) (new : Settings) : Server :=
  s.withResolver (s.session.resolver.followBindings new.options)

/-- The third part: the options, the time that tasks sleep, and whether failures are sent. -/
def followOptions (s : Server) (new : Settings) : Server :=
  { s with
    session := { s.session with
      resolver := { s.session.resolver with options := new.options }
      debounce := new.resolution.debounce }
    forwarding := new.logging.level.allowsWarn }

/-- Whether a change of settings changes the extractor. -/
def changesExtractor (s : Server) (previous new : Settings) : Bool :=
  !s.pinned && previous.extractor != new.extractor

/-- The fourth part, where the extractor changes. -/
def followExtractor (s : Server) (files : FileTree) (new : Settings) : Server :=
  s.withResolver
    (s.session.resolver.setExtractor (.command files new.extractor.command new.extractor.args))

/-- The last part: the new settings hold. -/
def keepSettings (s : Server) (new : Settings) : Server :=
  { s with settings := new }

/-- A change of settings, all at once. -/
def applySettings (s : Server) (files : FileTree) (new : Settings) : Server :=
  let previous := s.settings
  let s := ((s.resizeCache new).followBindings new).followOptions new
  let s := if s.changesExtractor previous new then s.followExtractor files new else s
  s.keepSettings new

/-- The directories that a client has open. -/
def rootsOf (c : Client) : List Path :=
  match c.folders with
  | some folders => folders.filterMap Uri.filePath?
  | none => (c.root.bind Uri.filePath?).toList

/-- The settings that a client starts with: those of the configuration file of its first directory,
and then its options. -/
def startSettings (files : FileTree) (c : Client) : Settings :=
  let settings : Settings := {}
  let settings := match rootsOf c with
    | root :: _ => settings.mergeConfigFile files root
    | [] => settings
  match c.options with
  | some payload => settings.merge payload
  | none => settings

/-- The first call of a client. -/
def begin (s : Server) (files : FileTree) (c : Client) : Server :=
  { s.applySettings files (startSettings files c) with
    roots := rootsOf c, refreshSupported := c.refreshSupported }

end Server

end ClassLens
