import ClassLens.CommandLine
import ClassLens.Server.Protocol
import ClassLens.Simulation.Connection

/-! # The language server as a program

The program speaks with one client over its standard input and output. It moves the server's clock by
the time that passes between two messages, and reads the files that the server may ask for before
each step. -/

namespace ClassLens.Application

open Simulation

/-- What the program keeps between two messages. -/
structure Talk where
  input : IO.FS.Stream
  output : IO.FS.Stream
  log : String → IO Unit
  invocation : Invocation

/-- The number of bytes of the next message; none at the end of the input. -/
partial def readHeader (input : IO.FS.Stream) (length : Option Nat) : IO (Option Nat) := do
  let line ← input.getLine
  if line.isEmpty then return none
  if Text.trim line = "" then
    match length with
    | some n => return some n
    | none => readHeader input none
  else readHeader input ((contentLength? line).or length)

/-- So many bytes of the input, or fewer at its end. -/
partial def readBytes (input : IO.FS.Stream) (bytes : ByteArray) (missing : Nat) : IO ByteArray := do
  if missing = 0 then return bytes
  let more ← input.read missing.toUSize
  if more.isEmpty then return bytes
  readBytes input (bytes ++ more) (missing - more.size)

/-- The next message; none at the end of the input. -/
partial def readMessage (input : IO.FS.Stream) : IO (Option Json.Value) := do
  match ← readHeader input none with
  | none => return none
  | some n =>
    let body ← readBytes input .empty n
    match (String.fromUTF8? body).map Json.Value.ofString with
    | some (.ok v) => return some v
    | _ => readMessage input

/-- Sends a value. -/
def send (talk : Talk) (v : Json.Value) : IO Unit := do
  talk.output.putStr (framed v)
  talk.output.flush

/-- Sends messages of the server, the first one by the given number; gives the next number. -/
def sendAll (talk : Talk) (number : Nat) : List Message → IO Nat
  | [] => return number
  | m :: rest => do
    talk.log ("sent " ++ (m.value number).render)
    send talk (m.value number)
    sendAll talk (number + 1) rest

/-- The files among some places, as far as they can be read. -/
def readFiles (places : List Path) : IO FileTree :=
  places.foldlM (fun files place => do
    match ← (IO.FS.readFile place.text).toBaseIO with
    | .ok content => return files.write place content
    | .error _ => return files) {}

/-- The server that an invocation asks for. -/
def serverOf (invocation : Invocation) : Server :=
  match invocation.extractor with
  | some command => .ofExtractor (.command {} command []) true
  | none => .ofSettings

/-- The connection with the files that its server may read. -/
def refreshFiles (t : Timeline Connection) : IO (Timeline Connection) := do
  let files ← readFiles t.state.server.readPlaces
  return { t with state := { t.state with files } }

/-- Moves the clock to the present. -/
def catchUp (talk : Talk) (start number : Nat) (t : Timeline Connection) :
    IO (Timeline Connection × Nat) := do
  let now ← IO.monoMsNow
  let t ← refreshFiles t
  let (t, exchange) := act t (.advance (now - start - t.now))
  return (t, ← sendAll talk number exchange.sent)

/-- Waits for a message, letting the clock run. -/
partial def await (talk : Talk) (start number : Nat) (t : Timeline Connection)
    (message : Task (Except IO.Error (Option Json.Value))) :
    IO (Timeline Connection × Nat × Option Json.Value) := do
  let (t, number) ← catchUp talk start number t
  if ← IO.hasFinished message then
    return (t, number, (← IO.ofExcept message.get))
  IO.sleep 5
  await talk start number t message

/-- Handles messages until the client ends the talk. -/
partial def converse (talk : Talk) (start number : Nat) (t : Timeline Connection) : IO Unit := do
  let (t, number, message) ← await talk start number t (← IO.asTask (readMessage talk.input))
  match message.map Incoming.ofValue with
  | none | some .exit => return
  | some (.call id call) =>
    if t.state.isShut then
      match id with
      | some id => send talk (errorReply id .afterEnd)
      | none => pure ()
      return ← converse talk start number t
    let opened := match call with
      | .opened uri language text version =>
        { t.state.server with
          documents := t.state.server.documents.openDocument uri language text version }
      | .changed uri changes version =>
        { t.state.server with documents := t.state.server.documents.change uri changes version }
      | _ => t.state.server
    let files ← readFiles opened.readPlaces
    let (t, exchange) := act { t with state := { t.state with files } } (.call call)
    match id with
    | some id => send talk (lensReply id exchange.lenses)
    | none => pure ()
    converse talk start (← sendAll talk number exchange.sent) t
  | some (.shutdown id) =>
    send talk (if t.state.isShut then errorReply id .afterEnd else emptyReply id)
    converse talk start number (act t .shutdown).1
  | some (.greeting id _) =>
    send talk (errorReply id .afterEnd)
    converse talk start number t
  | some (.refused id) =>
    send talk (errorReply id (if t.state.isShut then .afterEnd else .unknownMethod))
    converse talk start number t
  | some .passed => converse talk start number t

/-- Waits for the first call and then handles the others. -/
partial def greet (talk : Talk) : IO Unit := do
  match (← readMessage talk.input).map Incoming.ofValue with
  | none | some .exit => return
  | some (.greeting id client) =>
    let files ← readFiles (configPlaces client)
    let t := connect (serverOf talk.invocation) files client true
    send talk (greetingReply id)
    converse talk (← IO.monoMsNow) 0 t
  | some (.call (some id) _) | some (.refused id) | some (.shutdown id) =>
    send talk (errorReply id .notInitialized)
    greet talk
  | some _ => greet talk

/-- The file that the log is written to. -/
def logPath (invocation : Invocation) : IO Path := do
  match invocation.logFile with
  | some file => return .ofString file
  | none =>
    let dir := (← IO.getEnv "HOME").map logDirectory
    match dir with
    | some dir =>
      match ← (IO.FS.createDirAll dir.text).toBaseIO with
      | .ok _ => return dir.join logName
      | .error _ => return (Path.ofString "/tmp").join logName
    | none => return (Path.ofString "/tmp").join logName

/-- Serves a client. -/
def serve (invocation : Invocation) : IO Unit := do
  let path ← logPath invocation
  let file ← IO.FS.Handle.mk path.text .append
  let tell (line : String) : IO Unit := do
    file.putStrLn line
    file.flush
  tell ("Starting " ++ serverName ++ " server v" ++ serverVersion)
  let log := if invocation.verbose then tell else fun _ => pure ()
  greet ⟨← IO.getStdin, ← IO.getStdout, log, invocation⟩
  tell (serverName ++ " server stopped")

end ClassLens.Application

def main (args : List String) : IO UInt32 := do
  match ClassLens.CommandLine.ofArgs args with
  | .serve invocation =>
    ClassLens.Application.serve invocation
    return 0
  | .help =>
    IO.print ClassLens.CommandLine.usage
    return 0
  | .version =>
    IO.println (ClassLens.serverName ++ " " ++ ClassLens.serverVersion)
    return 0
  | .refused reason =>
    IO.eprint (ClassLens.CommandLine.complaint reason)
    return 2
