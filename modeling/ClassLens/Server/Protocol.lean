import ClassLens.Json.Printer
import ClassLens.Server.Step

/-! # What client and server write

Client and server exchange JSON values, one in each message, with a header in front of it.

* `Incoming.ofValue?`: what a client's message says.
* `greetingReply`, `lensReply`, `emptyReply`, `errorReply`, `Message.value`: what the server writes.
* `contentLength?`, `framed`: the header of a message.
* `Server.readPlaces`, `configPlaces`: the files that the server may have to read.

Ranges run from a line and a column to another line and column, all counted from zero. -/

namespace ClassLens

open Json

/-! ### Reading messages -/

/-- The value at the end of a path of names. -/
def Json.Value.at? (v : Value) (path : List String) : Option Value :=
  path.foldlM Value.member? v

/-- A list as such. -/
def Json.Value.items? : Value → Option (List Value)
  | .list vs => some vs
  | _ => none

/-- A whole number. -/
def Json.Value.whole? : Value → Option Int
  | .number (.whole n) => some n
  | _ => none

/-- A URI. -/
def Json.Value.uri? (v : Value) : Option Uri :=
  v.text?.map Uri.mk

/-- A position. -/
def Position.ofValue? (v : Value) : Option Position := do
  return ⟨← (← v.member? "line").count?, ← (← v.member? "character").count?⟩

/-- A change of a document. -/
def Change.ofValue? (v : Value) : Option Change := do
  let text ← (← v.member? "text").text?
  match v.member? "range" with
  | none | some .null => return .whole text
  | some range =>
    return .part (← Position.ofValue? (← range.member? "start"))
      (← Position.ofValue? (← range.member? "end")) text

/-- What a client says of itself first. -/
def Client.ofValue (v : Value) : Client where
  root := (v.member? "rootUri").bind Value.uri?
  folders := ((v.member? "workspaceFolders").bind Value.items?).map fun folders =>
    folders.filterMap fun folder => (folder.member? "uri").bind Value.uri?
  options := v.member? "initializationOptions"
  refreshSupported :=
    ((v.at? ["capabilities", "workspace", "codeLens", "refreshSupport"]).bind Value.flag?).getD false

/-- A call by its method and its parameters. -/
def Call.ofParams? (method : String) (params : Value) : Option Call := do
  match method with
  | "textDocument/didOpen" =>
    let d ← params.member? "textDocument"
    return .opened (← (← d.member? "uri").uri?) (← (← d.member? "languageId").text?)
      (← (← d.member? "text").text?) (← (← d.member? "version").whole?)
  | "textDocument/didChange" =>
    let changes ← (← params.member? "contentChanges").items?
    return .changed (← (← params.at? ["textDocument", "uri"]).uri?)
      (← changes.mapM Change.ofValue?) (← (← params.at? ["textDocument", "version"]).whole?)
  | "textDocument/didClose" => return .closed (← (← params.at? ["textDocument", "uri"]).uri?)
  | "workspace/didChangeConfiguration" => return .configured (← params.member? "settings")
  | "textDocument/codeLens" => return .lenses (← (← params.at? ["textDocument", "uri"]).uri?)
  | _ => none

/-- What a client's message says. -/
inductive Incoming where
  | greeting (id : Value) (client : Client)
  /-- A call; one that wants an answer has a name for it. -/
  | call (id : Option Value) (call : Call)
  | shutdown (id : Value)
  | exit
  /-- A request that is not known or not well formed. -/
  | refused (id : Value)
  /-- A message that wants no answer and says nothing: an answer, or a notice that is not known. -/
  | passed

/-- What a client's message says. -/
def Incoming.ofValue (v : Value) : Incoming :=
  let params := (v.member? "params").getD .null
  match (v.member? "method").bind Value.text?, v.member? "id" with
  | none, _ => .passed
  | some "initialize", some id => .greeting id (.ofValue params)
  | some "shutdown", some id => .shutdown id
  | some "exit", none => .exit
  | some method, id =>
    match Call.ofParams? method params, id with
    | some c, id => .call id c
    | none, some id => .refused id
    | none, none => .passed

/-! ### Writing messages -/

/-- A number in a message. -/
def numberValue (n : Nat) : Value := .number (.whole n)

/-- A message with the mark of the protocol. -/
def envelope (members : List (String × Value)) : Value :=
  .object (("jsonrpc", .string "2.0") :: members)

/-- The answer to a request. -/
def answerTo (id result : Value) : Value :=
  envelope [("id", id), ("result", result)]

/-- A position as it is written. -/
def Position.value (p : Position) : Value :=
  .object [("line", numberValue p.line), ("character", numberValue p.character)]

/-- A lens as it is written: its command does nothing. -/
def Lens.value (l : Lens) : Value :=
  .object [
    ("range", .object [("start", l.start.value), ("end", l.stop.value)]),
    ("command", .object [("title", .string l.title), ("command", .string "")])]

/-- What the server says of itself. -/
def serverValue : Value :=
  .object [
    ("capabilities", .object [
      ("textDocumentSync", numberValue documentSync),
      ("codeLensProvider", .object [("resolveProvider", .bool false)])]),
    ("serverInfo", .object [("name", .string serverName), ("version", .string serverVersion)])]

/-- The answer to the first call. -/
def greetingReply (id : Value) : Value :=
  answerTo id serverValue

/-- The answer to a lens request. -/
def lensReply (id : Value) (lenses : Option (List Lens)) : Value :=
  answerTo id ((lenses.map fun ls => .list (ls.map Lens.value)).getD .null)

/-- The answer to a request that asks for nothing. -/
def emptyReply (id : Value) : Value :=
  answerTo id .null

/-- Why a request is not answered. -/
inductive RequestFault where
  | unknownMethod
  | notInitialized
  /-- The client has already asked for an end. -/
  | afterEnd
  deriving DecidableEq, Repr

/-- The code of a fault. -/
def RequestFault.code : RequestFault → Int
  | unknownMethod => -32601
  | notInitialized => -32002
  | afterEnd => -32600

/-- The wording of a fault. -/
def RequestFault.message : RequestFault → String
  | unknownMethod => "Method not found"
  | notInitialized => "Server not initialized"
  | afterEnd => "Invalid request"

/-- The answer to a request that is refused. -/
def errorReply (id : Value) (fault : RequestFault) : Value :=
  envelope [("id", id),
    ("error", .object [("code", .number (.whole fault.code)), ("message", .string fault.message)])]

/-- A message of the server; `number` tells its requests apart. -/
def Message.value (number : Nat) : Message → Value
  | .log warning text =>
    envelope [("method", .string "window/logMessage"),
      ("params", .object [("type", numberValue (if warning then 2 else 3)), ("message", .string text)])]
  | .refreshLenses =>
    envelope [("id", numberValue number), ("method", .string "workspace/codeLens/refresh")]

/-! ### Headers -/

/-- The number of bytes that a line of a header announces. -/
def contentLength? (line : String) : Option Nat :=
  match "Content-Length:".toList.isPrefixOf? line.toList with
  | some rest =>
    let text := Text.trim (String.ofList rest)
    if text.toList.all Char.isDigit then text.toNat? else none
  | none => none

/-- A value with the header that announces it. -/
def framed (v : Value) : String :=
  let body := v.render
  "Content-Length: " ++ toString body.utf8ByteSize ++ "\r\n\r\n" ++ body

/-! ### Files -/

/-- The files that the server's session may read: those that open documents import. -/
def Server.readPlaces (s : Server) : List Path :=
  s.documents.entries.flatMap fun (uri, d) =>
    match uri.filePath?, (Usage.imports d.text).head? with
    | some document, some found => importPlaces document found.specifier s.roots
    | _, _ => []

/-- The files that may configure a client's server. -/
def configPlaces (c : Client) : List Path :=
  match Server.rootsOf c with
  | root :: _ => root.ancestors.map fun dir => dir.join (.ofString configName)
  | [] => []

end ClassLens
