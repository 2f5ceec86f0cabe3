import EmojiLint.Debounce
import EmojiLint.Project.Basic
import EmojiLint.Server.Decode
import EmojiLint.Settings.Editor
import EmojiLint.Workspace

/-!
# The language server

A `Server` keeps the workspace of an editor and tells it what is found in its documents.  A document
is scanned when it is opened, shortly after it was edited, and whenever the settings change; a scan
publishes all problems of the document in place of those it had before.

* `Server.receive` handles a message, and `Server.wait` lets time pass.  Both return what the server
  says meanwhile, and both leave no scan behind whose time has come.
* `Client` is what the server knows of the editor beyond its messages: whether it applies an edit.
-/

set_option autoImplicit false

namespace EmojiLint

/-- Which edits the editor applies when it is asked to. -/
abbrev Client := Server.DocumentEdit → Bool

/-- How far the conversation with an editor has come. -/
inductive Server.Stage
  | waiting
  | running
  /-- No more requests are answered. -/
  | stopped
  | exited
deriving DecidableEq, Repr

structure Server where
  stage : Server.Stage := .waiting
  workspace : Workspace := {}
  /-- The scans that are still to come, each under the URI of its document. -/
  scans : Debouncer String Unit := {}

namespace Server

/-! ## Scans -/

/-- How long a document that was edited is left alone, in milliseconds. -/
def editDelay : Nat := 150

/-- Scan a document after a delay, in place of the scan that was still to come. -/
def scheduleScan (server : Server) (uri : String) (delay : Nat) : Server :=
  if Uri.isScannable uri then
    { server with scans := server.scans.schedule uri delay () [] }
  else server

/-- Scan all open documents as soon as possible.  The text of a URI is read again for it. -/
def rescan (server : Server) : Server :=
  server.workspace.uris.foldl
    (fun server text =>
      match Uri.read text with
      | none => server
      | some uri => server.scheduleScan uri.text 0)
    server

/-- A diagnostic of a text as an editor shows it. -/
def problem (index : LineIndex) (text : List Char) (d : Diagnostic) : Problem :=
  ⟨index.extentOf text d.span, d.severity, d.code, d.message⟩

/-- All problems of a text. -/
def problems (text : String) (fs : Findings) : List Problem :=
  fs.map (problem (LineIndex.ofText text.toList) text.toList)

/-- Scan a document.  Nothing is said of a document that is not open. -/
def scan (ws : Workspace) (uri : String) : Option Notice :=
  (ws.document? uri).map fun doc =>
    .publish uri (problems doc.text (ws.diagnostics uri)) (some doc.version)

/-- Whether the server may speak: between the first request and the end. -/
def Stage.maySpeak : Stage → Bool
  | running | stopped => true
  | waiting | exited => false

/-- Let time pass, and do the scans that become due. -/
def wait (server : Server) (milliseconds : Nat) : List Notice × Server :=
  let (events, scans) := server.scans.advance milliseconds
  let notices :=
    if server.stage.maySpeak then
      events.filterMap fun (uri, _) => scan server.workspace uri
    else []
  (notices, { server with scans })

/-! ## Documents -/

def openDocument (server : Server) (uri : Uri) (language text : String) (version : Int) : Server :=
  let workspace := server.workspace.openDocument uri.text uri.path? text language version
  { server with workspace }.scheduleScan uri.text 0

/-- Change the text of a document.  A change without a text still puts off its scan. -/
def changeDocument (server : Server) (uri : Uri) (text : Option String) (version : Int) : Server :=
  let workspace :=
    match text with
    | none => server.workspace
    | some text => server.workspace.updateDocument uri.text text version
  { server with workspace }.scheduleScan uri.text editDelay

def closeDocument (server : Server) (uri : Uri) : Server :=
  { server with
    workspace := server.workspace.closeDocument uri.text
    scans := server.scans.cancel uri.text }

/-! ## Settings -/

/-- The settings at the start: those that the editor sends, or else those of the settings file.  A
settings file that cannot be used does not matter. -/
def startSettings (disk : Disk) (root : Option Path) (options : Option Json) : Settings :=
  match options.bind Settings.ofEditor? with
  | some settings => settings
  | none =>
    match root with
    | none => {}
    | some root =>
      match Settings.load disk (root.child Settings.fileName) with
      | .ok settings => settings
      | .error _ => {}

/-- Take over the settings of the editor.  A value that cannot be used changes nothing. -/
def changeSettings (server : Server) (value : Json) : Server :=
  match (Settings.ofEditor? value).bind server.workspace.setSettings? with
  | none => server
  | some workspace => { server with workspace }.rescan

/-! ## Edits -/

/-- The edits that are offered for a piece of a document. -/
def codeActions (ws : Workspace) (uri : String) (extent : Extent) : List CodeAction :=
  match ws.document? uri with
  | none => []
  | some doc =>
    let text := doc.text.toList
    let index := LineIndex.ofText text
    (ws.quickFixes uri (index.spanOf text extent)).map fun (d, fix) =>
      { title := fix.title
        problem := problem index text d
        edit := ⟨uri, index.extentOf text fix.edit.span, fix.edit.newText⟩
        preferred := fix.preferred }

/-- The edit that removes every emoji of an open document. -/
def removalEdit? (ws : Workspace) (uri : String) : Option DocumentEdit := do
  let doc ← ws.document? uri
  let edit ← ws.removeAll? uri
  let text := doc.text.toList
  return ⟨uri, (LineIndex.ofText text).extentOf text edit.span, edit.newText⟩

/-- The outcome of removing emoji from some files. -/
structure Removal where
  report : CleanReport
  disk : Disk
  notices : List Notice := []

/-- Remove the emoji of one more file.  A file that is open under this URI is edited by the editor
and not written. -/
def Removal.add (client : Client) (ws : Workspace) (removal : Removal) (uri : Uri) : Removal :=
  if ws.isOpen uri.text then
    match removalEdit? ws uri.text with
    | none => removal
    | some edit =>
      { removal with
        report := removal.report.add (.ok (client edit))
        notices := removal.notices ++ [.applyEdit edit] }
  else
    match uri.path? with
    | none => removal
    | some path =>
      let (outcome, disk) := removal.disk.clean path
      { removal with report := removal.report.add outcome, disk }

/-! ## Commands -/

/-- A line that tells the user who speaks. -/
def titled (text : String) : String :=
  "Emoji Eraser: " ++ text

/-- Exclude a file and what goes with it. -/
def exclude (server : Server) (disk : Disk) (uri : Uri) (target : Exclude.Target) :
    Server × Disk × List Notice :=
  match uri.path? with
  | none => (server, disk, [])
  | some path =>
    let relative := server.workspace.relative path
    let (result, workspace, disk) := server.workspace.exclude disk path target
    let server := { server with workspace }
    match result with
    | .ok outcome => (server.rescan, disk, [.showInfo (outcome.message target relative)])
    | .error e => (server, disk, [.showError (titled e.message)])

/-- Execute a command.  All but one take only the first of the URIs. -/
def execute (server : Server) (disk : Disk) (client : Client) (command : Command)
    (arguments : List Json) : Server × Disk × List Notice :=
  let uris := uriArguments command.schemes arguments
  match command, uris with
  | _, [] => (server, disk, [])
  | .removeEmoji, uri :: _ =>
    (server, disk, ((removalEdit? server.workspace uri.text).map .applyEdit).toList)
  | .removeFromFiles, uri :: more =>
    let removal := (uri :: more).foldl (Removal.add client server.workspace)
      ⟨{ attempted := uris.length }, disk, []⟩
    (server, removal.disk, removal.notices ++ [.showInfo (titled removal.report.message)])
  | .exclude target, uri :: _ => server.exclude disk uri target

/-! ## Messages -/

/-- What a message leads to. -/
structure Effect where
  server : Server
  disk : Disk
  notices : List Notice := []
  answer : Answer := .nothing

/-- Handle a message that was understood. -/
def handle (server : Server) (disk : Disk) (client : Client) : Call → Effect
  | .start root options =>
    let settings := startSettings disk root options
    { server := { server with
        stage := .running
        workspace := { server.workspace with root, settings } }
      disk
      answer := .capabilities }
  | .started => { server, disk, notices := [.logInfo "emoji-eraser language server initialized"] }
  | .shutdown => { server := { server with scans := server.scans.cancelAll }, disk }
  | .didOpen uri language text version =>
    { server := server.openDocument uri language text version, disk }
  | .didChange uri text version => { server := server.changeDocument uri text version, disk }
  | .didClose uri =>
    { server := server.closeDocument uri, disk, notices := [.publish uri.text [] none] }
  | .didChangeConfiguration settings => { server := server.changeSettings settings, disk }
  | .codeAction uri extent =>
    let actions := codeActions server.workspace uri.text extent
    { server, disk, answer := if actions.isEmpty then .nothing else .actions actions }
  | .executeCommand name arguments =>
    match Command.ofName? name with
    | none => { server, disk }
    | some command =>
      let (server, disk, notices) := server.execute disk client command arguments
      { server, disk, notices }
  | .question => { server, disk }

/-- Why a message comes at the wrong time, if it does. -/
def Stage.refusal? (stage : Stage) (method : Method) : Option Refusal :=
  match stage, method with
  | _, .cancel => none
  | .waiting, .start => none
  | _, .start => some .invalidRequest
  | .waiting, _ => some .notInitialized
  | .running, _ => none
  | _, _ => some .invalidRequest

/-- What came of a message: what is answered to a request, and what the server says besides. -/
structure Response where
  server : Server
  disk : Disk
  reply : Option (Except Refusal Answer) := none
  notices : List Notice := []

/-- Handle a message with a method of the protocol.  A message that comes at the wrong time, or that
is not understood, has no effect; but once it is time to shut down, nothing more is answered.  A
notification cannot be sent as a request, nor a request as a notification. -/
def respond (server : Server) (disk : Disk) (client : Client) (method : Method)
    (message : Message) : Response :=
  let refuse (server : Server) (refusal : Refusal) : Response :=
    { server, disk, reply := if message.isRequest then some (.error refusal) else none }
  match server.stage.refusal? method with
  | some refusal => refuse server refusal
  | none =>
    let server := if method = .shutdown then { server with stage := .stopped } else server
    if message.isRequest != method.isRequest then refuse server .invalidRequest
    else
      match Call.ofMessage? method message.params with
      | none => refuse server .invalidParams
      | some .question => refuse server .unknownMethod
      | some call =>
        let effect := server.handle disk client call
        { server := effect.server, disk := effect.disk, notices := effect.notices
          reply := if message.isRequest then some (.ok effect.answer) else none }

/-- Handle a message, and do the scans that become due at once.  After the end nothing happens. -/
def receive (server : Server) (disk : Disk) (client : Client) (message : Message) : Response :=
  if server.stage = .exited then { server, disk }
  else
    match Method.ofName? message.method with
    | none =>
      let silent := !message.isRequest || isOptional message.method
      { server, disk, reply := if silent then none else some (.error .unknownMethod) }
    | some .exit => { server := { server with stage := .exited }, disk }
    | some method =>
      let response := server.respond disk client method message
      let (notices, server) := response.server.wait 0
      { response with server, notices := response.notices ++ notices }

end Server
end EmojiLint
