import EmojiLint.CommandLine.Run
import EmojiLint.CommandLine.Watch
import EmojiLint.Server.Basic
import EmojiLint.Server.Wire
import Std.Data.HashSet

/-!
# The program

The program reads the part of the disk that a command can be about, has the command run on it, and
writes what has changed.  It goes on running while it watches files or serves an editor.

Nothing is decided here: `CommandLine.run`, `CommandLine.checkChanged` and `Server.receive` say what
is printed, sent and written.
-/

set_option autoImplicit false

namespace EmojiLint
namespace Shell

/-! ## Reading the disk -/

/-- What was read so far. -/
structure Reading where
  entries : Array (Location × Node) := #[]
  /-- The paths of all entries. -/
  known : Std.HashSet String := {}
  /-- The folders whose entries were all read. -/
  walked : Std.HashSet String := {}
  /-- What could not be read. -/
  refused : List (Access × Location × OsError) := []

abbrev Reader := StateRefT Reading IO

/-- The error of the system that comes closest. -/
def osError : IO.Error → OsError
  | .noFileOrDirectory .. => .notFound
  | .permissionDenied .. => .permissionDenied
  | .inappropriateType .. => .isAFolder
  | .resourceExhausted .. => .noSpace
  | _ => .inputOutput

/-- The location of an absolute path without links and dots. -/
def location (path : String) : Location :=
  (path.splitOn "/").filter fun name => !name.isEmpty

/-- Note down an entry, unless it was noted down before. -/
def record (path : String) (read : Reader Node) : Reader Unit := do
  unless (← get).known.contains path do
    let node ← read
    modify fun reading =>
      { reading with
        entries := reading.entries.push (location path, node)
        known := reading.known.insert path }

/-- Note down that something could not be read. -/
def refuse (access : Access) (path : String) (e : IO.Error) : Reader Unit :=
  modify fun reading =>
    { reading with refused := (access, location path, osError e) :: reading.refused }

/-- The content of a file.  One that cannot be read counts as empty. -/
def readContent (path : String) : Reader ByteArray := do
  match ← (IO.FS.readBinFile path).toBaseIO with
  | .ok content => return content
  | .error e =>
    refuse .readFile path e
    return .empty

mutual

/-- Read an entry of a folder, and all that is on the way to where it leads.  Returns the path of
the folder there, if it is one. -/
partial def readEntry (folder name : String) : Reader (Option String) := do
  let path := (← IO.FS.realPath folder) / name
  match ← path.symlinkMetadata.toBaseIO with
  | .error _ => return none
  | .ok entry =>
    let path := path.toString
    match entry.type with
    | .dir =>
      record path (pure (.folder Disk.folderPermissions))
      return some path
    | .file =>
      record path (return .file (← readContent path) Disk.filePermissions)
      return none
    | .symlink =>
      match ← (IO.FS.realPath path).toBaseIO with
      | .error _ => return none
      | .ok target =>
        record path (pure (.link (.ofText target.toString)))
        readPath (.ofText target.toString)
    | .other => return none

/-- Read all that is on the way to where a path leads.  Returns the path of the folder there, if it
is one. -/
partial def readPath (path : Path) : Reader (Option String) := do
  let mut folder := "/"
  for hop in Disk.hops path do
    match hop with
    | .stay | .slash => pure ()
    | .stray => return none
    | .up => folder := (Path.parent? (.ofText folder)).elim folder Path.text
    | .name name =>
      match ← readEntry folder name with
      | none => return none
      | some next => folder := next
  return some folder

end

/-- Read all that is below a folder. -/
partial def readBelow (folder : String) : Reader Unit := do
  unless (← get).walked.contains folder do
    modify fun reading => { reading with walked := reading.walked.insert folder }
    match ← (IO.FS.realPath folder >>= fun path => path.readDir).toBaseIO with
    | .error e => refuse .listFolder folder e
    | .ok entries =>
      for entry in entries do
        if let some below ← readEntry folder entry.fileName then
          unless Discovery.skippedNames.contains entry.fileName do readBelow below

/-- Read the part of the disk that some paths are about: where they lead, and, for the first of
them, what is below. -/
def readDisk (folders paths : List Path) : IO Disk := do
  let read : Reader Unit := do
    for path in folders do
      if let some folder ← readPath path then readBelow folder
    for path in paths do
      discard (readPath path)
  let (_, reading) ← read.run {}
  let refusal (access : Access) (loc : Location) : Option OsError :=
    (reading.refused.find? fun entry => entry.1 = access && entry.2.1 = loc).map fun e => e.2.2
  return { entries := reading.entries.toList, refusal }

/-! ## Writing -/

/-- Write the files that have changed.  Returns the first that could not be written, and why. -/
def write (before after : Disk) : IO (Option (Location × OsError)) := do
  for (loc, node) in after.entries do
    if let .file content _ := node then
      let old := before.node? loc
      if old ≠ some node then
        let path := (CommandLine.Watch.pathTo loc).text
        try
          if let some (.link _) := old then IO.FS.removeFile path
          IO.FS.writeBinFile path content
        catch e => return some (loc, osError e)
  return none

/-- The disk when a file cannot be written. -/
def withRefusal (disk : Disk) (loc : Location) (e : OsError) : Disk :=
  let refusal (access : Access) (other : Location) : Option OsError :=
    if other = loc && [Access.createFile, .writeFile, .renameFile].contains access then some e
    else disk.refusal access other
  { disk with refusal }

/-- Do something on the disk, and write what it changes.  What the system refuses is told to it by
doing it once more. -/
partial def onDisk {α : Type} (disk : Disk) (act : Disk → α) (after : α → Disk) : IO α := do
  let result := act disk
  match ← write disk (after result) with
  | none => return result
  | some (loc, e) => onDisk (withRefusal disk loc e) act after

/-! ## Watching -/

/-- Print what a command says. -/
def printOutcome (outcome : CommandLine.Outcome) : IO Unit := do
  let output ← IO.getStdout
  output.putStr outcome.output
  output.flush
  (← IO.getStderr).putStr outcome.errors

/-- How long to wait before looking again, in milliseconds. -/
def pause : UInt32 :=
  20

/-- Look at the files again and again, and check those that change. -/
partial def watch (place : CommandLine.Place) (options : CommandLine.Options)
    (settings : Settings) (clock : Nat) (state : CommandLine.Watch) : IO Unit := do
  IO.sleep (5 * pause)
  let disk ← readDisk (place.targets options) []
  let now ← IO.monoMsNow
  let (changed, state) := state.observe (now - clock) disk
  unless changed.isEmpty do
    printOutcome (CommandLine.checkChanged place options disk settings changed)
  watch place options settings now state

/-! ## Serving -/

/-- A conversation with an editor. -/
structure Session where
  server : Server := {}
  /-- When the server was told the time last. -/
  clock : Nat
  /-- The number of the next request to the editor. -/
  number : Nat := 0
  /-- What has arrived while the server waited for a reply. -/
  queue : List Server.Incoming := []

/-- Read a header up to the empty line at its end.  Returns the length that it tells. -/
partial def readHeader (input : IO.FS.Stream) (length : Option Nat) : IO (Option Nat) := do
  let line ← input.getLine
  if line.isEmpty then return none
  if line.trimAscii.isEmpty then return length
  readHeader input ((Server.contentLength? line).or length)

/-- Read what follows a header.  Returns nothing at the end of the input. -/
def readBody (input : IO.FS.Stream) : IO (Option ByteArray) := do
  match ← readHeader input none with
  | none => return none
  | some length =>
    let body ← input.read length.toUSize
    return if body.size < length then none else some body

def send (value : Json) : IO Unit := do
  let output ← IO.getStdout
  output.putStr (Server.frame value)
  output.flush

/-- Wait for something that can be understood. -/
partial def await (input : IO.FS.Stream) : IO (Option Server.Incoming) := do
  match ← readBody input with
  | none => return none
  | some body =>
    match (String.fromUTF8? body).map Json.parse with
    | some (.ok value) =>
      match Server.Incoming.ofJson? value with
      | some incoming => return some incoming
      | none => await input
    | _ =>
      send Server.faultJson
      await input

/-- Wait for the reply to a request.  What else arrives has to wait. -/
partial def awaitReply (input : IO.FS.Stream) (session : Session) : IO (Bool × Session) := do
  match ← await input with
  | none => return (false, session)
  | some (.reply (.whole number) applied) =>
    if number = session.number then
      return (applied, { session with number := session.number + 1 })
    else awaitReply input session
  | some (.reply _ _) => awaitReply input session
  | some incoming => awaitReply input { session with queue := session.queue ++ [incoming] }

/-- The strings in a value. -/
partial def strings : Json → List String
  | .string s => [s]
  | .array elements => elements.flatMap strings
  | .object members => members.flatMap fun (_, value) => strings value
  | _ => []

/-- Read the part of the disk that a message can be about. -/
def readFor (server : Server) (message : Server.Message) : IO Disk :=
  match Server.Method.ofName? message.method with
  | some .start | some .executeCommand =>
    let named := (message.params.elim [] strings).filterMap fun s => (Uri.read s).bind Uri.path?
    let settingsFiles := named.map fun path => path.child Settings.fileName
    readDisk [] (named ++ settingsFiles ++ server.workspace.settingsPath?.toList)
  | _ => return {}

/-- Handle a message. -/
def handle (input : IO.FS.Stream) (session : Session) (id : Option Json)
    (message : Server.Message) : IO Session := do
  let server := session.server
  let disk ← readFor server message
  let mut session := session
  let mut applied : List (Server.DocumentEdit × Bool) := []
  for notice in (server.receive disk (fun _ => true) message).notices do
    if let .applyEdit edit := notice then
      send (Server.noticeJson session.number notice)
      let (reply, newSession) ← awaitReply input session
      session := newSession
      applied := applied ++ [(edit, reply)]
  let client : Client := fun edit => (applied.lookup edit).getD true
  let response ← onDisk disk (fun disk => server.receive disk client message)
    Server.Response.disk
  for notice in response.notices do
    match notice with
    | .applyEdit _ => pure ()
    | notice => send (Server.noticeJson session.number notice)
  if let (some id, some reply) := (id, response.reply) then send (Server.replyJson id reply)
  return { session with server := response.server }

/-- Tell the server the time, and send what it says. -/
def tick (session : Session) : IO Session := do
  let now ← IO.monoMsNow
  let (notices, server) := session.server.wait (now - session.clock)
  for notice in notices do send (Server.noticeJson session.number notice)
  return { session with server, clock := now }

/-- Handle what has arrived while the server waited for a reply. -/
partial def handleQueue (input : IO.FS.Stream) (session : Session) : IO Session := do
  match session.queue with
  | [] => return session
  | .message id message :: queue =>
    handleQueue input (← handle input { session with queue } id message)
  | .reply _ _ :: queue => handleQueue input { session with queue }

/-- Let the server go on until something arrives. -/
partial def idle (session : Session) (inbox : Task (Except IO.Error (Option Server.Incoming))) :
    IO (Option Session) := do
  let session ← tick session
  if ← IO.hasFinished inbox then
    match ← IO.ofExcept inbox.get with
    | none => return none
    | some incoming => return some { session with queue := [incoming] }
  else
    IO.sleep pause
    idle session inbox

/-- Serve an editor until it is done. -/
partial def serve (input : IO.FS.Stream) (session : Session) : IO Unit := do
  if let some session ← idle session (← IO.asTask (await input) .dedicated) then
    let session ← handleQueue input session
    unless session.server.stage = .exited do serve input session

/-! ## Commands -/

/-- Read the part of the disk that a command line can be about. -/
def readForArguments (folder : Path) (args : List String) : IO Disk :=
  match CommandLine.Options.ofArguments args with
  | .error _ => return {}
  | .ok options =>
    let place := CommandLine.Place.ofOptions folder false options
    let checks :=
      !options.serve && !options.createSettings && (CommandLine.exclusions options).isEmpty
    readDisk (if checks then place.targets options else []) [place.settingsFile]

def run (args : List String) : IO UInt32 := do
  let folder : Path := .ofText (← IO.currentDir).toString
  let terminal ← (← IO.getStderr).isTty
  let disk ← readForArguments folder args
  let outcome ← onDisk disk (fun disk => CommandLine.run disk folder terminal args)
    CommandLine.Outcome.disk
  printOutcome outcome
  match outcome.next with
  | .exit => pure ()
  | .watch place options settings => watch place options settings (← IO.monoMsNow) { seen := disk }
  | .serve =>
    serve (← IO.getStdin) { clock := ← IO.monoMsNow }
  return outcome.code.toUInt32

end Shell
end EmojiLint

def main (args : List String) : IO UInt32 :=
  EmojiLint.Shell.run args
