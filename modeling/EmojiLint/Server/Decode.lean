import EmojiLint.Server.Form.Capabilities
import EmojiLint.Server.Form.Questions
import EmojiLint.Server.Message

/-!
# Understanding what an editor says

Messages are JSON values.  The parameters of every method have a form of their own, and what has
another form is not understood.  Once the parameters are in their canonical form, their members are
simply read.
-/

set_option autoImplicit false

namespace EmojiLint
namespace Server

/-! ## Members

What is read here is in its canonical form, so absent members are null. -/

/-- A member of an object. -/
def member (key : String) (value : Json) : Json :=
  (value.member? key).getD .null

/-- A member that may be null. -/
def given? (key : String) (value : Json) : Option Json :=
  (value.member? key).filter fun v => !v.isNull

def int? : Json → Option Int
  | .whole n => some n
  | _ => none

def nat? (value : Json) : Option Nat :=
  (int? value).map Int.toNat

def uri? (value : Json) : Option Uri :=
  value.asString?.bind Uri.read

def position? (value : Json) : Option Position := do
  return ⟨← nat? (member "line" value), ← nat? (member "character" value)⟩

def extent? (value : Json) : Option Extent := do
  return ⟨← position? (member "start" value), ← position? (member "end" value)⟩

/-- The URI of the document that parameters are about. -/
def documentUri? (params : Json) : Option Uri :=
  uri? (member "uri" (member "textDocument" params))

/-! ## Parameters -/

def startForm : Form :=
  .record [("processId", .nullable .nat), ("rootPath", .nullable .string),
    ("rootUri", .nullable .uri), ("initializationOptions", .nullable .any),
    ("capabilities", .capabilities), ("trace", .nullable (.word ["off", "messages", "verbose"])),
    ("workspaceFolders", .nullable (.list (.record [("uri", .uri), ("name", .string)]))),
    ("clientInfo", .nullable (.record [("name", .string), ("version", .nullable .string)])),
    ("locale", .nullable .string)]

/-- Read the parameters of the first request.  The root is the first folder of the workspace, if
there is one. -/
def start? (params : Json) : Option Call :=
  let folders := ((given? "workspaceFolders" params).bind Json.asArray?).getD []
  let root := (folders.head?.map (member "uri")).orElse fun _ => given? "rootUri" params
  some (.start ((root.bind uri?).bind Uri.path?) (given? "initializationOptions" params))

def didOpenForm : Form :=
  .record [("textDocument", .newDocument)]

def didOpen? (params : Json) : Option Call := do
  let doc := member "textDocument" params
  return .didOpen (← documentUri? params) (← (member "languageId" doc).asString?)
    (← (member "text" doc).asString?) (← int? (member "version" doc))

def didChangeForm : Form :=
  .record [("textDocument", .versionedDocument), ("contentChanges", .list .change)]

/-- Read a change of a document.  The text of the last change is the whole text, also when the
editor names a piece of it. -/
def didChange? (params : Json) : Option Call := do
  let changes ← (member "contentChanges" params).asArray?
  let text := changes.getLast?.bind fun change => (member "text" change).asString?
  return .didChange (← documentUri? params) text
    (← int? (member "version" (member "textDocument" params)))

def didCloseForm : Form :=
  .record [("textDocument", .document)]

def codeActionForm : Form :=
  .members ([("textDocument", .document), ("range", .range),
    ("context", .record [("diagnostics", .list .diagnostic), ("only", .nullable (.list .string)),
      ("triggerKind", .nullable .int)])] ++ Form.partialResults)

def codeAction? (params : Json) : Option Call := do
  return .codeAction (← documentUri? params) (← extent? (member "range" params))

def executeCommandForm : Form :=
  .members ([("command", .string), ("arguments", .optional (.list .any))] ++ Form.progress)

def executeCommand? (params : Json) : Option Call := do
  return .executeCommand (← (member "command" params).asString?)
    ((given? "arguments" params).bind Json.asArray? |>.getD [])

/-! ## Methods -/

/-- Notifications that change nothing. -/
def remarks : List String :=
  ["textDocument/willSave", "textDocument/didSave", "workspace/didChangeWorkspaceFolders",
    "workspace/didCreateFiles", "workspace/didRenameFiles", "workspace/didDeleteFiles",
    "workspace/didChangeWatchedFiles"]

/-- The method with a name, if the protocol knows it. -/
def Method.ofName? (name : String) : Option Method :=
  match name with
  | "initialize" => some start
  | "initialized" => some started
  | "shutdown" => some shutdown
  | "exit" => some exit
  | "$/cancelRequest" => some cancel
  | "textDocument/didOpen" => some didOpen
  | "textDocument/didChange" => some didChange
  | "textDocument/didClose" => some didClose
  | "workspace/didChangeConfiguration" => some didChangeConfiguration
  | "textDocument/codeAction" => some codeAction
  | "workspace/executeCommand" => some executeCommand
  | _ =>
    if (Form.questions.lookup name).isSome then some (question name)
    else if remarks.contains name then some remark
    else none

/-- Whether a method that nobody knows is passed over in silence. -/
def isOptional (name : String) : Bool :=
  "$/".toList.isPrefixOf name.toList

/-- Whether a method is for requests. -/
def Method.isRequest : Method → Bool
  | start | shutdown | codeAction | executeCommand | question _ => true
  | started | exit | cancel | didOpen | didChange | didClose | didChangeConfiguration | remark =>
    false

/-- The form of the parameters of a method. -/
def Method.form : Method → Form
  | start => startForm
  | started => .record []
  | didOpen => didOpenForm
  | didChange => didChangeForm
  | didClose => didCloseForm
  | didChangeConfiguration => .record [("settings", .any)]
  | codeAction => codeActionForm
  | executeCommand => executeCommandForm
  | question name => (Form.questions.lookup name).getD .any
  | shutdown | exit | cancel | remark => .any

/-- Understand a message whose parameters are in their canonical form. -/
def Method.call? (method : Method) (params : Json) : Option Call :=
  match method with
  | start => start? params
  | started => some .started
  | didOpen => didOpen? params
  | didChange => didChange? params
  | didClose => (documentUri? params).map .didClose
  | didChangeConfiguration => some (.didChangeConfiguration (member "settings" params))
  | codeAction => codeAction? params
  | executeCommand => executeCommand? params
  | question _ => some .question
  | shutdown | exit | cancel | remark => none

/-- Understand a message.  The request to shut down has no parameters, and every other message
must have some. -/
def Call.ofMessage? (method : Method) (params : Option Json) : Option Call :=
  match method, params with
  | .shutdown, none => some .shutdown
  | _, none => none
  | _, some params => (method.form.read? params).bind method.call?

/-! ## Commands -/

/-- The commands, by the names under which editors know them. -/
def Command.table : List (String × Command) := [
  ("emojiEraser.removeEmoji", .removeEmoji),
  ("emojiEraser.removeEmojisFromFiles", .removeFromFiles),
  ("emojiEraser.excludeThisFile", .exclude .file),
  ("emojiEraser.excludeAllWithSameExtension", .exclude .extension),
  ("emojiEraser.excludeThisFolder", .exclude .folder)]

def Command.ofName? (name : String) : Option Command :=
  table.lookup name

/-- The schemes of the documents that a command takes.  Texts without a file can only be edited. -/
def Command.schemes : Command → List String
  | removeEmoji => ["file", "untitled"]
  | _ => ["file"]

/-- The URIs among the arguments of a command, each once.  An argument is a URI or a list of them;
whatever else it is does not count. -/
def uriArguments (schemes : List String) (arguments : List Json) : List Uri :=
  let values := arguments.flatMap fun argument => argument.asArray?.getD [argument]
  let uris := (values.filterMap uri?).filter fun uri => schemes.contains (String.ofList uri.scheme)
  uris.foldl (fun kept uri => if kept.any fun k => k.text == uri.text then kept else kept ++ [uri])
    []

end Server
end EmojiLint
