import EmojiLint.Server.Decode
import EmojiLint.Settings.Basic

/-!
# Writing what the server says

Notices and answers are written as JSON values, in the form that editors expect.
-/

set_option autoImplicit false

namespace EmojiLint
namespace Server

/-- The name of the server. -/
def serverName : String :=
  "emoji-eraser"

def serverVersion : String :=
  "0.1.0"

/-! ## Parts -/

def natJson (n : Nat) : Json :=
  .whole n

def positionJson (p : Position) : Json :=
  .object [("line", natJson p.line), ("character", natJson p.column)]

def extentJson (e : Extent) : Json :=
  .object [("start", positionJson e.start), ("end", positionJson e.stop)]

/-- The number of a severity: the more severe, the smaller. -/
def severityNumber (s : Severity) : Nat :=
  4 - s.rank

def problemJson (p : Problem) : Json :=
  .object [("range", extentJson p.extent), ("severity", natJson (severityNumber p.severity)),
    ("code", natJson p.code), ("source", .string serverName), ("message", .string p.message)]

/-- An edit as a change of the workspace. -/
def editJson (e : DocumentEdit) : Json :=
  .object [("changes", .object [(e.uri,
    .array [.object [("range", extentJson e.extent), ("newText", .string e.newText)]])])]

def actionJson (a : CodeAction) : Json :=
  .object [("title", .string a.title), ("kind", .string "quickfix"),
    ("diagnostics", .array [problemJson a.problem]), ("edit", editJson a.edit),
    ("isPreferred", .bool a.preferred)]

/-! ## Answers -/

/-- What the server can do: it takes whole texts, offers quick fixes and executes its commands. -/
def capabilitiesJson : Json :=
  .object [
    ("capabilities", .object [
      ("textDocumentSync", .object [("openClose", .bool true), ("change", natJson 1)]),
      ("codeActionProvider", .object [("codeActionKinds", .array [.string "quickfix"])]),
      ("executeCommandProvider", .object [
        ("commands", .array (Command.table.map fun entry => .string entry.1))])]),
    ("serverInfo", .object [("name", .string serverName), ("version", .string serverVersion)])]

def Answer.json : Answer → Json
  | nothing => .null
  | capabilities => capabilitiesJson
  | actions as => .array (as.map actionJson)

/-! ## Notices -/

/-- A line for the user. -/
def lineJson (kind : Nat) (text : String) : Json :=
  .object [("type", natJson kind), ("message", .string text)]

/-- The method of a notice. -/
def Notice.method : Notice → String
  | publish _ _ _ => "textDocument/publishDiagnostics"
  | showError _ => "window/showMessage"
  | showInfo _ => "window/showMessage"
  | logInfo _ => "window/logMessage"
  | applyEdit _ => "workspace/applyEdit"

/-- The parameters of a notice. -/
def Notice.params : Notice → Json
  | publish uri problems version =>
    .object ([("uri", .string uri), ("diagnostics", .array (problems.map problemJson))]
      ++ (version.map fun v => ("version", .whole v)).toList)
  | showError text => lineJson 1 text
  | showInfo text => lineJson 3 text
  | logInfo text => lineJson 3 text
  | applyEdit edit => .object [("edit", editJson edit)]

end Server
end EmojiLint
