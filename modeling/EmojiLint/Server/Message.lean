import EmojiLint.Exclude.Matcher
import EmojiLint.Json.Value
import EmojiLint.Severity
import EmojiLint.Text.Lines
import EmojiLint.Uri.Read

/-!
# What an editor and the server say to each other

An editor sends requests, which are answered, and notifications, which are not; both are a `Call`
once their parameters were understood.  The server answers requests and says some things of its own
accord, which are its `Notice`s.  Documents are named by URIs and places in them by positions.
-/

set_option autoImplicit false

namespace EmojiLint
namespace Server

/-! ## What the editor says -/

/-- A message as it arrives. -/
structure Message where
  /-- Whether the editor waits for an answer. -/
  isRequest : Bool
  method : String
  params : Option Json

/-- The methods of the protocol. -/
inductive Method
  /-- The first request. -/
  | start
  /-- The editor has understood the answer to the first request. -/
  | started
  | shutdown
  | exit
  /-- An earlier request need not be answered any more. -/
  | cancel
  | didOpen
  | didChange
  | didClose
  | didChangeConfiguration
  | codeAction
  | executeCommand
  /-- A request that there is no answer for. -/
  | question (name : String)
  /-- A notification that changes nothing. -/
  | remark
deriving DecidableEq, Repr

/-- The commands that an editor can have executed. -/
inductive Command
  /-- Remove the emoji of one open document. -/
  | removeEmoji
  /-- Remove the emoji of some files. -/
  | removeFromFiles
  | exclude (target : Exclude.Target)
deriving DecidableEq, Repr

/-- A message that was understood. -/
inductive Call
  | start (root : Option Path) (options : Option Json)
  | started
  | shutdown
  | didOpen (uri : Uri) (language text : String) (version : Int)
  /-- A document has changed.  Without changes there is no text. -/
  | didChange (uri : Uri) (text : Option String) (version : Int)
  | didClose (uri : Uri)
  | didChangeConfiguration (settings : Json)
  | codeAction (uri : Uri) (extent : Extent)
  | executeCommand (name : String) (arguments : List Json)
  | question

/-! ## What the server says -/

/-- A diagnostic as an editor shows it. -/
structure Problem where
  extent : Extent
  severity : Severity
  code : Nat
  message : String
deriving DecidableEq, Repr

/-- Replace a piece of a document. -/
structure DocumentEdit where
  uri : String
  extent : Extent
  newText : String
deriving DecidableEq, Repr

/-- An edit that is offered for a problem. -/
structure CodeAction where
  title : String
  problem : Problem
  edit : DocumentEdit
  preferred : Bool
deriving DecidableEq, Repr

/-- Why a request is refused. -/
inductive Refusal
  | notInitialized
  | invalidRequest
  | unknownMethod
  | invalidParams
deriving DecidableEq, Repr

/-- The number of a refusal. -/
def Refusal.code : Refusal → Int
  | notInitialized => -32002
  | invalidRequest => -32600
  | unknownMethod => -32601
  | invalidParams => -32602

/-- The answer to a request. -/
inductive Answer
  | nothing
  /-- What the server can do. -/
  | capabilities
  | actions (actions : List CodeAction)
deriving DecidableEq, Repr

/-- What the server says of its own accord. -/
inductive Notice
  /-- All problems of a document, in place of those it had before. -/
  | publish (uri : String) (problems : List Problem) (version : Option Int)
  | showError (text : String)
  | showInfo (text : String)
  | logInfo (text : String)
  /-- Ask for an edit of an open document. -/
  | applyEdit (edit : DocumentEdit)
deriving DecidableEq, Repr

end Server
end EmojiLint
