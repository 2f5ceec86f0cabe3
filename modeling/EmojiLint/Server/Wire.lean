import EmojiLint.Json.Parse
import EmojiLint.Json.Print
import EmojiLint.Server.Encode

/-!
# Messages on the wire

An editor and the server exchange JSON objects, each after a header that tells its length in bytes.
`Incoming.ofJson?` understands what an editor sends: messages, and its replies to the requests of
the server.  `replyJson` and `noticeJson` are what the server sends, and `frame` puts the header
before it.
-/

set_option autoImplicit false

namespace EmojiLint
namespace Server

/-! ## What arrives -/

inductive Incoming
  /-- A message, with the identifier of a request. -/
  | message (id : Option Json) (message : Message)
  /-- The reply to a request of the server: whether an edit was applied. -/
  | reply (id : Json) (applied : Bool)

/-- Understand what an editor sends.  What has a method is a message. -/
def Incoming.ofJson? (value : Json) : Option Incoming :=
  let id := value.member? "id"
  match value.member? "method", id with
  | some (.string method), _ =>
    let params := (value.member? "params").filter fun params => !params.isNull
    some (.message id { isRequest := id.isSome, method, params })
  | some _, _ => none
  | none, none => none
  | none, some id =>
    let applied := do (← (← value.member? "result").member? "applied").asBool?
    some (.reply id (applied.getD false))

/-! ## What is sent -/

/-- What is said of a refusal. -/
def Refusal.message : Refusal → String
  | notInitialized => "Server not initialized"
  | invalidRequest => "Invalid request"
  | unknownMethod => "Method not found"
  | invalidParams => "Invalid params"

/-- An object of the protocol. -/
def wireJson (members : List (String × Json)) : Json :=
  .object (("jsonrpc", .string "2.0") :: members)

def errorJson (code : Int) (message : String) : Json :=
  .object [("code", .whole code), ("message", .string message)]

/-- The reply to a request. -/
def replyJson (id : Json) : Except Refusal Answer → Json
  | .ok answer => wireJson [("result", answer.json), ("id", id)]
  | .error refusal => wireJson [("error", errorJson refusal.code refusal.message), ("id", id)]

/-- The reply to something that is not JSON. -/
def faultJson : Json :=
  wireJson [("error", errorJson (-32700) "Parse error"), ("id", .null)]

/-- A notice.  One that asks for something has a number, which its reply repeats. -/
def noticeJson (number : Nat) (notice : Notice) : Json :=
  let members := [("method", .string notice.method), ("params", notice.params)]
  match notice with
  | .applyEdit _ => wireJson (members ++ [("id", natJson number)])
  | _ => wireJson members

/-! ## Frames -/

/-- A value with the header before it. -/
def frame (value : Json) : String :=
  let body := value.print
  "Content-Length: " ++ toString body.utf8ByteSize ++ "\r\n\r\n" ++ body

/-- The length that a line of a header tells, if it tells any. -/
def contentLength? (line : String) : Option Nat :=
  match line.splitOn ":" with
  | [name, value] =>
    if name.trimAscii.toString.toLower == "content-length" then value.trimAscii.toString.toNat?
    else none
  | _ => none

end Server
end EmojiLint
