import EmojiLint.Server.Form

/-!
# Forms of what is said about documents

Places in documents, what is reported there, and how it is edited.
-/

set_option autoImplicit false

namespace EmojiLint
namespace Server
namespace Form

/-! ## Places -/

def position : Form :=
  record [("line", nat), ("character", nat)]

def range : Form :=
  record [("start", position), ("end", position)]

def location : Form :=
  record [("uri", uri), ("range", range)]

/-! ## Documents -/

def document : Form :=
  record [("uri", uri)]

def versionedDocument : Form :=
  record [("uri", uri), ("version", int)]

/-- A document with its text. -/
def newDocument : Form :=
  record [("uri", uri), ("languageId", string), ("version", int), ("text", string)]

/-- A change of the text of a document. -/
def change : Form :=
  record [("range", nullable range), ("rangeLength", nullable nat), ("text", string)]

/-! ## Questions -/

/-- What identifies a piece of work, or the code of a diagnostic. -/
def token : Form :=
  either int string

/-- The members of a question that takes a while. -/
def progress : List (String × Form) :=
  [("workDoneToken", nullable token)]

/-- The members of a question that takes a while and whose answer may come in parts. -/
def partialResults : List (String × Form) :=
  progress ++ [("partialResultToken", nullable token)]

/-- The members of a question about a position. -/
def place : List (String × Form) :=
  [("textDocument", document), ("position", position)]

/-- An object with certain members and any others. -/
def members (ms : List (String × Form)) : Form :=
  object ms any

/-! ## Diagnostics -/

/-- A remark that belongs to a diagnostic. -/
def related : Form :=
  record [("location", location), ("message", string)]

def diagnostic : Form :=
  record [("range", range), ("severity", nullable int), ("code", nullable token),
    ("codeDescription", nullable (record [("href", uri)])), ("source", nullable string),
    ("message", string), ("relatedInformation", nullable (list related)),
    ("tags", nullable (list int)), ("data", nullable any)]

/-! ## Edits -/

def textEdit : Form :=
  record [("range", range), ("newText", string)]

def command : Form :=
  record [("title", string), ("command", string), ("arguments", nullable (list any))]

/-- The edits of one document. -/
def documentEdit : Form :=
  record [("textDocument", record [("uri", uri), ("version", nullable int)]),
    ("edits", list (either textEdit
      (members [("range", range), ("newText", string), ("annotationId", string)])))]

/-- The creation, the renaming or the deletion of a file. -/
def fileChange : Form :=
  let options (keys : List String) : Form :=
    nullable (record (keys.map fun key => (key, nullable bool)))
  let annotation : String × Form := ("annotationId", nullable string)
  either
    (members [("kind", word ["create"]), ("uri", uri),
      ("options", options ["overwrite", "ignoreIfExists"]), annotation])
    (either
      (members [("kind", word ["rename"]), ("oldUri", uri), ("newUri", uri),
        ("options", options ["overwrite", "ignoreIfExists"]), annotation])
      (members [("kind", word ["delete"]), ("uri", uri),
        ("options", nullable (record [("recursive", nullable bool),
          ("ignoreIfNotExists", nullable bool), annotation]))]))

/-- Edits of some documents. -/
def workspaceEdit : Form :=
  record [("changes", nullable (table uri (list textEdit))),
    ("documentChanges",
      nullable (either (list documentEdit) (list (either fileChange documentEdit)))),
    ("changeAnnotations", nullable (table string (record [("label", string),
      ("needsConfirmation", nullable bool), ("description", nullable string)])))]

/-! ## Texts with a markup -/

def markupKind : Form :=
  word ["plaintext", "markdown"]

/-- A text, perhaps with a markup. -/
def documentation : Form :=
  either string (record [("kind", markupKind), ("value", string)])

end Form
end Server
end EmojiLint
