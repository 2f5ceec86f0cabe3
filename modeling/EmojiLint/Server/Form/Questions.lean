import EmojiLint.Server.Form.Document

/-!
# Questions without an answer

The protocol knows many requests that this server has no answer for.  They are told apart from
requests that nobody knows, and their parameters must have the right form as well.
-/

set_option autoImplicit false

namespace EmojiLint
namespace Server
namespace Form

/-! ## Parameters -/

/-- A question about a position. -/
def atPosition (more : List (String × Form)) : Form :=
  members (place ++ more)

/-- A question about a document. -/
def ofDocument (more : List (String × Form)) : Form :=
  members (("textDocument", document) :: more)

/-- How a text is laid out. -/
def layout : Form :=
  object ([("tabSize", nat), ("insertSpaces", bool)] ++
    ["trimTrailingWhitespace", "insertFinalNewline", "trimFinalNewlines"].map fun key =>
      (key, nullable bool)) (either bool (either int string))

def signatures : Form :=
  let parameter : Form :=
    record [("label", either string (record [("0", nat), ("1", nat)])),
      ("documentation", nullable documentation)]
  let signature : Form :=
    record [("label", string), ("documentation", nullable documentation),
      ("parameters", nullable (list parameter)), ("activeParameter", nullable nat)]
  record [("signatures", list signature), ("activeSignature", nullable nat),
    ("activeParameter", nullable nat)]

/-- Something with a name in a document, in a hierarchy of such things. -/
def hierarchyItem : Form :=
  record [("name", string), ("kind", int), ("tags", nullable (list int)),
    ("detail", nullable string), ("uri", uri), ("range", range), ("selectionRange", range),
    ("data", nullable any)]

/-- Something with a name in the workspace. -/
def workspaceSymbol : Form :=
  record [("name", string), ("kind", int), ("tags", nullable (list int)),
    ("containerName", nullable string), ("location", either location document),
    ("data", nullable any)]

def completionItem : Form :=
  record [("label", string),
    ("labelDetails",
      nullable (record [("detail", nullable string), ("description", nullable string)])),
    ("kind", nullable int), ("detail", nullable string),
    ("documentation", nullable documentation), ("deprecated", nullable bool),
    ("preselect", nullable bool), ("sortText", nullable string), ("filterText", nullable string),
    ("insertText", nullable string), ("insertTextFormat", nullable int),
    ("insertTextMode", nullable int),
    ("textEdit", nullable (either textEdit
      (record [("newText", string), ("insert", range), ("replace", range)]))),
    ("additionalTextEdits", nullable (list textEdit)), ("command", nullable command),
    ("commitCharacters", nullable (list string)), ("data", nullable any),
    ("tags", nullable (list int))]

def codeAction : Form :=
  record [("title", string), ("kind", nullable string),
    ("diagnostics", nullable (list diagnostic)), ("edit", nullable workspaceEdit),
    ("command", nullable command), ("isPreferred", nullable bool),
    ("disabled", nullable (record [("reason", string)])), ("data", nullable any)]

def inlayHint : Form :=
  let part : Form :=
    record [("value", string), ("tooltip", nullable documentation),
      ("location", nullable location), ("command", nullable command)]
  record [("position", position), ("label", either string (list part)), ("kind", nullable int),
    ("textEdits", nullable (list textEdit)), ("tooltip", nullable documentation),
    ("paddingLeft", nullable bool), ("paddingRight", nullable bool), ("data", nullable any)]

/-! ## The questions -/

/-- Questions about a position. -/
def positionQuestions : List (String × Form) := [
  ("textDocument/declaration", atPosition partialResults),
  ("textDocument/definition", atPosition partialResults),
  ("textDocument/typeDefinition", atPosition partialResults),
  ("textDocument/implementation", atPosition partialResults),
  ("textDocument/references",
    atPosition (partialResults ++ [("context", record [("includeDeclaration", bool)])])),
  ("textDocument/documentHighlight", atPosition partialResults),
  ("textDocument/hover", atPosition progress),
  ("textDocument/moniker", atPosition partialResults),
  ("textDocument/completion",
    atPosition (partialResults ++ [("context",
      nullable (record [("triggerKind", int), ("triggerCharacter", nullable string)]))])),
  ("textDocument/signatureHelp",
    atPosition (progress ++ [("context", nullable (record [("triggerKind", int),
      ("triggerCharacter", nullable string), ("isRetrigger", bool),
      ("activeSignatureHelp", nullable signatures)]))])),
  ("textDocument/onTypeFormatting", atPosition [("ch", string), ("options", layout)]),
  ("textDocument/rename", atPosition (progress ++ [("newName", string)])),
  ("textDocument/prepareRename", record place),
  ("textDocument/linkedEditingRange", atPosition progress),
  ("textDocument/prepareCallHierarchy", atPosition progress),
  ("textDocument/prepareTypeHierarchy", atPosition progress)]

/-- Questions about a whole document. -/
def documentQuestions : List (String × Form) := [
  ("textDocument/willSaveWaitUntil", record [("textDocument", document), ("reason", int)]),
  ("textDocument/documentLink", ofDocument partialResults),
  ("textDocument/codeLens", ofDocument partialResults),
  ("textDocument/foldingRange", ofDocument partialResults),
  ("textDocument/selectionRange", ofDocument (partialResults ++ [("positions", list position)])),
  ("textDocument/documentSymbol", ofDocument partialResults),
  ("textDocument/semanticTokens/full", ofDocument partialResults),
  ("textDocument/semanticTokens/full/delta",
    ofDocument (partialResults ++ [("previousResultId", string)])),
  ("textDocument/semanticTokens/range", ofDocument (partialResults ++ [("range", range)])),
  ("textDocument/inlineValue",
    ofDocument (progress ++ [("range", range),
      ("context", record [("frameId", int), ("stoppedLocation", range)])])),
  ("textDocument/inlayHint", ofDocument (progress ++ [("range", range)])),
  ("textDocument/diagnostic",
    ofDocument (partialResults ++ [("identifier", nullable string),
      ("previousResultId", nullable string)])),
  ("textDocument/documentColor", ofDocument partialResults),
  ("textDocument/colorPresentation",
    ofDocument (partialResults ++ [
      ("color", record (["red", "green", "blue", "alpha"].map fun key => (key, number))),
      ("range", range)])),
  ("textDocument/formatting", ofDocument (progress ++ [("options", layout)])),
  ("textDocument/rangeFormatting",
    ofDocument (progress ++ [("range", range), ("options", layout)]))]

/-- Questions about an item of an earlier answer. -/
def itemQuestions : List (String × Form) :=
  let ofItem : Form := members (partialResults ++ [("item", hierarchyItem)])
  [("callHierarchy/incomingCalls", ofItem), ("callHierarchy/outgoingCalls", ofItem),
    ("typeHierarchy/supertypes", ofItem), ("typeHierarchy/subtypes", ofItem),
    ("documentLink/resolve",
      record [("range", range), ("target", nullable uri), ("tooltip", nullable string),
        ("data", nullable any)]),
    ("codeLens/resolve",
      record [("range", range), ("command", nullable command), ("data", nullable any)]),
    ("completionItem/resolve", completionItem), ("codeAction/resolve", codeAction),
    ("inlayHint/resolve", inlayHint), ("workspaceSymbol/resolve", workspaceSymbol)]

/-- Questions about the workspace. -/
def workspaceQuestions : List (String × Form) :=
  let files (keys : List String) : Form :=
    record [("files", list (record (keys.map fun key => (key, string))))]
  [("workspace/symbol", members (partialResults ++ [("query", string)])),
    ("workspace/diagnostic",
      members (partialResults ++ [("identifier", nullable string),
        ("previousResultIds", list (record [("uri", uri), ("value", string)]))])),
    ("workspace/willCreateFiles", files ["uri"]),
    ("workspace/willRenameFiles", files ["oldUri", "newUri"]),
    ("workspace/willDeleteFiles", files ["uri"])]

/-- All questions without an answer, by their methods. -/
def questions : List (String × Form) :=
  positionQuestions ++ documentQuestions ++ itemQuestions ++ workspaceQuestions

end Form
end Server
end EmojiLint
