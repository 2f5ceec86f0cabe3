import EmojiLint.Server.Form.Document

/-!
# The form of what an editor can do

An editor tells in its first request what it can do.  Nothing depends on what it says, but it has to
say it in the right form.
-/

set_option autoImplicit false

namespace EmojiLint
namespace Server
namespace Form

/-! ## Parts -/

/-- Something that may be said of a feature, in so many words. -/
def flags (keys : List String) : List (String × Form) :=
  keys.map fun key => (key, nullable bool)

/-- A feature of which nothing but some flags is told. -/
def feature (keys : List String) : Form :=
  nullable (record (flags keys))

/-- A feature that can be registered later. -/
def registration : Form :=
  feature ["dynamicRegistration"]

/-- A feature that can be asked to start over. -/
def refresh : Form :=
  feature ["refreshSupport"]

/-- A feature that is understood for some values. -/
def valueSet (form : Form) : Form :=
  record [("valueSet", form)]

/-- Tags that are understood.  A truth value tells as much for all of them. -/
def tagSupport : Form :=
  nullable (either bool (valueSet (list int)))

/-- What can be left for later. -/
def resolveSupport : Form :=
  nullable (record [("properties", list string)])

def symbolKinds : Form :=
  nullable (valueSet (nullable (list int)))

/-! ## The workspace -/

def workspaceEditFeature : Form :=
  nullable (record [("documentChanges", nullable bool),
    ("resourceOperations", nullable (list (word ["create", "rename", "delete"]))),
    ("failureHandling",
      nullable (word ["abort", "transactional", "textOnlyTransactional", "undo"])),
    ("normalizesLineEndings", nullable bool),
    ("changeAnnotationSupport", feature ["groupsOnLabel"])])

def workspaceSymbols : Form :=
  nullable (record [("dynamicRegistration", nullable bool), ("symbolKind", symbolKinds),
    ("tagSupport", tagSupport), ("resolveSupport", resolveSupport)])

def workspaceFeatures : Form :=
  record [("applyEdit", nullable bool), ("workspaceEdit", workspaceEditFeature),
    ("didChangeConfiguration", registration),
    ("didChangeWatchedFiles", feature ["dynamicRegistration", "relativePatternSupport"]),
    ("symbol", workspaceSymbols), ("executeCommand", registration),
    ("workspaceFolders", nullable bool), ("configuration", nullable bool),
    ("semanticTokens", refresh), ("codeLens", refresh),
    ("fileOperations", feature ["dynamicRegistration", "didCreate", "willCreate", "didRename",
      "willRename", "didDelete", "willDelete"]),
    ("inlineValue", refresh), ("inlayHint", refresh), ("diagnostic", refresh)]

/-! ## Documents -/

def completionItemFeature : Form :=
  nullable (record (flags ["snippetSupport", "commitCharactersSupport"]
    ++ [("documentationFormat", nullable (list markupKind))]
    ++ flags ["deprecatedSupport", "preselectSupport"]
    ++ [("tagSupport", tagSupport), ("insertReplaceSupport", nullable bool),
      ("resolveSupport", resolveSupport),
      ("insertTextModeSupport", nullable (valueSet (list int))),
      ("labelDetailsSupport", nullable bool)]))

def completionFeature : Form :=
  nullable (record [("dynamicRegistration", nullable bool),
    ("completionItem", completionItemFeature),
    ("completionItemKind", nullable (valueSet (nullable (list int)))),
    ("contextSupport", nullable bool), ("insertTextMode", nullable int),
    ("completionList", nullable (record [("itemDefaults", nullable (list string))]))])

def signatureFeature : Form :=
  nullable (record [("dynamicRegistration", nullable bool),
    ("signatureInformation", nullable (record [
      ("documentationFormat", nullable (list markupKind)),
      ("parameterInformation", feature ["labelOffsetSupport"]),
      ("activeParameterSupport", nullable bool)])),
    ("contextSupport", nullable bool)])

def documentSymbolFeature : Form :=
  nullable (record [("dynamicRegistration", nullable bool), ("symbolKind", symbolKinds),
    ("hierarchicalDocumentSymbolSupport", nullable bool), ("tagSupport", tagSupport)])

def codeActionFeature : Form :=
  let literals : Form := nullable (record [("codeActionKind", valueSet (list string))])
  nullable (record ([("dynamicRegistration", nullable bool), ("codeActionLiteralSupport", literals)]
    ++ flags ["isPreferredSupport", "disabledSupport", "dataSupport"]
    ++ [("resolveSupport", resolveSupport), ("honorsChangeAnnotations", nullable bool)]))

def renameFeature : Form :=
  nullable (record [("dynamicRegistration", nullable bool), ("prepareSupport", nullable bool),
    ("prepareSupportDefaultBehavior", nullable int), ("honorsChangeAnnotations", nullable bool)])

def diagnosticsFeature : Form :=
  nullable (record ([("relatedInformation", nullable bool), ("tagSupport", tagSupport)]
    ++ flags ["versionSupport", "codeDescriptionSupport", "dataSupport"]))

def foldingFeature : Form :=
  nullable (record [("dynamicRegistration", nullable bool), ("rangeLimit", nullable nat),
    ("lineFoldingOnly", nullable bool),
    ("foldingRangeKind",
      nullable (valueSet (nullable (list (word ["comment", "imports", "region"]))))),
    ("foldingRange", feature ["collapsedText"])])

def semanticTokensFeature : Form :=
  nullable (record ([("dynamicRegistration", nullable bool),
    ("requests", record [("range", nullable bool),
      ("full", nullable (either bool (record (flags ["delta"]))))]),
    ("tokenTypes", list string), ("tokenModifiers", list string),
    ("formats", list (word ["relative"]))]
    ++ flags ["overlappingTokenSupport", "multilineTokenSupport", "serverCancelSupport",
      "augmentsSyntaxTokens"]))

def documentFeatures : Form :=
  let goto : Form := feature ["dynamicRegistration", "linkSupport"]
  record [
    ("synchronization",
      feature ["dynamicRegistration", "willSave", "willSaveWaitUntil", "didSave"]),
    ("completion", completionFeature),
    ("hover", nullable (record [("dynamicRegistration", nullable bool),
      ("contentFormat", nullable (list markupKind))])),
    ("signatureHelp", signatureFeature), ("references", registration),
    ("documentHighlight", registration), ("documentSymbol", documentSymbolFeature),
    ("formatting", registration), ("rangeFormatting", registration),
    ("onTypeFormatting", registration), ("declaration", goto), ("definition", goto),
    ("typeDefinition", goto), ("implementation", goto), ("codeAction", codeActionFeature),
    ("codeLens", registration),
    ("documentLink", feature ["dynamicRegistration", "tooltipSupport"]),
    ("colorProvider", registration), ("rename", renameFeature),
    ("publishDiagnostics", diagnosticsFeature), ("foldingRange", foldingFeature),
    ("selectionRange", registration), ("linkedEditingRange", registration),
    ("callHierarchy", registration), ("semanticTokens", semanticTokensFeature),
    ("moniker", registration), ("typeHierarchy", registration), ("inlineValue", registration),
    ("inlayHint", nullable (record [("dynamicRegistration", nullable bool),
      ("resolveSupport", resolveSupport)])),
    ("diagnostic", feature ["dynamicRegistration", "relatedDocumentSupport"])]

/-! ## The rest -/

def notebookFeatures : Form :=
  record [("synchronization", record (flags ["dynamicRegistration", "executionSummaryReport"]))]

def windowFeatures : Form :=
  record [("workDoneProgress", nullable bool),
    ("showMessage", nullable (record [
      ("messageActionItem", feature ["additionalPropertiesSupport"])])),
    ("showDocument", nullable (record [("support", bool)]))]

def generalFeatures : Form :=
  record [
    ("regularExpressions", nullable (record [("engine", string), ("version", nullable string)])),
    ("markdown", nullable (record [("parser", string), ("version", nullable string),
      ("allowedTags", nullable (list string))])),
    ("staleRequestSupport",
      nullable (record [("cancel", bool), ("retryOnContentModified", list string)])),
    ("positionEncodings", nullable (list string))]

/-- What an editor can do. -/
def capabilities : Form :=
  record [("workspace", nullable workspaceFeatures), ("textDocument", nullable documentFeatures),
    ("notebookDocument", nullable notebookFeatures), ("window", nullable windowFeatures),
    ("general", nullable generalFeatures), ("experimental", nullable any)]

end Form
end Server
end EmojiLint
