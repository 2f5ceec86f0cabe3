import EmojiLint.Assoc
import EmojiLint.Check
import EmojiLint.Edit
import EmojiLint.Settings.File
import EmojiLint.Uri.Basic

/-!
# The workspace of an editor

An editor has documents open, each under a URI, and perhaps a root folder.  The workspace answers
what it asks about them: which emoji are reported, how they can be removed, and how files can be
excluded.

* `diagnostics`, `quickFixes`, `removeAll?` — what is found in an open document.
* `exclude` — exclude a file, its extension or its folder, in the settings and in the settings file
  of the root.
-/

set_option autoImplicit false

namespace EmojiLint

/-- An open document. -/
structure Document where
  /-- Where the document is stored, if it is. -/
  path : Option Path
  text : String
  language : String
  version : Int
deriving DecidableEq, Repr

structure Workspace where
  /-- The open documents, each under its URI. -/
  documents : List (String × Document) := []
  settings : Settings := {}
  root : Option Path := none
deriving DecidableEq, Repr

/-- What came of excluding a path. -/
structure Exclusion where
  pattern : String
  /-- Whether the pattern was new. -/
  added : Bool
  /-- The settings file that holds the pattern now, if there is one. -/
  savedTo : Option Path
deriving DecidableEq, Repr

/-- The outcome in one line.  `relative` is the path that was excluded. -/
def Exclusion.message (outcome : Exclusion) (target : Exclude.Target) (relative : String) :
    String :=
  let quoted (s : String) : String := "\"" ++ s ++ "\""
  "Emoji Eraser: " ++
    match target, outcome.added with
    | .file, true => "excluded file " ++ quoted relative
    | .file, false => "file already excluded (" ++ quoted relative ++ ")"
    | .folder, true => "excluded folder " ++ quoted relative
    | .folder, false => "folder already excluded (" ++ quoted relative ++ ")"
    | .extension, true =>
      if "*.".toList.isPrefixOf outcome.pattern.toList then
        "excluded all " ++ quoted outcome.pattern ++ " files"
      else "excluded files named " ++ quoted outcome.pattern
    | .extension, false => "pattern already present (" ++ quoted outcome.pattern ++ ")"

namespace Workspace

/-! ## Documents -/

/-- The open document under a URI. -/
def document? (ws : Workspace) (uri : String) : Option Document :=
  ws.documents.lookup uri

def isOpen (ws : Workspace) (uri : String) : Bool :=
  (ws.document? uri).isSome

/-- Open a document, in place of one that is open under the same URI.  Without a language, its path
decides. -/
def openDocument (ws : Workspace) (uri : String) (path : Option Path) (text language : String)
    (version : Int) : Workspace :=
  let language :=
    if language.isEmpty then Path.language ((path.map Path.text).getD "") else language
  { ws with documents := Assoc.set uri ⟨path, text, language, version⟩ ws.documents }

/-- Change the text of a document, if it is open. -/
def updateDocument (ws : Workspace) (uri text : String) (version : Int) : Workspace :=
  match ws.document? uri with
  | none => ws
  | some doc => { ws with documents := Assoc.set uri { doc with text, version } ws.documents }

def closeDocument (ws : Workspace) (uri : String) : Workspace :=
  { ws with documents := Assoc.erase uri ws.documents }

/-- The URIs of the open documents, sorted. -/
def uris (ws : Workspace) : List String :=
  (ws.documents.map Prod.fst).mergeSort fun a b => (compare a b).isLE

/-! ## Settings and paths -/

/-- The workspace with other settings, or nothing when they are the same. -/
def setSettings? (ws : Workspace) (settings : Settings) : Option Workspace :=
  if settings = ws.settings then none else some { ws with settings }

/-- The settings file of the root. -/
def settingsPath? (ws : Workspace) : Option Path :=
  ws.root.map fun root => root.child Settings.fileName

/-- A path as seen from the root, or the whole path when there is no root. -/
def relative (ws : Workspace) (p : Path) : String :=
  p.relativeTo (ws.root.getD (.ofText ""))

/-- Whether an open document is excluded.  A document that is not stored anywhere never is. -/
def isExcluded (ws : Workspace) (uri : String) : Bool :=
  match (ws.document? uri).bind Document.path with
  | none => false
  | some path => ws.settings.matcher.excludes (ws.relative path)

/-! ## Answers about a document -/

/-- The diagnostics of a document.  There are none for documents that are not open, not checked or
excluded. -/
def diagnostics (ws : Workspace) (uri : String) : Findings :=
  match ws.document? uri with
  | none => []
  | some doc =>
    if !Uri.isScannable uri || ws.isExcluded uri then []
    else diagnose ws.settings none doc.text doc.language

/-- The quick fixes for the diagnostics that a span touches. -/
def quickFixes (ws : Workspace) (uri : String) (span : Span) : List (Diagnostic × QuickFix) :=
  ((ws.diagnostics uri).filter fun d => d.span.intersects span).map fun d => (d, d.quickFix)

/-- The edit that removes every emoji of an open document, ignored or not. -/
def removeAll? (ws : Workspace) (uri : String) : Option TextEdit :=
  (ws.document? uri).bind fun doc => removeAllEdit? doc.text

/-! ## Excluding -/

/-- The pattern that excludes a path and what goes with it. -/
def exclusionPattern (ws : Workspace) (p : Path) (target : Exclude.Target) : String :=
  target.pattern (ws.relative p)

/-- Exclude a path and what goes with it: in the settings, and, when there is a root, in its
settings file as well. -/
def exclude (ws : Workspace) (disk : Disk) (p : Path) (target : Exclude.Target) :
    Except SettingsError Exclusion × Workspace × Disk :=
  let pattern := ws.exclusionPattern p target
  let changed := ws.settings.addPattern? pattern
  let ws := { ws with settings := changed.getD ws.settings }
  match ws.settingsPath? with
  | none => (.ok ⟨pattern, changed.isSome, none⟩, ws, disk)
  | some file =>
    let (result, disk) := Settings.addPatternToFile disk file pattern
    (result.map fun _ => ⟨pattern, changed.isSome, some file⟩, ws, disk)

end Workspace
end EmojiLint
