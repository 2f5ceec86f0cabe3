import EmojiLint.Severity
import EmojiLint.Text.Span

/-!
# Diagnostics

A `Diagnostic` says that a piece of a file holds an emoji.  `Findings` are the diagnostics of any
number of files, in the order in which they were reported until they are sorted.
-/

set_option autoImplicit false

namespace EmojiLint

/-- The number and the wording of a kind of diagnostic. -/
structure Rule where
  code : Nat
  message : String
deriving DecidableEq, Repr

/-- An emoji stands where none should. -/
def Rule.emojiDetected : Rule :=
  ⟨1001, "Emoji detected"⟩

structure Diagnostic where
  /-- The file that the span belongs to, when the text comes from a file. -/
  file : Option String
  span : Span
  message : String
  code : Nat
  severity : Severity
deriving DecidableEq, Repr

namespace Diagnostic

/-- Report a span under a rule. -/
def ofRule (rule : Rule) (file : Option String) (span : Span) (severity : Severity) : Diagnostic :=
  ⟨file, span, rule.message, rule.code, severity⟩

def isError (d : Diagnostic) : Bool :=
  d.severity == .error

/-- The code as it is printed, such as `EE1001`. -/
def codeLabel (d : Diagnostic) : String :=
  "EE" ++ toString d.code

/-- Severity, code and message: what is said of a diagnostic wherever it stands. -/
def summary (d : Diagnostic) : String :=
  d.severity.label ++ " " ++ d.codeLabel ++ ": " ++ d.message

/-- The diagnostic in one line, located by its byte offset. -/
def line (d : Diagnostic) : String :=
  match d.file with
  | some file => file ++ "(" ++ toString d.span.start ++ "): " ++ d.summary
  | none => d.summary

/-- Order by file, diagnostics without one first, then by start. -/
def le (d e : Diagnostic) : Bool :=
  match compare d.file e.file with
  | .lt => true
  | .eq => d.span.start ≤ e.span.start
  | .gt => false

end Diagnostic

/-- The diagnostics reported for any number of files. -/
abbrev Findings := List Diagnostic

namespace Findings

def hasErrors (fs : Findings) : Bool :=
  fs.any Diagnostic.isError

def errorCount (fs : Findings) : Nat :=
  fs.countP Diagnostic.isError

/-- Sort by file and start; diagnostics that agree in both keep their order. -/
def sort (fs : Findings) : Findings :=
  fs.mergeSort Diagnostic.le

end Findings
end EmojiLint
