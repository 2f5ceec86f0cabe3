import EmojiLint.Diagnostic
import EmojiLint.Emoji.Occurrence

/-!
# Edits

An edit replaces one span of a text.  Two kinds are offered: the quick fix of a diagnostic deletes
just its span, and the edit that removes everything replaces the whole text by what is left without
emoji, whether they were ignored or not.
-/

set_option autoImplicit false

namespace EmojiLint

/-- Replace a span of a text. -/
structure TextEdit where
  span : Span
  newText : String
deriving DecidableEq, Repr

namespace TextEdit

/-- Apply an edit.  A span past the end is cut off at the end; an edit that would cut a character
in two is refused. -/
def applyTo? (edit : TextEdit) (text : String) : Option String := do
  let stop := min edit.span.stop (Text.byteLength text.toList)
  let start := min edit.span.start stop
  let (front, after) ← Text.splitAtByte? text.toList stop
  let (before, _) ← Text.splitAtByte? front start
  return String.ofList (before ++ edit.newText.toList ++ after)

end TextEdit

/-- An edit offered for a diagnostic. -/
structure QuickFix where
  title : String
  edit : TextEdit
  preferred : Bool
deriving DecidableEq, Repr

/-- Delete just the span of the diagnostic. -/
def Diagnostic.quickFix (d : Diagnostic) : QuickFix where
  title := "Remove this emoji"
  edit := ⟨d.span, ""⟩
  preferred := true

/-- The edit that removes every emoji of a text, or nothing when there is none. -/
def removeAllEdit? (text : String) : Option TextEdit :=
  (Emoji.remove? text).map fun newText => ⟨⟨0, Text.byteLength text.toList⟩, newText⟩

end EmojiLint
