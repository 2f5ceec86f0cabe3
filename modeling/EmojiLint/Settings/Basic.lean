import EmojiLint.Ignore.Scan
import EmojiLint.Severity

/-!
# Settings

What a user can choose: how severe a reported emoji is, where emoji are tolerated, and which files
are left alone.  Every setting has a default.
-/

set_option autoImplicit false

namespace EmojiLint

structure Settings where
  /-- The severity of every reported emoji. -/
  severity : Severity := .error
  /-- Where emoji are tolerated. -/
  ignore : Ignore.Flags := {}
  /-- Patterns of files, relative to the root, that are never checked. -/
  excludePatterns : List String := []
deriving DecidableEq, Repr

namespace Settings

/-- The name of the settings file in the root of a project. -/
def fileName : String :=
  ".emojieraser.json"

/-- The key under which editors nest these settings. -/
def editorSection : String :=
  "emojiChecker"

end Settings
end EmojiLint
