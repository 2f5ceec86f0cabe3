import EmojiLint.Exclude.Matcher
import EmojiLint.Settings.Basic

/-!
# Excluding more

Patterns are compared in their normal form.  Adding one that is new rewrites the others in normal
form too; adding one that is blank or there already changes nothing.
-/

set_option autoImplicit false

namespace EmojiLint
namespace Settings

/-- The paths that the settings exclude. -/
def matcher (settings : Settings) : Exclude.Matcher :=
  .ofPatterns settings.excludePatterns

/-- The patterns that are not blank, in normal form. -/
def normalPatterns (settings : Settings) : List (List Char) :=
  (settings.excludePatterns.map Exclude.normalPattern).filter fun pattern => !pattern.isEmpty

/-- The settings with one more pattern, or nothing when it would not change them. -/
def addPattern? (settings : Settings) (pattern : String) : Option Settings :=
  let normal := Exclude.normalPattern pattern
  if normal.isEmpty || settings.normalPatterns.contains normal then none
  else
    some { settings with
      excludePatterns := (settings.normalPatterns ++ [normal]).map String.ofList }

end Settings
end EmojiLint
