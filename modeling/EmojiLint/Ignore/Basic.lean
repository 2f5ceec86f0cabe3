import EmojiLint.Ignore.Ranges
import EmojiLint.Ignore.Scan

/-!
# Ignored ranges

Emoji are tolerated in comments, in strings and in Markdown documents, as the flags say.  A
Markdown document is ignored as a whole or not at all; in every other language the scanner decides.
-/

set_option autoImplicit false

namespace EmojiLint
namespace Ignore

/-- The part of a text in which emoji are not reported. -/
def ignoredRanges (text : String) (language : String) (flags : Flags) : Merged :=
  if isMarkdown language then
    if flags.markdown && !text.isEmpty then merge [⟨0, Text.byteLength text.toList⟩] else .empty
  else if !flags.comments && !flags.strings then .empty
  else merge (regions (.ofLanguage language) flags (Text.bytes text.toList))

end Ignore
end EmojiLint
