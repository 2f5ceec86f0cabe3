import EmojiLint.Text.Fields
import EmojiLint.Uri.Domain.Composition
import EmojiLint.Uri.Domain.Direction
import EmojiLint.Uri.Domain.Joining
import EmojiLint.Uri.Domain.Mapping
import EmojiLint.Uri.Domain.Punycode

/-!
# Domains in ASCII

A domain may be written in any script.  `Domain.ascii?` gives the one form in ASCII that all ways to
write it share.  A label, which is what stands between two dots, gets the mark `xn--` if it is not
ASCII, and may have been written with the mark already.  Labels may be empty, and hyphens may stand
anywhere.
-/

set_option autoImplicit false

namespace EmojiLint
namespace Domain

/-- The mark of a label that is not ASCII. -/
def labelMark : List Char := "xn--".toList

/-- The text of a label with the mark.  It is a text that has met all its fates, and is not ASCII
alone. -/
def unmarked? (code : List Char) : Option (List Char) := do
  if code.isEmpty || code.getLast? = some '-' || 2000 < code.length then none
  else
    let text ← Punycode.decode? code
    if mapped? text = some text && composed text = text then some text else none

/-- The text of a label. -/
def labelText? (label : List Char) : Option (List Char) :=
  if labelMark.isPrefixOf label then unmarked? (label.drop labelMark.length) else some label

/-- Whether a text may be a label: it does not start with a mark, its joiners can be seen, and it is
not too long for its form in ASCII. -/
def isLabel (text : List Char) : Bool :=
  !(text.head?.any isMark) && joinersFit [] text &&
    (text.all Punycode.isAscii || text.length ≤ 1000)

/-- A label in ASCII. -/
def labelAscii (text : List Char) : List Char :=
  if text.all Punycode.isAscii then text else labelMark ++ Punycode.encode text

/-- The form of a domain in ASCII. -/
def ascii? (domain : List Char) : Option (List Char) := do
  let mapped ← mapped? domain
  let texts ← (Text.fields '.' (composed mapped)).mapM labelText?
  if texts.all isLabel && (!texts.any goesRight || texts.all goesOneWay) then
    some ((texts.map labelAscii).intersperse ['.']).flatten
  else none

end Domain
end EmojiLint
