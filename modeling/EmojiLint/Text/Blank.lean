/-!
# Blanks and letter case

Names and patterns are compared after trimming and, for names, after lower-casing.  Trimming takes
away every character with the Unicode property `White_Space`; lower-casing touches the letters `A`
to `Z` only.
-/

set_option autoImplicit false

namespace EmojiLint
namespace Text

/-- The characters with the Unicode property `White_Space`. -/
def isBlank (c : Char) : Bool :=
  let n := c.toNat
  (0x09 ≤ n && n ≤ 0x0D) || n == 0x20 || n == 0x85 || n == 0xA0 || n == 0x1680 ||
    (0x2000 ≤ n && n ≤ 0x200A) || n == 0x2028 || n == 0x2029 || n == 0x202F || n == 0x205F ||
    n == 0x3000

/-- A text without the blanks at its end. -/
def trimRight (cs : List Char) : List Char :=
  cs.foldr (fun c rest => if rest.isEmpty && isBlank c then [] else c :: rest) []

/-- A text without the blanks at its two ends. -/
def trim (cs : List Char) : List Char :=
  trimRight (cs.dropWhile isBlank)

/-- A string in which the letters `A` to `Z` are small. -/
def lowercase (s : String) : String :=
  String.ofList (s.toList.map Char.toLower)

end Text
end EmojiLint
