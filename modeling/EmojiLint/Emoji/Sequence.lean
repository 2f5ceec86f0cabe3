import EmojiLint.Emoji.Properties

/-!
# Emoji sequences

What looks like one emoji is often several characters: a flag is two regional indicators, a keycap
a digit under a combining frame, a family several people held together by joiners.  This file says
how far the emoji that begins at a given character reaches.

* `flag`: two regional indicators.
* `keycap`: `#`, `*` or a digit, perhaps a variation selector, and the keycap frame.
* everything else begins with a character that is an emoji by itself, perhaps followed by a
  variation selector, by a skin tone or a run of tags, and by any number of joined pictographs.

Each part takes as much as it can.  That never hides a longer sequence, because the part that
follows begins with another kind of character.
-/

set_option autoImplicit false

namespace EmojiLint
namespace Emoji

/-- Asks for the colourful form of the character before it. -/
def variationSelector : Char := Char.ofNat 0xFE0F

/-- Glues the pictographs around it together. -/
def joiner : Char := Char.ofNat 0x200D

/-- The frame that turns a digit into a keycap. -/
def keycapFrame : Char := Char.ofNat 0x20E3

/-- The tag that ends a run of tags. -/
def cancelTag : Char := Char.ofNat 0xE007F

/-- The tags that spell the name of a region. -/
def isTag (c : Char) : Bool :=
  0xE0020 ≤ c.toNat && c.toNat ≤ 0xE007E

/-- The characters that a keycap can frame. -/
def isKeycapBase (c : Char) : Bool :=
  c == '#' || c == '*' || c.isDigit

/-- `1` when the text starts with a character of the given kind, else `0`. -/
def countFirst (kind : Char → Bool) : List Char → Nat
  | [] => 0
  | c :: _ => if kind c then 1 else 0

/-- The length of a variation selector at the start of a text. -/
def variationLength (cs : List Char) : Nat :=
  countFirst (· == variationSelector) cs

/-- The length of a skin tone at the start of a text. -/
def modifierLength (cs : List Char) : Nat :=
  countFirst isModifier cs

/-- The length of a run of tags at the start of a text.  Without a tag, or without the tag that
ends it, there is no run. -/
def tagLength (cs : List Char) : Nat :=
  let tags := cs.takeWhile isTag
  if !tags.isEmpty && (cs.drop tags.length).head? == some cancelTag then tags.length + 1 else 0

/-- The length of a skin tone or a run of tags at the start of a text. -/
def decorationLength (cs : List Char) : Nat :=
  if modifierLength cs = 0 then tagLength cs else 1

/-- The length of the joined pictographs at the start of a text: each is a joiner, a pictograph,
perhaps a variation selector, and perhaps a skin tone. -/
def joinedLength : List Char → Nat
  | j :: p :: cs =>
    if j = joiner ∧ isPictograph p = true then
      let variation := variationLength cs
      let modifier := modifierLength (cs.drop variation)
      2 + variation + modifier + joinedLength (cs.drop (variation + modifier))
    else 0
  | _ => 0
termination_by cs => cs.length
decreasing_by simp only [List.length_drop, List.length_cons]; omega

/-- The length of what follows the first character of a keycap, if it is one. -/
def keycapTail? : List Char → Option Nat
  | c :: cs =>
    if c = keycapFrame then some 1
    else if c = variationSelector ∧ cs.head? = some keycapFrame then some 2
    else none
  | [] => none

/-- The length of what belongs to a first character that is an emoji by itself. -/
def baseTail (cs : List Char) : Nat :=
  let variation := variationLength cs
  let decoration := decorationLength (cs.drop variation)
  variation + decoration + joinedLength (cs.drop (variation + decoration))

/-- How many of the characters `cs` belong to the emoji that begins with the character `c` just
before them; `none` when no emoji begins there. -/
def tail? (c : Char) (cs : List Char) : Option Nat :=
  if isRegionalIndicator c = true ∧ countFirst isRegionalIndicator cs = 1 then some 1
  else if isKeycapBase c then keycapTail? cs
  else if isBase c then some (baseTail cs)
  else none

end Emoji
end EmojiLint
