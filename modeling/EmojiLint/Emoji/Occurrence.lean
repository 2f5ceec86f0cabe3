import EmojiLint.Emoji.Sequence
import EmojiLint.Text.Utf8
import EmojiLint.Text.Span

/-!
# Finding and removing emoji

A text is cut into pieces from left to right: wherever an emoji begins, the whole sequence is one
piece, and every other character is a piece of its own.  Finding emoji is listing where the emoji
pieces lie, and removing them is putting the other pieces back together.

* `pieces` cuts, `flatMap_text_pieces` says that nothing is lost.
* `find` lists the spans of the emoji, `remove` leaves them out.
-/

set_option autoImplicit false

namespace EmojiLint
namespace Emoji

/-- What a text is cut into. -/
inductive Piece
  /-- A character that no emoji begins with. -/
  | plain (c : Char)
  /-- An emoji: its first character and the others. -/
  | emoji (first : Char) (others : List Char)
deriving DecidableEq, Repr

namespace Piece

/-- The characters of a piece. -/
def text : Piece → List Char
  | plain c => [c]
  | emoji first others => first :: others

def isEmoji : Piece → Bool
  | plain _ => false
  | emoji _ _ => true

end Piece

/-- Cut a text into emoji and other characters. -/
def pieces : List Char → List Piece
  | [] => []
  | c :: cs =>
    match tail? c cs with
    | some n => .emoji c (cs.take n) :: pieces (cs.drop n)
    | none => .plain c :: pieces cs
termination_by cs => cs.length
decreasing_by all_goals simp only [List.length_drop, List.length_cons]; omega

theorem pieces_of_tail?_eq_some {c : Char} {cs : List Char} {n : Nat} (h : tail? c cs = some n) :
    pieces (c :: cs) = .emoji c (cs.take n) :: pieces (cs.drop n) := by
  simp only [pieces, h]

theorem pieces_of_tail?_eq_none {c : Char} {cs : List Char} (h : tail? c cs = none) :
    pieces (c :: cs) = .plain c :: pieces cs := by
  simp only [pieces, h]

/-- The pieces put back together are the text. -/
theorem flatMap_text_pieces (cs : List Char) : (pieces cs).flatMap Piece.text = cs := by
  fun_induction pieces cs with
  | case1 => rfl
  | case2 c cs n h ih => simp [Piece.text, ih]
  | case3 c cs h ih => simp [Piece.text, ih]

/-- The spans of the emoji among pieces of which the first starts at byte `offset`. -/
def spansFrom (offset : Nat) : List Piece → List Span
  | [] => []
  | piece :: rest =>
    let length := Text.byteLength piece.text
    if piece.isEmoji then ⟨offset, length⟩ :: spansFrom (offset + length) rest
    else spansFrom (offset + length) rest

/-- The characters of the pieces that are no emoji. -/
def plainText (ps : List Piece) : List Char :=
  (ps.filter fun piece => !piece.isEmoji).flatMap Piece.text

/-- The spans of the emoji of a text, from left to right. -/
def find (text : String) : List Span :=
  spansFrom 0 (pieces text.toList)

/-- A text without its emoji. -/
def remove (text : String) : String :=
  String.ofList (plainText (pieces text.toList))

/-- A text without its emoji, or nothing when it has none. -/
def remove? (text : String) : Option String :=
  if (pieces text.toList).any Piece.isEmoji then some (remove text) else none

end Emoji
end EmojiLint
