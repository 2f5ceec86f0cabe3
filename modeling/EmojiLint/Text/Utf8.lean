/-!
# Measuring text in bytes and in UTF-16 units

A text is a list of characters, but two other units matter as well.  Offsets handed to a user are
counted in **bytes of UTF-8**, and columns shown by an editor are counted in **UTF-16 units**.

## What is here

* `byteLength`, `bytes` — how many bytes a text takes, and which ones.
* `unitLength` — how many UTF-16 units a text takes.
* `takeBytes`, `dropBytes` — the part of a text that ends at or before a byte offset, and the rest.
  An offset inside a character belongs to the boundary before that character.
* `splitAtByte?` — the same cut, refused when the offset is inside a character.
-/

set_option autoImplicit false

namespace EmojiLint
namespace Text

/-- The number of bytes that a text takes in UTF-8. -/
def byteLength : List Char → Nat
  | [] => 0
  | c :: cs => c.utf8Size + byteLength cs

/-- The UTF-8 bytes of a text. -/
def bytes (cs : List Char) : List UInt8 :=
  cs.flatMap String.utf8EncodeChar

/-- The number of UTF-16 units of one character: two beyond the Basic Multilingual Plane. -/
def units (c : Char) : Nat :=
  if c.toNat < 0x10000 then 1 else 2

/-- The number of UTF-16 units of a text. -/
def unitLength : List Char → Nat
  | [] => 0
  | c :: cs => units c + unitLength cs

/-- The characters that end at or before byte `n`. -/
def takeBytes : List Char → Nat → List Char
  | [], _ => []
  | c :: cs, n => if c.utf8Size ≤ n then c :: takeBytes cs (n - c.utf8Size) else []

/-- The characters that remain after those that end at or before byte `n`. -/
def dropBytes : List Char → Nat → List Char
  | [], _ => []
  | c :: cs, n => if c.utf8Size ≤ n then dropBytes cs (n - c.utf8Size) else c :: cs

/-- Cut a text at byte `n`, unless `n` is inside a character or past the end. -/
def splitAtByte? : List Char → Nat → Option (List Char × List Char)
  | cs, 0 => some ([], cs)
  | [], _ + 1 => none
  | c :: cs, n + 1 =>
    if c.utf8Size ≤ n + 1 then
      (splitAtByte? cs (n + 1 - c.utf8Size)).map fun (before, after) => (c :: before, after)
    else none

theorem byteLength_append (a b : List Char) :
    byteLength (a ++ b) = byteLength a + byteLength b := by
  induction a with
  | nil => simp [byteLength]
  | cons c cs ih => simp [byteLength, ih, Nat.add_assoc]

theorem unitLength_append (a b : List Char) :
    unitLength (a ++ b) = unitLength a + unitLength b := by
  induction a with
  | nil => simp [unitLength]
  | cons c cs ih => simp [unitLength, ih, Nat.add_assoc]

theorem takeBytes_append_dropBytes (cs : List Char) (n : Nat) :
    takeBytes cs n ++ dropBytes cs n = cs := by
  induction cs generalizing n with
  | nil => rfl
  | cons c cs ih =>
    by_cases h : c.utf8Size ≤ n
    · simp [takeBytes, dropBytes, h, ih]
    · simp [takeBytes, dropBytes, h]

/-- `bytes` and `byteLength` speak of the same encoding. -/
theorem length_bytes (cs : List Char) : (bytes cs).length = byteLength cs := by
  induction cs with
  | nil => rfl
  | cons c cs ih =>
    have h : bytes (c :: cs) = String.utf8EncodeChar c ++ bytes cs := by simp [bytes]
    rw [h, List.length_append, ih, byteLength, String.length_utf8EncodeChar]

end Text
end EmojiLint
