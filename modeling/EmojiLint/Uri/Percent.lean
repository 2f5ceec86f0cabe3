import EmojiLint.Text.Utf8

/-!
# Percent escapes

Inside a URI every byte can be written as a percent sign with two hexadecimal digits.  Characters
that are not ASCII always are, byte by byte, and which of the others are depends on the place.
-/

set_option autoImplicit false

namespace EmojiLint
namespace Percent

/-- A hexadecimal digit, in upper case. -/
def digit (n : Nat) : Char :=
  if n < 10 then Char.ofNat ('0'.toNat + n) else Char.ofNat ('A'.toNat + (n - 10))

/-- The value of a hexadecimal digit of either case. -/
def digitValue? (b : UInt8) : Option Nat :=
  let n := b.toNat
  if 0x30 ≤ n && n ≤ 0x39 then some (n - 0x30)
  else if 0x41 ≤ n && n ≤ 0x46 then some (n - 0x41 + 10)
  else if 0x61 ≤ n && n ≤ 0x66 then some (n - 0x61 + 10)
  else none

/-- A byte as an escape. -/
def escape (b : UInt8) : List Char :=
  ['%', digit (b.toNat / 16), digit (b.toNat % 16)]

/-! ## The characters that are escaped -/

/-- Control characters and whatever is not ASCII. -/
def isControl (c : Char) : Bool :=
  c.toNat < 0x20 || 0x7F ≤ c.toNat

def inQuery (c : Char) : Bool :=
  isControl c || " \"#<>".toList.contains c

/-- The queries of well-known schemes escape one character more. -/
def inSpecialQuery (c : Char) : Bool :=
  inQuery c || c == '\''

def inFragment (c : Char) : Bool :=
  isControl c || " \"<>\x60".toList.contains c

def inPath (c : Char) : Bool :=
  inFragment c || "#?\x7b\x7d".toList.contains c

def inUserinfo (c : Char) : Bool :=
  inPath c || "/:;=@[\\]^|".toList.contains c

/-- A text in which the characters of a set are escaped. -/
def encode (escaped : Char → Bool) (cs : List Char) : List Char :=
  cs.flatMap fun c => if escaped c then (String.utf8EncodeChar c).flatMap escape else [c]

/-! ## Reading escapes -/

/-- The bytes that are meant.  A percent sign without two digits stands for itself. -/
def decodeBytes : List UInt8 → List UInt8
  | [] => []
  | [a] => [a]
  | [a, b] => [a, b]
  | a :: b :: c :: rest =>
    if a = 0x25 then
      match digitValue? b, digitValue? c with
      | some high, some low => (16 * high + low).toUInt8 :: decodeBytes rest
      | _, _ => a :: decodeBytes (b :: c :: rest)
    else a :: decodeBytes (b :: c :: rest)

/-- The bytes that a text with escapes means. -/
def decode (cs : List Char) : List UInt8 :=
  decodeBytes (Text.bytes cs)

end Percent
end EmojiLint
