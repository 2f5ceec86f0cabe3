import EmojiLint.Text.Utf8

/-!
# Reading bytes that may not be text

Bytes that are not UTF-8 can still be shown: where no character can be read, the replacement
character stands for the bytes that could have begun one, or for a single byte that could not.
-/

set_option autoImplicit false

namespace EmojiLint
namespace Text

/-- What stands for bytes that are no character. -/
def replacement : Char := '\uFFFD'

/-- A character of which some bytes were read. -/
structure Unfinished where
  /-- How many bytes are missing. -/
  missing : Nat
  /-- The bits that are known, the others being cut off. -/
  bits : Nat
  /-- The least byte that may come next. -/
  least : Nat
  /-- The greatest byte that may come next. -/
  greatest : Nat
deriving DecidableEq, Repr

/-- What the first byte of a character tells: it is the character, or it announces others, or no
character begins like this. -/
def firstByte (b : UInt8) : Option (Char ⊕ Unfinished) :=
  let n := b.toNat
  if n < 0x80 then some (.inl (Char.ofNat n))
  else if 0xC2 ≤ n && n ≤ 0xDF then some (.inr ⟨1, n - 0xC0, 0x80, 0xBF⟩)
  else if 0xE0 ≤ n && n ≤ 0xEF then
    some (.inr ⟨2, n - 0xE0, if n = 0xE0 then 0xA0 else 0x80, if n = 0xED then 0x9F else 0xBF⟩)
  else if 0xF0 ≤ n && n ≤ 0xF4 then
    some (.inr ⟨3, n - 0xF0, if n = 0xF0 then 0x90 else 0x80, if n = 0xF4 then 0x8F else 0xBF⟩)
  else none

/-- Read bytes after those of a character that was begun, if there is one. -/
def readBytes : Option Unfinished → List UInt8 → List Char
  | none, [] => []
  | some _, [] => [replacement]
  | begun, b :: bs =>
    let fresh : List Char :=
      match firstByte b with
      | some (.inl c) => c :: readBytes none bs
      | some (.inr next) => readBytes (some next) bs
      | none => replacement :: readBytes none bs
    match begun with
    | none => fresh
    | some u =>
      if u.least ≤ b.toNat && b.toNat ≤ u.greatest then
        let bits := 64 * u.bits + (b.toNat - 0x80)
        if u.missing ≤ 1 then Char.ofNat bits :: readBytes none bs
        else readBytes (some ⟨u.missing - 1, bits, 0x80, 0xBF⟩) bs
      else replacement :: fresh

/-- Read bytes as text, whatever they are. -/
def ofBytes (bs : List UInt8) : List Char :=
  readBytes none bs

end Text
end EmojiLint
