import EmojiLint.Path.Basic
import EmojiLint.Text.Lossy
import EmojiLint.Uri.Address
import EmojiLint.Uri.Domain.Basic
import EmojiLint.Uri.Percent

/-!
# Hosts

The hosts of well-known schemes are domains or addresses.  Both have a normal form: domains are in
small letters and in ASCII, and an address of four bytes is written as four decimal numbers, however
it was written before.  Other schemes take hosts as they are.
-/

set_option autoImplicit false

namespace EmojiLint
namespace Host

/-! ## Addresses of four bytes -/

/-- A number in an address.  It is hexadecimal after `0x`, octal after another zero, and decimal
otherwise. -/
def number? (cs : List Char) : Option Nat :=
  let value (base : Nat) (isDigit : Char → Bool) (digits : List Char) : Option Nat :=
    if digits.all isDigit then
      some (digits.foldl (fun n c => base * n + ((Percent.digitValue? c.toNat.toUInt8).getD 0)) 0)
    else none
  let isHexDigit (c : Char) : Bool := (Percent.digitValue? c.toNat.toUInt8).isSome && c.toNat < 0x80
  match cs with
  | [] => none
  | '0' :: 'x' :: digits => value 16 isHexDigit digits
  | '0' :: 'X' :: digits => value 16 isHexDigit digits
  | '0' :: d :: digits => value 8 (fun c => '0' ≤ c && c ≤ '7') (d :: digits)
  | digits => value 10 Char.isDigit digits

/-- The parts of a domain.  A dot at its end does not count. -/
def parts (domain : List Char) : List (List Char) :=
  let ps := Text.fields '.' domain
  if 1 < ps.length && ps.getLast? = some [] then ps.dropLast else ps

/-- Whether a domain can only be an address. -/
def endsInNumber (domain : List Char) : Bool :=
  match (parts domain).getLast? with
  | none => false
  | some part => !part.isEmpty && (part.all Char.isDigit || (number? part).isSome)

/-- The value of an address: its last number fills all the bytes that the others leave. -/
def address? (domain : List Char) : Option Nat := do
  let numbers ← (parts domain).mapM number?
  let last ← numbers.getLast?
  let front := numbers.dropLast
  if 3 < front.length || front.any (255 < ·) || Nat.pow 256 (4 - front.length) ≤ last then none
  else some (front.foldl (fun n k => 256 * n + k) 0 * Nat.pow 256 (4 - front.length) + last)

/-- An address as four decimal numbers. -/
def addressText (n : Nat) : List Char :=
  let byte (k : Nat) : List Char := (toString (n / Nat.pow 256 k % 256)).toList
  byte 3 ++ '.' :: byte 2 ++ '.' :: byte 1 ++ '.' :: byte 0

/-! ## Hosts -/

/-- Characters that stand in no host. -/
def isForbidden (c : Char) : Bool :=
  "\x00\t\n\r #/:<>?@[\\]^|".toList.contains c

/-- Read an address in brackets. -/
def bracketed? (cs : List Char) : Option (List Char) :=
  if cs.getLast? = some ']' then
    (Address.read? (cs.drop 1).dropLast).map fun address => '[' :: address.text ++ [']']
  else none

/-- Read the host of a well-known scheme. -/
def domain? (cs : List Char) : Option (List Char) :=
  if cs.head? = some '[' then bracketed? cs
  else do
    let domain ← Domain.ascii? (Text.ofBytes (Percent.decode cs))
    if domain.isEmpty || domain.any (fun c => isForbidden c || Percent.isControl c || c = '%') then
      none
    else if endsInNumber domain then (address? domain).map addressText
    else some domain

/-- Read the host of any other scheme. -/
def plain? (cs : List Char) : Option (List Char) :=
  if cs.head? = some '[' then bracketed? cs
  else if cs.any isForbidden then none
  else some (Percent.encode Percent.isControl cs)

end Host
end EmojiLint
