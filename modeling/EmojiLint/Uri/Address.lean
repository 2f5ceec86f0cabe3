import EmojiLint.Text.Fields
import EmojiLint.Uri.Percent

/-!
# Addresses of sixteen bytes

Such an address is eight groups of two bytes, in hexadecimal and with colons between them.  Two
colons together stand for groups that are zero, and the last two groups may be written as the four
decimal numbers of a shorter address.

* `Address.read?` reads every way to write an address.
* `Address.text` writes it in one way: the longest run of zero groups is left out.
-/

set_option autoImplicit false

namespace EmojiLint

/-- The groups of an address. -/
structure Address where
  groups : List Nat
deriving DecidableEq, Repr

namespace Address

/-! ## Reading -/

/-- A group: one to four hexadecimal digits. -/
def group? (cs : List Char) : Option Nat :=
  let digit? (c : Char) : Option Nat :=
    if c.toNat < 0x80 then Percent.digitValue? c.toNat.toUInt8 else none
  if cs.isEmpty || 4 < cs.length then none
  else (cs.mapM digit?).map fun ds => ds.foldl (fun n d => 16 * n + d) 0

/-- A decimal number of one byte.  It does not start with a zero, unless it is zero. -/
def byte? (cs : List Char) : Option Nat :=
  let n := cs.foldl (fun n c => 10 * n + (c.toNat - '0'.toNat)) 0
  if cs.isEmpty || !cs.all Char.isDigit || 255 < n || (1 < cs.length && cs.head? = some '0') then
    none
  else some n

/-- Two groups, written as four bytes. -/
def pair? (cs : List Char) : Option (List Nat) := do
  match ← (Text.fields '.' cs).mapM byte? with
  | [a, b, c, d] => return [256 * a + b, 256 * c + d]
  | _ => none

/-- Groups with colons between them, of which the last may be written as bytes. -/
def groups? (cs : List Char) : Option (List Nat) := do
  let parts := Text.fields ':' cs
  let last ← parts.getLast?
  let front ← parts.dropLast.mapM group?
  let back ← if last.contains '.' then pair? last else (group? last).map fun n => [n]
  return front ++ back

/-- Divide a text at the first two colons that stand together. -/
def splitGap : List Char → Option (List Char × List Char)
  | ':' :: ':' :: cs => some ([], cs)
  | c :: cs => (splitGap cs).map fun (front, back) => (c :: front, back)
  | [] => none

/-- Read an address. -/
def read? (cs : List Char) : Option Address := do
  let part? (cs : List Char) : Option (List Nat) := if cs.isEmpty then some [] else groups? cs
  match splitGap cs with
  | none =>
    let groups ← groups? cs
    if groups.length = 8 then some ⟨groups⟩ else none
  | some (front, back) =>
    let front' ← part? front
    let back' ← part? back
    if front.contains '.' || 7 < front'.length + back'.length then none
    else some ⟨front' ++ List.replicate (8 - front'.length - back'.length) 0 ++ back'⟩

/-! ## Writing -/

def hexDigit (n : Nat) : Char :=
  if n < 10 then Char.ofNat ('0'.toNat + n) else Char.ofNat ('a'.toNat + (n - 10))

/-- A group without zeros at its start. -/
def groupText (n : Nat) : List Char :=
  if n < 16 then [hexDigit n]
  else groupText (n / 16) ++ [hexDigit (n % 16)]

/-- Groups with colons between them. -/
def joined (groups : List Nat) : List Char :=
  (groups.map groupText).intersperse [':'] |>.flatten

/-- The number of zero groups at the start. -/
def zeros (groups : List Nat) : Nat :=
  (groups.takeWhile (· = 0)).length

/-- Where the longest run of zero groups starts, the first of them if there are several, and how
long it is. -/
def longestRun : List Nat → Nat × Nat
  | [] => (0, 0)
  | g :: gs =>
    let (start, length) := longestRun gs
    if zeros (g :: gs) ≠ 0 ∧ length ≤ zeros (g :: gs) then (0, zeros (g :: gs))
    else (start + 1, length)

/-- An address in its shortest form.  A single zero group is written out. -/
def text (address : Address) : List Char :=
  let (start, length) := longestRun address.groups
  if length < 2 then joined address.groups
  else
    joined (address.groups.take start) ++ [':', ':'] ++
      joined (address.groups.drop (start + length))

end Address
end EmojiLint
