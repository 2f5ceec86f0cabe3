import EmojiLint.Text.Fields
import EmojiLint.Uri.Domain.Mapping.Table

/-!
# Characters in domains

Domains that differ only in letter case or in the width of their characters are the same.  So every
character has a fate in a domain: it stays, is left out, or becomes other characters, and some stand
in no domain.

* `Domain.fate` finds the fate of a character.
* `Domain.mapped?` lets every character of a text meet its fate.
-/

set_option autoImplicit false

namespace EmojiLint
namespace Domain

/-- What becomes of a character. -/
inductive Fate where
  | kept
  | dropped
  | refused
  | replaced (cs : List Char)
deriving DecidableEq, Repr

/-! ## Rows of the table -/

/-- How the characters of a piece find their fates. -/
inductive Rule where
  /-- All have the same fate. -/
  | all (fate : Fate)
  /-- They become as many characters, from this one on. -/
  | shifted (first : Nat)
  /-- Every other one becomes the one after it. -/
  | paired
deriving DecidableEq, Repr

/-- The fate of the character that is `n` places after the first of a piece, which is `first`. -/
def Rule.fate (rule : Rule) (first n : Nat) : Fate :=
  match rule with
  | .all fate => fate
  | .shifted target => .replaced [Char.ofNat (target + n)]
  | .paired => if n % 2 = 0 then .replaced [Char.ofNat (first + n + 1)] else .kept

/-- Characters that follow each other, and their rule. -/
structure Piece where
  length : Nat
  rule : Rule
deriving DecidableEq, Repr

/-- A number in hexadecimal, with capital letters. -/
def hexadecimal (cs : List Char) : Nat :=
  let digit (c : Char) : Nat := if c.isDigit then c.toNat - '0'.toNat else c.toNat - 'A'.toNat + 10
  cs.foldl (fun n c => 16 * n + digit c) 0

/-- A number that may be left out if it is one. -/
def count (cs : List Char) : Nat :=
  if cs.isEmpty then 1 else hexadecimal cs

/-- The characters of an item. -/
def targets (cs : List Char) : Fate :=
  .replaced ((Text.fields '+' cs).map fun code => Char.ofNat (hexadecimal code))

/-- Read an item of a row. -/
def Piece.read (item : List Char) : Piece :=
  match item with
  | '.' :: n => ⟨count n, .all .kept⟩
  | '-' :: n => ⟨count n, .all .dropped⟩
  | '!' :: n => ⟨count n, .all .refused⟩
  | '^' :: n => ⟨2 * count n, .paired⟩
  | _ =>
    match Text.fields '*' item, Text.fields '>' item with
    | [cs, n], _ => ⟨hexadecimal n, .all (targets cs)⟩
    | _, [c, n] => ⟨hexadecimal n, .shifted (hexadecimal c)⟩
    | _, _ => ⟨1, .all (targets item)⟩

/-- The fate of the character that is `n` places after the first of some pieces. -/
def fateIn (first n : Nat) : List Piece → Fate
  | [] => .refused
  | piece :: pieces =>
    if n < piece.length then piece.rule.fate first n
    else fateIn (first + piece.length) (n - piece.length) pieces

/-! ## Texts -/

/-- What becomes of a character in a domain.  Capital letters become small ones, and all the rest of
ASCII stays. -/
def fate (c : Char) : Fate :=
  if c.toNat < 0x80 then if c.isUpper then .replaced [c.toLower] else .kept
  else
    match (mappingTable.takeWhile fun row => row.1 ≤ c.toNat).getLast? with
    | none => .refused
    | some (first, items) =>
      fateIn first (c.toNat - first) ((Text.fields ' ' items.toList).map Piece.read)

/-- What is left of a character. -/
def remains? (c : Char) : Option (List Char) :=
  match fate c with
  | .kept => some [c]
  | .dropped => some []
  | .refused => none
  | .replaced cs => some cs

/-- What becomes of a text. -/
def mapped? (cs : List Char) : Option (List Char) :=
  (cs.mapM remains?).map List.flatten

end Domain
end EmojiLint
