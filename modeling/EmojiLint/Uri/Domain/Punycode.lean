/-!
# Labels in ASCII

A text in any script has a form of letters, digits and hyphens.  The ASCII characters come first, in
their order, with a hyphen behind them.  Then every other character, from the smallest code point to
the largest, has a number that says how far it is from the one before it: a step goes to the next
place in the text so far, and from the last place to the first one and the next code point.

* `Punycode.encode` writes a text in that form.
* `Punycode.decode?` reads it.

Numbers are written in digits whose weights depend on the numbers before them.
-/

set_option autoImplicit false

namespace EmojiLint
namespace Punycode

/-! ## Digits -/

/-- The digits are the small letters and then the decimal ones. -/
def digit (n : Nat) : Char :=
  if n < 26 then Char.ofNat ('a'.toNat + n) else Char.ofNat ('0'.toNat + (n - 26))

/-- The value of a digit. -/
def digitValue? (c : Char) : Option Nat :=
  if c.isLower then some (c.toNat - 'a'.toNat)
  else if c.isUpper then some (c.toNat - 'A'.toNat)
  else if c.isDigit then some (c.toNat - '0'.toNat + 26)
  else none

/-- Digits below the threshold end a number.  It depends on the place of the digit, counted in steps
of 36, and on the bias. -/
def threshold (bias place : Nat) : Nat :=
  if place ≤ bias then 1 else if bias + 26 ≤ place then 26 else place - bias

theorem threshold_pos (bias place : Nat) : 0 < threshold bias place := by
  unfold threshold
  split
  · omega
  · split <;> omega

/-- The bias for numbers of some size. -/
def biasFor (n : Nat) : Nat :=
  if 455 < n then biasFor (n / 35) + 36 else 36 * n / (n + 38)
termination_by n
decreasing_by omega

/-- The bias after a number, when the text has so many characters. -/
def nextBias (n size : Nat) (isFirst : Bool) : Nat :=
  let scaled := if isFirst then n / 700 else n / 2
  biasFor (scaled + scaled / size)

/-! ## Writing -/

/-- A number in digits, from a place on. -/
def number (bias place n : Nat) : List Char :=
  let t := threshold bias place
  if n < t then [digit n]
  else digit (t + (n - t) % (36 - t)) :: number bias (place + 36) ((n - t) / (36 - t))
termination_by n
decreasing_by
  have := threshold_pos bias place
  exact Nat.lt_of_le_of_lt (Nat.div_le_self _ _) (by omega)

/-- What the characters so far leave behind: the last code point, the place after it, and the
number and bias of those that are in the text already. -/
structure Progress where
  code : Nat
  place : Nat
  size : Nat
  bias : Nat
deriving DecidableEq, Repr

/-- Write the characters of a text that are not ASCII.  They come in order, with their places in the
whole text. -/
def numbers (whole : List Char) (first : Nat) (p : Progress) : List (Char × Nat) → List Char
  | [] => []
  | (c, i) :: rest =>
    let place := (whole.take i).countP (· ≤ c)
    let n := (c.toNat - p.code) * (p.size + 1) + place - p.place
    number p.bias 36 n ++
      numbers whole first
        ⟨c.toNat, place + 1, p.size + 1, nextBias n (p.size + 1) (p.size = first)⟩ rest

def isAscii (c : Char) : Bool :=
  c.toNat < 0x80

/-- Write a text in ASCII. -/
def encode (cs : List Char) : List Char :=
  let ascii := cs.filter isAscii
  let others := cs.zipIdx.filter fun p => !isAscii p.1
  let sorted := others.mergeSort fun p q => p.1 < q.1 || (p.1 = q.1 && p.2 ≤ q.2)
  (if ascii.isEmpty then [] else ascii ++ ['-']) ++
    numbers cs ascii.length ⟨0x80, 0, ascii.length, 72⟩ sorted

/-! ## Reading -/

/-- A text that is being read, and the part of the next number that has been read. -/
structure Reading where
  text : List Char
  code : Nat
  place : Nat
  bias : Nat
  /-- The value of the digits so far. -/
  sum : Nat
  /-- The weight of the next digit. -/
  weight : Nat
  /-- The place of the next digit, counted in steps of 36. -/
  digits : Nat
deriving DecidableEq, Repr

/-- The text before its first number. -/
def Reading.start (ascii : List Char) : Reading :=
  ⟨ascii, 0x80, 0, 72, 0, 1, 36⟩

/-- The end of a number: its character goes into the text. -/
def Reading.insert? (r : Reading) : Option Reading :=
  let size := r.text.length + 1
  let code := r.code + (r.place + r.sum) / size
  let place := (r.place + r.sum) % size
  if code.isValidChar then
    some ⟨r.text.take place ++ Char.ofNat code :: r.text.drop place, code, place + 1,
      nextBias r.sum size (r.place = 0), 0, 1, 36⟩
  else none

/-- Read a digit.  Numbers have 32 bits. -/
def Reading.next? (r : Reading) (c : Char) : Option Reading := do
  let n ← digitValue? c
  let sum := r.sum + n * r.weight
  let t := threshold r.bias r.digits
  if 0x100000000 ≤ r.place + sum then none
  else if n < t then Reading.insert? { r with sum }
  else if 0x100000000 ≤ r.weight * (36 - t) then none
  else some { r with sum, weight := r.weight * (36 - t), digits := r.digits + 36 }

/-- Divide a text at its last hyphen.  A hyphen at its start does not count. -/
def divided (cs : List Char) : List Char × List Char :=
  let behind := (cs.reverse.takeWhile (· ≠ '-')).reverse
  let before := cs.take (cs.length - behind.length - 1)
  if before.isEmpty then ([], cs) else (before, behind)

/-- Read a text that is written in ASCII. -/
def decode? (cs : List Char) : Option (List Char) := do
  let (ascii, digits) := divided cs
  let r ← digits.foldlM Reading.next? (Reading.start ascii)
  if r.digits = 36 then some r.text else none

end Punycode
end EmojiLint
