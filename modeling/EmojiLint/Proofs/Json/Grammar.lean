import EmojiLint.Json.Scalar
import EmojiLint.Json.Value

/-!
# Which texts denote a value

A value is written in many ways: with space between any two pieces, with each character of a string
as it stands or escaped, and with the members of an object in any order.  This file says which texts
these are, without reading any: a spelling leads from a text to what is left of it.

* `Gap` — some space.
* `SpellsString` — a string after the quote that opens it.
* `SpellsNat` — a whole number.
* `Spells` — a value, and the pieces that arrays and objects are made of.
* `Denotes` — a whole text.
-/

set_option autoImplicit false

namespace EmojiLint
namespace Json

/-- Some space leads from one text to another. -/
inductive Gap : List Char → List Char → Prop
  | none {cs : List Char} : Gap cs cs
  | space {c : Char} {cs rest : List Char} (hc : isSpace c = true) (h : Gap cs rest) :
      Gap (c :: cs) rest

/-! ## Strings -/

/-- Four hexadecimal digits. -/
inductive SpellsUnit : List Char → Nat → List Char → Prop
  | digits {a b c d : Char} {w x y z : Nat} {rest : List Char} (ha : hexDigit? a = some w)
      (hb : hexDigit? b = some x) (hc : hexDigit? c = some y) (hd : hexDigit? d = some z) :
      SpellsUnit (a :: b :: c :: d :: rest) (((w * 16 + x) * 16 + y) * 16 + z) rest

/-- One character of a string. -/
inductive SpellsChar : List Char → Char → List Char → Prop
  /-- As it stands. -/
  | plain {c : Char} {rest : List Char} (hquote : c ≠ '"') (hback : c ≠ '\\')
      (hcontrol : ¬ c.toNat < 0x20) : SpellsChar (c :: rest) c rest
  /-- By a letter after a backslash. -/
  | short {e c : Char} {rest : List Char} (h : shortEscape? e = some c) :
      SpellsChar ('\\' :: e :: rest) c rest
  /-- By its number. -/
  | unit {n : Nat} {cs rest : List Char} (h : SpellsUnit cs n rest)
      (hn : n < 0xD800 ∨ 0xDFFF < n) : SpellsChar ('\\' :: 'u' :: cs) (Char.ofNat n) rest
  /-- By a pair of surrogates. -/
  | pair {high low : Nat} {cs more rest : List Char} (h : SpellsUnit cs high ('\\' :: 'u' :: more))
      (hhigh : 0xD800 ≤ high ∧ high < 0xDC00) (h' : SpellsUnit more low rest)
      (hlow : 0xDC00 ≤ low ∧ low ≤ 0xDFFF) :
      SpellsChar ('\\' :: 'u' :: cs)
        (Char.ofNat (0x10000 + (high - 0xD800) * 0x400 + (low - 0xDC00))) rest

/-- The characters of a string and the quote that closes it. -/
inductive SpellsString : List Char → List Char → List Char → Prop
  | close {rest : List Char} : SpellsString ('"' :: rest) [] rest
  | char {c : Char} {cs more s rest : List Char} (hchar : SpellsChar cs c more)
      (h : SpellsString more s rest) : SpellsString cs (c :: s) rest

/-! ## Numbers -/

/-- The digits of a whole number.  Only zero starts with a zero. -/
inductive SpellsNat : List Char → Nat → List Char → Prop
  | digits {d : Char} {ds rest : List Char} (hdigits : ∀ e ∈ d :: ds, e.isDigit = true)
      (hzero : d = '0' → ds = []) : SpellsNat (d :: ds ++ rest) (digitsValue (d :: ds)) rest

/-! ## Values -/

/-- A value, or a piece of one. -/
inductive Part
  | value (v : Json)
  /-- The elements of an array and the bracket after them. -/
  | elements (vs : List Json)
  | member (m : String × Json)
  /-- The members of an object in the order in which they are written, and the bracket after
  them. -/
  | members (ms : List (String × Json))

/-- The keys of members are distinct. -/
def Distinct (ms : List (String × Json)) : Prop :=
  (ms.map Prod.fst).Nodup

/-- A part is spelled at the start of a text, and this is what is left of the text. -/
inductive Spells : List Char → Part → List Char → Prop
  | null {rest : List Char} : Spells ('n' :: nullTail ++ rest) (.value .null) rest
  | yes {rest : List Char} : Spells ('t' :: trueTail ++ rest) (.value (.bool true)) rest
  | no {rest : List Char} : Spells ('f' :: falseTail ++ rest) (.value (.bool false)) rest
  /-- A number with a point or an exponent is not whole, and zero with a sign is not either. -/
  | whole {cs rest : List Char} {n : Nat} (h : SpellsNat cs n rest) :
      Spells cs (.value (.whole n)) rest
  | minus {cs rest : List Char} {n : Nat} (h : SpellsNat cs n rest) (hn : n ≠ 0) :
      Spells ('-' :: cs) (.value (.whole (-n))) rest
  | string {cs s rest : List Char} (h : SpellsString cs s rest) :
      Spells ('"' :: cs) (.value (.string (String.ofList s))) rest
  | array {cs rest : List Char} {vs : List Json} (h : Spells cs (.elements vs) rest) :
      Spells ('[' :: cs) (.value (.array vs)) rest
  /-- The members of an object may be written in any order. -/
  | object {cs rest : List Char} {ms written : List (String × Json)}
      (h : Spells cs (.members written) rest) (hperm : written.Perm ms) (hms : Distinct ms) :
      Spells ('\x7b' :: cs) (.value (.object ms)) rest
  | noElement {cs rest : List Char} (hend : Gap cs (']' :: rest)) : Spells cs (.elements []) rest
  | lastElement {cs cs₁ cs₂ rest : List Char} {v : Json} (hgap : Gap cs cs₁)
      (hvalue : Spells cs₁ (.value v) cs₂) (hend : Gap cs₂ (']' :: rest)) :
      Spells cs (.elements [v]) rest
  | element {cs cs₁ cs₂ cs₃ rest : List Char} {v : Json} {vs : List Json} (hgap : Gap cs cs₁)
      (hvalue : Spells cs₁ (.value v) cs₂) (hcomma : Gap cs₂ (',' :: cs₃))
      (hmore : Spells cs₃ (.elements vs) rest) (hvs : vs ≠ []) :
      Spells cs (.elements (v :: vs)) rest
  | member {cs cs₁ cs₂ cs₃ cs₄ rest key : List Char} {v : Json} (hgap : Gap cs ('"' :: cs₁))
      (hkey : SpellsString cs₁ key cs₂) (hcolon : Gap cs₂ (':' :: cs₃)) (hspace : Gap cs₃ cs₄)
      (hvalue : Spells cs₄ (.value v) rest) : Spells cs (.member (String.ofList key, v)) rest
  | noMember {cs rest : List Char} (hend : Gap cs ('\x7d' :: rest)) : Spells cs (.members []) rest
  | lastMember {cs cs₁ rest : List Char} {m : String × Json} (hmember : Spells cs (.member m) cs₁)
      (hend : Gap cs₁ ('\x7d' :: rest)) : Spells cs (.members [m]) rest
  | members {cs cs₁ cs₂ rest : List Char} {m : String × Json} {ms : List (String × Json)}
      (hmember : Spells cs (.member m) cs₁) (hcomma : Gap cs₁ (',' :: cs₂))
      (hmore : Spells cs₂ (.members ms) rest) (hms : ms ≠ []) : Spells cs (.members (m :: ms)) rest

/-- A text denotes a value: it spells the value, with some space around it. -/
def Denotes (text : String) (v : Json) : Prop :=
  ∃ cs rest, Gap text.toList cs ∧ Spells cs (.value v) rest ∧ Gap rest []

end Json
end EmojiLint
