import EmojiLint.Json.Numeral
import EmojiLint.Text.Utf8

/-!
# Reading the scalars of JSON text

Readers take the text that is left and return what they read with the text left after it.  The
first fault counts, from left to right, and it is one of three kinds: the text ended too early, it
is not JSON, or it is JSON of the wrong shape.

* `readWord`, `readString` and `readNumber` read the three kinds of scalars, each from its second
  character on.
* `skipString` and `skipNumber` pass over values that nobody asks for.  They are more lenient: a
  surrogate may stand alone, and a number may be of any size.
* `mismatch` says what is wrong with a value of the wrong shape: a scalar is read to its end first.

Every reader that succeeds leaves a shorter text, which is what lets them be repeated.
-/

set_option autoImplicit false

namespace EmojiLint
namespace Json

/-- Why a text cannot be read. -/
inductive Fault
  /-- The text ended too early. -/
  | ended
  /-- The text is not JSON. -/
  | malformed
  /-- The text is JSON of the wrong shape, or repeats a key. -/
  | mismatched
deriving DecidableEq, Repr

/-- The four characters that may stand between any two pieces. -/
def isSpace (c : Char) : Bool :=
  c == ' ' || c == '\n' || c == '\t' || c == '\r'

def skipSpace (cs : List Char) : List Char :=
  cs.dropWhile isSpace

theorem length_skipSpace_le (cs : List Char) : (skipSpace cs).length ≤ cs.length := by
  simpa [skipSpace] using (List.dropWhile_suffix isSpace).length_le

/-! ## Words -/

/-- Read the letters of a word. -/
def readWord : List Char → List Char → Except Fault (List Char)
  | [], cs => .ok cs
  | _ :: _, [] => .error .ended
  | w :: ws, c :: cs => if w = c then readWord ws cs else .error .malformed

theorem length_readWord {ws cs rest : List Char} (h : readWord ws cs = .ok rest) :
    rest.length ≤ cs.length := by
  induction ws generalizing cs with
  | nil => simp only [readWord, Except.ok.injEq] at h; simp [h]
  | cons w ws ih =>
    cases cs with
    | nil => simp [readWord] at h
    | cons c cs =>
      simp only [readWord] at h
      split at h
      · have := ih h
        simp only [List.length_cons]; omega
      · cases h

/-- What follows the `n` of `null`. -/
def nullTail : List Char := ['u', 'l', 'l']

/-- What follows the `t` of `true`. -/
def trueTail : List Char := ['r', 'u', 'e']

/-- What follows the `f` of `false`. -/
def falseTail : List Char := ['a', 'l', 's', 'e']

/-! ## Strings -/

/-- The value of a hexadecimal digit. -/
def hexDigit? (c : Char) : Option Nat :=
  if '0' ≤ c ∧ c ≤ '9' then some (c.toNat - '0'.toNat)
  else if 'a' ≤ c ∧ c ≤ 'f' then some (c.toNat - 'a'.toNat + 10)
  else if 'A' ≤ c ∧ c ≤ 'F' then some (c.toNat - 'A'.toNat + 10)
  else none

/-- Read four hexadecimal digits.  With fewer than four bytes left the text ended too early. -/
def hex4 : List Char → Except Fault (Nat × List Char)
  | a :: b :: c :: d :: rest =>
    match hexDigit? a, hexDigit? b, hexDigit? c, hexDigit? d with
    | some a, some b, some c, some d => .ok (((a * 16 + b) * 16 + c) * 16 + d, rest)
    | _, _, _, _ => .error .malformed
  | cs => .error (if Text.byteLength cs < 4 then .ended else .malformed)

/-- The character that a letter after a backslash stands for. -/
def shortEscape? (c : Char) : Option Char :=
  match c with
  | '"' => some '"'
  | '\\' => some '\\'
  | '/' => some '/'
  | 'b' => some '\x08'
  | 'f' => some '\x0C'
  | 'n' => some '\n'
  | 'r' => some '\r'
  | 't' => some '\t'
  | _ => none

/-- Read what follows `\u`: one code unit, or a pair of surrogates. -/
def unicodeEscape (cs : List Char) : Except Fault (Char × List Char) :=
  match hex4 cs with
  | .error fault => .error fault
  | .ok (high, rest) =>
    if high < 0xD800 ∨ 0xDFFF < high then .ok (Char.ofNat high, rest)
    else if 0xDC00 ≤ high then .error .malformed
    else
      match rest with
      | '\\' :: 'u' :: rest =>
        match hex4 rest with
        | .error fault => .error fault
        | .ok (low, rest) =>
          if low < 0xDC00 ∨ 0xDFFF < low then .error .malformed
          else .ok (Char.ofNat (0x10000 + (high - 0xD800) * 0x400 + (low - 0xDC00)), rest)
      | [] => .error .ended
      | ['\\'] => .error .ended
      | _ => .error .malformed

/-- Read what follows a backslash. -/
def escape : List Char → Except Fault (Char × List Char)
  | [] => .error .ended
  | c :: cs =>
    match shortEscape? c with
    | some d => .ok (d, cs)
    | none => if c = 'u' then unicodeEscape cs else .error .malformed

theorem length_hex4 {cs rest : List Char} {n : Nat} (h : hex4 cs = .ok (n, rest)) :
    rest.length < cs.length := by
  unfold hex4 at h
  split at h
  · split at h
    · cases h; simp only [List.length_cons]; omega
    · cases h
  · cases h

theorem length_unicodeEscape {cs rest : List Char} {c : Char}
    (h : unicodeEscape cs = .ok (c, rest)) : rest.length < cs.length := by
  unfold unicodeEscape at h
  split at h
  · cases h
  · next high rest' h4 =>
    have := length_hex4 h4
    split at h
    · simp only [Except.ok.injEq, Prod.mk.injEq] at h
      exact h.2 ▸ this
    · split at h
      · cases h
      · split at h
        · next rest'' =>
          split at h
          · cases h
          · next low rest''' h4' =>
            have := length_hex4 h4'
            split at h
            · cases h
            · simp only [Except.ok.injEq, Prod.mk.injEq] at h
              rw [← h.2]
              simp only [List.length_cons] at *; omega
        · cases h
        · cases h
        · cases h

theorem length_escape {cs rest : List Char} {c : Char} (h : escape cs = .ok (c, rest)) :
    rest.length < cs.length := by
  unfold escape at h
  split at h
  · cases h
  · split at h
    · cases h; simp
    · split at h
      · have := length_unicodeEscape h
        simp only [List.length_cons]; omega
      · cases h

/-- Read a string from the character after its opening quote.  Control characters may not stand in
it as they are. -/
def readString (cs : List Char) : Except Fault (List Char × List Char) :=
  match cs with
  | [] => .error .ended
  | c :: cs =>
    if c = '"' then .ok ([], cs)
    else if c = '\\' then
      match _h : escape cs with
      | .error fault => .error fault
      | .ok (d, rest) => (readString rest).map fun (s, after) => (d :: s, after)
    else if c.toNat < 0x20 then .error .malformed
    else (readString cs).map fun (s, after) => (c :: s, after)
termination_by cs.length
decreasing_by
  · have := length_escape _h
    simp only [List.length_cons]; omega
  · simp

/-- Pass over what follows a backslash. -/
def skipEscape : List Char → Except Fault (List Char)
  | [] => .error .ended
  | c :: cs =>
    if (shortEscape? c).isSome then .ok cs
    else if c = 'u' then (hex4 cs).map Prod.snd
    else .error .malformed

theorem length_skipEscape {cs rest : List Char} (h : skipEscape cs = .ok rest) :
    rest.length < cs.length := by
  unfold skipEscape at h
  split at h
  · cases h
  · next c cs =>
    split at h
    · cases h; simp
    · split at h
      · cases h4 : hex4 cs with
        | error fault => simp [h4, Except.map] at h
        | ok read =>
          obtain ⟨n, rest'⟩ := read
          have := length_hex4 h4
          simp only [h4, Except.map, Except.ok.injEq] at h
          subst h
          simp only [List.length_cons]; omega
      · cases h

/-- Pass over a string from the character after its opening quote. -/
def skipString (cs : List Char) : Except Fault (List Char) :=
  match cs with
  | [] => .error .ended
  | c :: cs =>
    if c = '"' then .ok cs
    else if c = '\\' then
      match _h : skipEscape cs with
      | .error fault => .error fault
      | .ok rest => skipString rest
    else if c.toNat < 0x20 then .error .malformed
    else skipString cs
termination_by cs.length
decreasing_by
  · have := length_skipEscape _h
    simp only [List.length_cons]; omega
  · simp

theorem length_readString {cs s rest : List Char} (h : readString cs = .ok (s, rest)) :
    rest.length < cs.length := by
  fun_induction readString cs generalizing s with
  | case1 => cases h
  | case2 => cases h; simp
  | case3 => cases h
  | case4 cs d after he _ ih =>
    have := length_escape he
    cases hs : readString after with
    | error fault => simp [hs, Except.map] at h
    | ok read =>
      simp only [hs, Except.map, Except.ok.injEq, Prod.mk.injEq] at h
      obtain ⟨-, rfl⟩ := h
      have := ih hs
      simp only [List.length_cons]; omega
  | case5 => cases h
  | case6 c cs _ _ _ ih =>
    cases hs : readString cs with
    | error fault => simp [hs, Except.map] at h
    | ok read =>
      simp only [hs, Except.map, Except.ok.injEq, Prod.mk.injEq] at h
      obtain ⟨-, rfl⟩ := h
      have := ih hs
      simp only [List.length_cons]; omega

theorem length_skipString {cs rest : List Char} (h : skipString cs = .ok rest) :
    rest.length < cs.length := by
  fun_induction skipString cs with
  | case1 => cases h
  | case2 => cases h; simp
  | case3 => cases h
  | case4 cs after he _ ih =>
    have := length_skipEscape he
    have := ih h
    simp only [List.length_cons]; omega
  | case5 => cases h
  | case6 c cs _ _ _ ih =>
    have := ih h
    simp only [List.length_cons]; omega

/-! ## Numbers -/

/-- Split off the digits at the start of a text. -/
def digits (cs : List Char) : List Char × List Char :=
  (cs.takeWhile Char.isDigit, cs.dropWhile Char.isDigit)

/-- Read the digits after a point or an exponent mark; there is at least one.  Without any, the
fault depends on whether the text ended there. -/
def someDigits (atEnd : Fault) (cs : List Char) : Except Fault (List Char × List Char) :=
  if (digits cs).1.isEmpty then .error (if cs.isEmpty then atEnd else .malformed)
  else .ok (digits cs)

/-- Read the digits before the point.  Only a lone zero starts with a zero. -/
def wholeDigits (atEnd : Fault) (cs : List Char) : Except Fault (List Char × List Char) :=
  match digits cs with
  | ([], []) => .error atEnd
  | ([], _ :: _) => .error .malformed
  | ('0' :: _ :: _, _) => .error .malformed
  | (ds, rest) => .ok (ds, rest)

/-- Read a point and the digits after it, if there is a point. -/
def fractionDigits (atEnd : Fault) : List Char → Except Fault (List Char × List Char)
  | '.' :: cs => someDigits atEnd cs
  | cs => .ok ([], cs)

/-- Pass over the sign of an exponent: whether it is a minus, and what follows. -/
def exponentSign : List Char → Bool × List Char
  | '-' :: cs => (true, cs)
  | '+' :: cs => (false, cs)
  | cs => (false, cs)

/-- Read an exponent, if there is one. -/
def exponentPart (atEnd : Fault) (cs : List Char) : Except Fault (Int × List Char) :=
  match cs with
  | [] => .ok (0, [])
  | c :: rest =>
    if c = 'e' ∨ c = 'E' then
      let (negative, rest) := exponentSign rest
      (someDigits atEnd rest).map fun (ds, after) =>
        let n : Int := digitsValue ds
        (if negative then -n else n, after)
    else .ok (0, cs)

/-- Read a number from the character after its sign. -/
def numeral (atEnd : Fault) (cs : List Char) : Except Fault (Numeral × List Char) := do
  let (front, cs) ← wholeDigits atEnd cs
  let (fraction, cs) ← fractionDigits atEnd cs
  let (exponent, cs) ← exponentPart atEnd cs
  return (.ofDigits front fraction exponent, cs)

/-- Read a number that somebody asks for: it has to fit a floating-point number. -/
def readNumber (cs : List Char) : Except Fault (List Char) := do
  let (n, rest) ← numeral .ended cs
  if n.isTooLarge then .error .malformed else .ok rest

/-- Pass over a number of any size.  A number that breaks off is malformed. -/
def skipNumber (cs : List Char) : Except Fault (List Char) :=
  (numeral .malformed cs).map Prod.snd

/-! ## Values of the wrong shape -/

/-- The fault of a value that has the wrong shape. -/
def mismatch (cs : List Char) : Fault :=
  let scalar {α : Type} : Except Fault α → Fault
    | .ok _ => .mismatched
    | .error fault => fault
  match cs with
  | [] => .ended
  | c :: rest =>
    if c = 'n' then scalar (readWord nullTail rest)
    else if c = 't' then scalar (readWord trueTail rest)
    else if c = 'f' then scalar (readWord falseTail rest)
    else if c = '-' then scalar (readNumber rest)
    else if c.isDigit then scalar (readNumber cs)
    else if c = '"' then scalar (readString rest)
    else if c = '[' ∨ c = '\x7b' then .mismatched
    else .malformed

end Json
end EmojiLint
