/-!
# Spans and ranges of bytes

A piece of a text is named in two ways: a `Span` gives its start and its length, a `Range` its
start and its end.  Both are half-open, so the end itself is outside.
-/

set_option autoImplicit false

namespace EmojiLint

/-- A piece of a text, given by its first byte and its number of bytes. -/
structure Span where
  start : Nat
  length : Nat
deriving DecidableEq, Repr, Inhabited

namespace Span

/-- The first byte after the span. -/
def stop (s : Span) : Nat :=
  s.start + s.length

/-- The span between two offsets. -/
def ofBounds (start stop : Nat) : Span :=
  ⟨start, stop - start⟩

def isEmpty (s : Span) : Bool :=
  s.length == 0

/-- Whether a byte belongs to the span. -/
def contains (s : Span) (offset : Nat) : Bool :=
  s.start ≤ offset && offset < s.stop

/-- Whether two spans overlap or meet at an end. -/
def intersects (s t : Span) : Bool :=
  s.start ≤ t.stop && t.start ≤ s.stop

/-- The span moved `n` bytes to the right. -/
def shift (s : Span) (n : Nat) : Span :=
  ⟨s.start + n, s.length⟩

/-- The span written as a half-open interval, such as `[4, 8)`. -/
def interval (s : Span) : String :=
  "[" ++ toString s.start ++ ", " ++ toString s.stop ++ ")"

/-- The span written by its two ends, such as `4..8`. -/
def dotted (s : Span) : String :=
  toString s.start ++ ".." ++ toString s.stop

theorem contains_iff {s : Span} {offset : Nat} :
    s.contains offset = true ↔ s.start ≤ offset ∧ offset < s.stop := by
  rw [contains, Bool.and_eq_true, decide_eq_true_eq, decide_eq_true_eq]

theorem contains_eq_false_iff {s : Span} {offset : Nat} :
    s.contains offset = false ↔ offset < s.start ∨ s.stop ≤ offset := by
  rw [contains, Bool.and_eq_false_iff, decide_eq_false_iff_not, decide_eq_false_iff_not,
    Nat.not_le, Nat.not_lt]

end Span

/-- A piece of a text, given by its first byte and the first byte after it. -/
structure Range where
  start : Nat
  stop : Nat
deriving DecidableEq, Repr, Inhabited

namespace Range

def length (r : Range) : Nat :=
  r.stop - r.start

def isEmpty (r : Range) : Bool :=
  r.start == r.stop

/-- Whether a byte belongs to the range. -/
def contains (r : Range) (offset : Nat) : Bool :=
  r.start ≤ offset && offset < r.stop

/-- The range moved `n` bytes to the right. -/
def shift (r : Range) (n : Nat) : Range :=
  ⟨r.start + n, r.stop + n⟩

/-- Order by start, then by end. -/
def le (r s : Range) : Bool :=
  r.start < s.start || (r.start == s.start && r.stop ≤ s.stop)

/-- The range written by its two ends, such as `4..8`. -/
def dotted (r : Range) : String :=
  toString r.start ++ ".." ++ toString r.stop

/-- Several ranges written one after the other, such as `[1..3, 4..6]`. -/
def dottedList (rs : List Range) : String :=
  "[" ++ ", ".intercalate (rs.map dotted) ++ "]"

theorem contains_iff {r : Range} {offset : Nat} :
    r.contains offset = true ↔ r.start ≤ offset ∧ offset < r.stop := by
  rw [contains, Bool.and_eq_true, decide_eq_true_eq, decide_eq_true_eq]

end Range

namespace Span

/-- The same piece of text as a range. -/
def toRange (s : Span) : Range :=
  ⟨s.start, s.stop⟩

end Span

end EmojiLint
