import EmojiLint.Search
import EmojiLint.Text.Span

/-!
# Merged ranges

Ranges that overlap or touch are fused, which leaves a sorted list with a gap between any two
neighbours.  In such a list the range that holds an offset, if any, is found by halving.

* `merge` sorts and fuses any list of ranges.
* `Merged.contains` looks an offset up.
-/

set_option autoImplicit false

namespace EmojiLint
namespace Ignore

/-- Fuse `current` with the sorted ranges that follow it, as far as they overlap or touch. -/
def fuse (current : Range) : List Range → List Range
  | [] => [current]
  | next :: rest =>
    if next.start ≤ current.stop then fuse ⟨current.start, max current.stop next.stop⟩ rest
    else current :: fuse next rest

/-- Sorted ranges with a gap between any two neighbours. -/
structure Merged where
  ranges : Array Range
deriving DecidableEq, Repr

namespace Merged

def empty : Merged :=
  ⟨#[]⟩

def isEmpty (m : Merged) : Bool :=
  m.ranges.isEmpty

def size (m : Merged) : Nat :=
  m.ranges.size

def toList (m : Merged) : List Range :=
  m.ranges.toList

/-- How a range lies to an offset: equal when it holds the offset. -/
def locate (offset : Nat) (r : Range) : Ordering :=
  if offset < r.start then .gt else if r.stop ≤ offset then .lt else .eq

/-- Whether one of the ranges holds an offset. -/
def contains (m : Merged) (offset : Nat) : Bool :=
  match Search.run (locate offset) m.ranges with
  | .found _ => true
  | .missing _ => false

end Merged

/-- Order ranges by start, then by end. -/
def sort (rs : List Range) : List Range :=
  rs.mergeSort Range.le

/-- Sort ranges and fuse those that overlap or touch. -/
def merge (rs : List Range) : Merged :=
  match sort rs with
  | [] => .empty
  | first :: rest => ⟨(fuse first rest).toArray⟩

end Ignore
end EmojiLint
