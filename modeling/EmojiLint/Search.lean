/-!
# Binary search

Line tables and ignored ranges are sorted, so both are searched by halving.  The caller says how an
element compares with what it looks for: `.lt` when the element is too small, `.gt` when it is too
large.
-/

set_option autoImplicit false

namespace EmojiLint

/-- Where a search ended. -/
inductive Search
  /-- At an element that compares equal. -/
  | found (i : Nat)
  /-- Between two neighbours: every element before `i` is too small, every other one too large. -/
  | missing (i : Nat)
deriving DecidableEq, Repr

namespace Search

/-- Search the elements from `lo` up to, but not including, `hi`. -/
def between {α : Type} (cmp : α → Ordering) (xs : Array α) (lo hi : Nat) (h : hi ≤ xs.size) :
    Search :=
  if hlt : lo < hi then
    let mid := lo + (hi - lo) / 2
    have hmid : mid < hi := by omega
    have hsize : mid < xs.size := by omega
    match cmp xs[mid] with
    | .eq => .found mid
    | .lt => between cmp xs (mid + 1) hi h
    | .gt => between cmp xs lo mid (by omega)
  else .missing lo
termination_by hi - lo

/-- Search a sorted array. -/
def run {α : Type} (cmp : α → Ordering) (xs : Array α) : Search :=
  between cmp xs 0 xs.size (Nat.le_refl _)

end Search
end EmojiLint
