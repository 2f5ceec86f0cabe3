import EmojiLint.Search
import EmojiLint.Text.Utf8
import EmojiLint.Text.Span

/-!
# Lines and columns

Editors speak of lines and of columns counted in UTF-16 units, the rest of the library of byte
offsets.  A `LineIndex` holds the offset at which each line of a text starts, and both conversions
start from it.

* `LineIndex.positionOf` turns an offset into a position.  An offset inside a character stands for
  the boundary before it, one past the end for the end.
* `LineIndex.offsetOf` turns a position into an offset.  A column past the end of its line stands
  for that end, a line past the end of the text for the end of the text, and a column between the
  two units of a character for the boundary after it.
-/

set_option autoImplicit false

namespace EmojiLint

/-- A line and a column in it, both counted from zero; the column counts UTF-16 units. -/
structure Position where
  line : Nat
  column : Nat
deriving DecidableEq, Repr, Inhabited

/-- A piece of a text, given by the positions of its two ends. -/
structure Extent where
  start : Position
  stop : Position
deriving DecidableEq, Repr, Inhabited

/-- The byte offsets at which the lines of a text start, in order. -/
structure LineIndex where
  starts : Array Nat

namespace LineIndex

/-- The offsets just after the line feeds of a text whose first byte is at `offset`. -/
def startsAfter (offset : Nat) : List Char → List Nat
  | [] => []
  | c :: cs =>
    let next := offset + c.utf8Size
    if c = '\n' then next :: startsAfter next cs else startsAfter next cs

/-- Index the lines of a text.  The first line starts at the first byte. -/
def ofText (text : List Char) : LineIndex :=
  ⟨(0 :: startsAfter 0 text).toArray⟩

/-- The line that holds a byte offset. -/
def lineOf (index : LineIndex) (offset : Nat) : Nat :=
  match Search.run (fun start => compare start offset) index.starts with
  | .found line => line
  | .missing line => line - 1

/-- The position of a byte offset in the text that was indexed. -/
def positionOf (index : LineIndex) (text : List Char) (offset : Nat) : Position :=
  let offset := min offset (Text.byteLength text)
  let line := index.lineOf offset
  let lineStart := index.starts[line]?.getD 0
  ⟨line, Text.unitLength (Text.takeBytes (Text.dropBytes text lineStart) (offset - lineStart))⟩

/-- The number of bytes from the start of a line to its first boundary whose column is at least
`column`, or to the end of the line when there is none. -/
def bytesToColumn : List Char → Nat → Nat
  | [], _ => 0
  | c :: cs, column =>
    if column = 0 ∨ c = '\n' then 0
    else c.utf8Size + bytesToColumn cs (column - Text.units c)

/-- The byte offset of a position in the text that was indexed. -/
def offsetOf (index : LineIndex) (text : List Char) (position : Position) : Nat :=
  match index.starts[position.line]? with
  | none => Text.byteLength text
  | some lineStart => lineStart + bytesToColumn (Text.dropBytes text lineStart) position.column

/-- The positions of the two ends of a span. -/
def extentOf (index : LineIndex) (text : List Char) (span : Span) : Extent :=
  ⟨index.positionOf text span.start, index.positionOf text span.stop⟩

/-- The span between two positions. -/
def spanOf (index : LineIndex) (text : List Char) (extent : Extent) : Span :=
  .ofBounds (index.offsetOf text extent.start) (index.offsetOf text extent.stop)

end LineIndex
end EmojiLint
