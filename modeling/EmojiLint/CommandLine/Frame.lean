import EmojiLint.Diagnostic
import EmojiLint.Text.Columns
import EmojiLint.Text.Utf8

/-!
# Findings in frames

On a terminal a finding is printed in a frame that shows the line it is about with its neighbours
and a label below the emoji:

```
EE1001

  x Emoji detected
   ,-[a.py:3:3]
 2 | b
 3 | c ?
   :   ^|
   :    `-- emoji here
 4 | d
   `----
  help: run with --fix to remove every emoji
```

Here `?` stands for the emoji, which is two columns wide.

A carriage return counts as the end of a line when the neighbours are chosen.  In the frame it only
does before a line feed, so that what was chosen may be shown in fewer lines.
-/

set_option autoImplicit false

namespace EmojiLint
namespace CommandLine

/-! ## Lines -/

/-- The lines of a text with what ends them: a line feed, perhaps after a carriage return, and, if
`lone` says so, a carriage return alone.  Nothing after a last end is no line. -/
def linesOf (lone : Bool) : List Char → List (List Char)
  | [] => []
  | '\r' :: '\n' :: cs => ['\r', '\n'] :: linesOf lone cs
  | c :: cs =>
    if c = '\n' || (lone && c = '\r') then [c] :: linesOf lone cs
    else
      match linesOf lone cs with
      | [] => [[c]]
      | line :: rest => (c :: line) :: rest

/-- A line without the line feed that ends it. -/
def withoutEnd (line : List Char) : List Char :=
  match line.reverse with
  | '\n' :: '\r' :: cs => cs.reverse
  | '\n' :: cs => cs.reverse
  | _ => line

/-- The line that holds a byte offset, by its number counted from zero, and the offset in it. -/
def locate (offset : Nat) : List (List Char) → Nat × Nat
  | [] => (0, offset)
  | line :: rest =>
    if offset < Text.byteLength line then (0, offset)
    else
      let (n, offset) := locate (offset - Text.byteLength line) rest
      (n + 1, offset)

/-- Some lines of a text that are shown together. -/
structure Excerpt where
  /-- How many lines stand before them. -/
  skipped : Nat
  lines : List (List Char)

/-- A line and its neighbours. -/
def excerpt (text : List Char) (line : Nat) : Excerpt :=
  let first := line - 1
  let chosen := ((linesOf true text).drop first).take (line + 2 - first)
  ⟨first, linesOf false chosen.flatten⟩

/-- The numbers of the lines, counted from one.  A last line that ends with a carriage return has
the number of the line before it. -/
def Excerpt.numbers (e : Excerpt) : List Nat :=
  e.lines.zipIdx.map fun (line, i) =>
    if line.getLast? = some '\r' then e.skipped + i else e.skipped + i + 1

/-! ## Frames -/

def blanks (n : Nat) : String :=
  String.ofList (List.replicate n ' ')

/-- The sign of a severity. -/
def severitySign : Severity → String
  | .error => "x"
  | .warning => "!"
  | .information => ">"
  | .hint => ">"

/-- A line of the text with its number. -/
def numberedLine (digits : Nat) (number : Nat) (line : List Char) : String :=
  let shown := toString number
  " " ++ blanks (digits - shown.length) ++ shown ++ " | "
    ++ String.ofList (Text.expandTabs {} (withoutEnd line))

/-- The two lines below the emoji: its columns underlined, and a label under the middle. -/
def labelLines (margin : String) (start stop : Nat) : List String :=
  let width := max 1 (stop - start)
  let middle := width / 2
  let underline (n : Nat) : String := String.ofList (List.replicate n '^')
  [margin ++ ": " ++ blanks start ++ underline middle ++ "|" ++ underline (width - middle - 1),
    margin ++ ": " ++ blanks (start + middle) ++ "`-- emoji here"]

/-- The lines of the frame around a finding. -/
def frameLines (text : List Char) (d : Diagnostic) : List String :=
  let (line, column) := locate d.span.start (linesOf true text)
  let e := excerpt text line
  let before := ((linesOf true text).drop e.skipped).take (line - e.skipped)
  let (labelled, offset) := locate (Text.byteLength before.flatten + column) e.lines
  let digits := (toString (e.numbers.getLastD 0)).length
  let margin := blanks (digits + 2)
  let row (entry : (List Char × Nat) × Nat) : List String :=
    let ((content, number), i) := entry
    let numbered := numberedLine digits number content
    if i = labelled then
      numbered :: labelLines margin (Text.columns (Text.takeBytes content offset))
        (Text.columns (Text.takeBytes content (offset + d.span.length)))
    else [numbered]
  [d.codeLabel, "", "  " ++ severitySign d.severity ++ " " ++ d.message,
    margin ++ ",-[" ++ d.file.getD "<stdin>" ++ ":" ++ toString (line + 1) ++ ":"
      ++ toString (column + 1) ++ "]"]
    ++ (e.lines.zip e.numbers).zipIdx.flatMap row
    ++ [margin ++ "`----", "  help: run with --fix to remove every emoji"]

end CommandLine
end EmojiLint
