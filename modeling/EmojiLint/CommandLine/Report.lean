import EmojiLint.Diagnostic
import EmojiLint.Text.Lines
import EmojiLint.Text.Unseen

/-!
# Printing findings

Findings are grouped by their file, and how many there are is said in words.  What a finding quotes
shows characters that cannot be seen by their numbers.
-/

set_option autoImplicit false

namespace EmojiLint
namespace CommandLine

/-! ## Grouping -/

/-- The findings of each file.  Sorted findings have those of one file side by side. -/
def groupByFile (fs : Findings) : List Findings :=
  fs.splitBy fun d e => d.file == e.file

/-- `n` things, in words. -/
def counted (n : Nat) (noun : String) : String :=
  toString n ++ " " ++ noun ++ if n = 1 then "" else "s"

/-- How much was found, in one line. -/
def summaryLine (fs : Findings) : String :=
  "Found " ++ counted fs.length "emoji" ++ " in " ++ counted (groupByFile fs).length "file" ++ "."

/-! ## Quoting -/

/-- A character between quotes. -/
def quotedChar (c : Char) : String :=
  if c = '"' then "\\\""
  else if c = '\x27' then "\\'"
  else if c = '\\' then "\\\\"
  else if c = '\t' then "\\t"
  else if c = '\r' then "\\r"
  else if c = '\n' then "\\n"
  else if c.toNat = 0 then "\\0"
  else if Text.isUnseen c then
    "\\u\x7b" ++ String.ofList (Nat.toDigits 16 c.toNat) ++ "\x7d"
  else c.toString

/-- A text in double quotes, with an escape for whatever could not be seen. -/
def quotedText (s : String) : String :=
  "\"" ++ String.join (s.toList.map quotedChar) ++ "\""

/-! ## One line -/

/-- A finding in one line, located by line and column, both counted from one. -/
def plainLine (index : LineIndex) (text : List Char) (d : Diagnostic) : String :=
  let position := index.positionOf text d.span.start
  d.file.getD "<stdin>" ++ "(" ++ toString (position.line + 1) ++ ","
    ++ toString (position.column + 1) ++ "): " ++ d.summary

end CommandLine
end EmojiLint
