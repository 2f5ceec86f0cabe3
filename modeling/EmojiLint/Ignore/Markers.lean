import EmojiLint.Text.Blank

/-!
# Comment and string markers

What opens and closes comments and strings in a language.  A handful of families covers the
languages that are told apart; every other language is taken to have `//` and `/* */` comments.

Language identifiers are compared without regard to the case of ASCII letters.
-/

set_option autoImplicit false

namespace EmojiLint
namespace Ignore

/-- The markers of one language. -/
structure Markers where
  /-- What opens a line comment, tried in order. -/
  line : List String
  /-- What opens and closes a block comment, tried in order. -/
  block : List (String × String)
  /-- Whether a backtick opens a string. -/
  backtick : Bool := false
  /-- Whether three quotes open a string. -/
  tripleQuotes : Bool := false
deriving DecidableEq, Repr

namespace Markers

/-- The family that every language belongs to unless the table says otherwise. -/
def cFamily : Markers where
  line := ["//"]
  block := [("/*", "*/")]

def scriptFamily : Markers where
  line := ["//"]
  block := [("/*", "*/")]
  backtick := true

def markup : Markers where
  line := []
  block := [("<!--", "-->")]

def python : Markers where
  line := ["#"]
  block := []
  tripleQuotes := true

def shellFamily : Markers where
  line := ["#"]
  block := []
  backtick := true

def sql : Markers where
  line := ["--"]
  block := [("/*", "*/")]

def stylesheet : Markers where
  line := []
  block := [("/*", "*/")]

/-- Block comments are tried before line comments, so their common beginning opens a block. -/
def lua : Markers where
  line := ["--"]
  block := [("--[[", "]]")]

def haskell : Markers where
  line := ["--"]
  block := [("\x7b-", "-\x7d")]

/-- The languages that are told apart. -/
def table : List (List String × Markers) := [
  (["html", "xml", "xhtml"], markup),
  (["python"], python),
  (["shellscript", "bash", "sh", "yaml", "toml", "ruby"], shellFamily),
  (["sql"], sql),
  (["css", "scss", "less"], stylesheet),
  (["javascript", "typescript", "javascriptreact", "typescriptreact"], scriptFamily),
  (["lua"], lua),
  (["haskell"], haskell)]

/-- The markers of a language. -/
def ofLanguage (language : String) : Markers :=
  let id := Text.lowercase language
  match table.find? fun entry => entry.1.contains id with
  | some entry => entry.2
  | none => cFamily

/-- What holds of the markers of every family holds of the markers of every language. -/
theorem forall_ofLanguage {P : Markers → Prop} (hfamily : P cFamily)
    (htable : ∀ entry ∈ table, P entry.2) (language : String) : P (ofLanguage language) := by
  rw [ofLanguage]
  split
  · next entry hfind => exact htable entry (List.mem_of_find?_eq_some hfind)
  · exact hfamily

end Markers

/-- Whether a language identifier names a Markdown document. -/
def isMarkdown (language : String) : Bool :=
  let id := Text.lowercase language
  id == "markdown" || id == "mdx"

end Ignore
end EmojiLint
