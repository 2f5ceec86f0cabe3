import EmojiLint.Path.Basic
import EmojiLint.Text.Blank

/-!
# Names of files

What can be told from the name of a file alone: its extension and its language.  Backslashes are
taken for slashes wherever paths are compared, so that the same patterns serve everywhere.
-/

set_option autoImplicit false

namespace EmojiLint
namespace Path

/-- A text with slashes for backslashes. -/
def forwardSlashes (cs : List Char) : List Char :=
  cs.map fun c => if c = '\\' then '/' else c

/-- `forwardSlashes` of a string. -/
def normalize (s : String) : String :=
  String.ofList (forwardSlashes s.toList)

/-- What follows the last slash. -/
def baseName (cs : List Char) : List Char :=
  (segments cs).getLastD []

/-- What follows the last dot of the name, unless the name starts or ends with that dot. -/
def extension? (cs : List Char) : Option (List Char) :=
  let reversed := (baseName cs).reverse
  let extension := reversed.takeWhile (· ≠ '.')
  let stem := (reversed.dropWhile (· ≠ '.')).drop 1
  if extension.isEmpty || stem.isEmpty then none else some extension.reverse

/-- The extensions of the languages that are told apart. -/
def languageTable : List (List String × String) := [
  (["py", "pyi"], "python"),
  (["md", "markdown"], "markdown"),
  (["mdx"], "mdx"),
  (["js", "mjs", "cjs"], "javascript"),
  (["ts", "mts", "cts"], "typescript"),
  (["jsx"], "javascriptreact"),
  (["tsx"], "typescriptreact"),
  (["html", "htm"], "html"),
  (["xml"], "xml"),
  (["xhtml"], "xhtml"),
  (["sh", "bash", "zsh"], "shellscript"),
  (["yml", "yaml"], "yaml"),
  (["toml"], "toml"),
  (["rb"], "ruby"),
  (["sql"], "sql"),
  (["css"], "css"),
  (["scss"], "scss"),
  (["less"], "less"),
  (["lua"], "lua"),
  (["hs"], "haskell"),
  (["rs"], "rust"),
  (["go"], "go"),
  (["java"], "java"),
  (["c", "h"], "c"),
  (["cpp", "cc", "cxx", "hpp"], "cpp"),
  (["cs"], "csharp")]

/-- The language of a file, by the extension of its name. -/
def language (path : String) : String :=
  match extension? path.toList with
  | none => "plaintext"
  | some extension =>
    let extension := Text.lowercase (String.ofList extension)
    match languageTable.find? fun entry => entry.1.contains extension with
    | some entry => entry.2
    | none => "plaintext"

/-- A path as seen from a root, with forward slashes.  A path outside the root stays whole. -/
def relativeTo (p root : Path) : String :=
  normalize ((p.stripFront? root).getD p).text

end Path
end EmojiLint
