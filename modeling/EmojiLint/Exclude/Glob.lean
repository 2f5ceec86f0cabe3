import EmojiLint.Path.Name

/-!
# Globs

A glob is a path with wildcards: `**` stands for any characters but line feeds, `*` for any
characters but slashes, and `?` for one character that is not a slash.  Every other character
stands for itself, and a glob always speaks of the whole path.

* `Glob.ofText` reads a glob; two stars in a row are taken together, from left to right.
* `Glob.accepts` decides whether a path matches.  It works from the last piece of the glob to the
  first and remembers for every suffix of the path whether the later pieces match it, so the work
  is the length of the glob times the length of the path.
* `Glob.pattern` writes a glob as a regular expression.
-/

set_option autoImplicit false

namespace EmojiLint

/-- What a glob is made of. -/
inductive GlobPiece
  /-- Any characters but line feeds. -/
  | anyRun
  /-- Any characters but slashes. -/
  | segmentRun
  /-- One character that is not a slash. -/
  | segmentChar
  /-- The character itself. -/
  | literal (c : Char)
deriving DecidableEq, Repr

/-- A glob. -/
abbrev Glob := List GlobPiece

namespace Glob

/-- Read a glob whose slashes are forward slashes. -/
def parse : List Char → Glob
  | [] => []
  | [c] => [if c = '*' then .segmentRun else if c = '?' then .segmentChar else .literal c]
  | c :: d :: cs =>
    if c = '*' then
      if d = '*' then .anyRun :: parse cs else .segmentRun :: parse (d :: cs)
    else if c = '?' then .segmentChar :: parse (d :: cs)
    else .literal c :: parse (d :: cs)

/-- Read a glob. -/
def ofText (text : List Char) : Glob :=
  parse (Path.forwardSlashes text)

/-! ## Matching -/

/-- Whether a piece followed by the rest of a glob matches the suffixes of a path, longest first.
`row` says the same of the rest of the glob alone. -/
def extend (piece : GlobPiece) : List Char → List Bool → List Bool
  | [], row =>
    match piece with
    | .anyRun | .segmentRun => [row.headD false]
    | .segmentChar | .literal _ => [false]
  | c :: cs, row =>
    let later := extend piece cs row.tail
    let here :=
      match piece with
      | .anyRun => row.headD false || (c != '\n' && later.headD false)
      | .segmentRun => row.headD false || (c != '/' && later.headD false)
      | .segmentChar => c != '/' && row.tail.headD false
      | .literal d => c == d && row.tail.headD false
    here :: later

/-- Whether the empty glob matches the suffixes of a path, longest first. -/
def emptyRow : List Char → List Bool
  | [] => [true]
  | _ :: cs => false :: emptyRow cs

/-- Whether a glob matches the suffixes of a path, longest first. -/
def rows (glob : Glob) (path : List Char) : List Bool :=
  glob.foldr (fun piece row => extend piece path row) (emptyRow path)

/-- Whether a glob matches a path. -/
def accepts (glob : Glob) (path : List Char) : Bool :=
  (rows glob path).headD false

/-! ## As a regular expression -/

/-- The characters that a regular expression would take for more than themselves. -/
def isSpecial (c : Char) : Bool :=
  "\\.+*?()|[]\x7b\x7d^$#&-~".toList.contains c

def piecePattern : GlobPiece → List Char
  | .anyRun => ['.', '*']
  | .segmentRun => "[^/]*".toList
  | .segmentChar => "[^/]".toList
  | .literal c => if isSpecial c then ['\\', c] else [c]

/-- A glob as a regular expression that is anchored at both ends. -/
def pattern (glob : Glob) : String :=
  String.ofList ('^' :: glob.flatMap piecePattern ++ ['$'])

/-! ## Size -/

/-- An estimate of the bytes that a piece takes once it is compiled.  A wildcard stands for a set of
characters, each of up to four bytes; a literal stands for one. -/
def pieceSize : GlobPiece → Nat
  | .literal c => 32 * c.utf8Size
  | _ => 600

def size (glob : Glob) : Nat :=
  glob.foldr (fun piece n => pieceSize piece + n) 0

/-- The size that a glob must not exceed. -/
def sizeLimit : Nat :=
  10 * 1024 * 1024

/-- What is said of a glob that exceeds the limit. -/
def sizeMessage : String :=
  "Compiled regex exceeds size limit of " ++ toString sizeLimit ++ " bytes."

/-- Read a glob, unless it is too large to be compiled. -/
def compile? (text : List Char) : Option Glob :=
  let glob := ofText text
  if size glob ≤ sizeLimit then some glob else none

end Glob
end EmojiLint
