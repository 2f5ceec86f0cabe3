import EmojiLint.Exclude.Glob

/-!
# Excluded paths

A list of patterns excludes the paths that one of them matches.  Patterns are trimmed and blank
ones do not count.  A pattern without a slash also matches at any depth, and a plain name excludes
folders of that name with everything below them as well.
-/

set_option autoImplicit false

namespace EmojiLint
namespace Exclude

/-- The form in which a pattern is compared and compiled. -/
def normalPattern (pattern : String) : List Char :=
  Path.forwardSlashes (Text.trim pattern.toList)

/-- What stands before a pattern that matches at any depth. -/
def anyFolder : List Char := ['*', '*', '/']

/-- What stands after a pattern that matches everything below. -/
def anythingBelow : List Char := ['/', '*', '*']

/-- The globs that a pattern stands for. -/
def expand (pattern : List Char) : List (List Char) :=
  if pattern.contains '/' then [pattern]
  else if pattern.contains '*' || pattern.contains '?' then [pattern, anyFolder ++ pattern]
  else
    [pattern, anyFolder ++ pattern, pattern ++ anythingBelow, anyFolder ++ pattern ++ anythingBelow]

/-- Compiled patterns. -/
structure Matcher where
  globs : List Glob
deriving DecidableEq, Repr

namespace Matcher

/-- The globs of one pattern.  Those that are too large are left out. -/
def compile (pattern : String) : List Glob :=
  let normal := normalPattern pattern
  if normal.isEmpty then [] else (expand normal).filterMap Glob.compile?

def ofPatterns (patterns : List String) : Matcher :=
  ⟨patterns.flatMap compile⟩

def isEmpty (m : Matcher) : Bool :=
  m.globs.isEmpty

/-- Whether a path, relative to the root, is excluded. -/
def excludes (m : Matcher) (path : String) : Bool :=
  let path := Path.forwardSlashes path.toList
  m.globs.any fun glob => glob.accepts path

end Matcher

/-! ## Building patterns -/

/-- What a pattern is built for. -/
inductive Target
  /-- Just this file. -/
  | file
  /-- Every file with the extension of this one. -/
  | extension
  /-- This folder with everything below it. -/
  | folder
deriving DecidableEq, Repr

/-- The pattern that excludes one file. -/
def filePattern (path : String) : String :=
  Path.normalize path

/-- The pattern that excludes every file with the same extension, or, when there is none, every
file of the same name. -/
def extensionPattern (path : String) : String :=
  let path := Path.forwardSlashes path.toList
  match Path.extension? path with
  | some extension => String.ofList ('*' :: '.' :: extension)
  | none => String.ofList (Path.baseName path)

/-- The pattern that excludes a folder with everything below it. -/
def folderPattern (path : String) : String :=
  let path := Path.forwardSlashes path.toList
  if path.getLast? = some '/' then String.ofList (path ++ ['*', '*'])
  else String.ofList (path ++ anythingBelow)

/-- The pattern that excludes a path and what goes with it. -/
def Target.pattern : Target → String → String
  | file => filePattern
  | extension => extensionPattern
  | folder => folderPattern

end Exclude
end EmojiLint
