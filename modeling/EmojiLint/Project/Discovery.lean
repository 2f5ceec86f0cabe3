import EmojiLint.Disk.Basic
import EmojiLint.Exclude.Matcher

/-!
# Finding the files of a project

Targets are files or folders.  A file is taken unless it is excluded; a folder is walked, leaving
out excluded files, excluded folders with all that is below them, and the folders in which version
control keeps its own data.  Links are followed.

`discover` returns the files sorted by their path relative to the root, each spelling once.
-/

set_option autoImplicit false

namespace EmojiLint

/-- A file that was selected. -/
structure SourceFile where
  path : Path
  /-- The path relative to the root, with forward slashes. -/
  relative : String
deriving DecidableEq, Repr

namespace SourceFile

/-- Whether two selections are of the same file, as far as their paths tell. -/
def same (f g : SourceFile) : Bool :=
  decide (f.path.Same g.path) && f.relative == g.relative

/-- Order by relative path. -/
def le (f g : SourceFile) : Bool :=
  (compare f.relative g.relative).isLE

end SourceFile

namespace Discovery

/-- Folders that are never walked. -/
def skippedNames : List String :=
  [".git", ".hg", ".svn"]

/-- Whether a folder is excluded with all that is below it.  The root never is. -/
def excludesFolder (matcher : Exclude.Matcher) (relative : String) : Bool :=
  let trimmed := String.ofList (relative.toList.reverse.dropWhile (· == '/')).reverse
  if trimmed.isEmpty || trimmed == "." then false
  else matcher.excludes trimmed || matcher.excludes (trimmed ++ "/")

/-- The files in a folder and below.  No more than `depth` folders are entered, one inside the
other. -/
def walk (disk : Disk) (root : Path) (matcher : Exclude.Matcher) (depth : Nat) (folder : Path) :
    List SourceFile :=
  match depth with
  | 0 => []
  | depth + 1 =>
    match disk.list folder with
    | .error _ => []
    | .ok names =>
      names.flatMap fun name =>
        let path := folder.child name
        let relative := path.relativeTo root
        if disk.isFolder path then
          if skippedNames.contains name || excludesFolder matcher relative then []
          else walk disk root matcher depth path
        else if disk.isFile path && !matcher.excludes relative then [⟨path, relative⟩]
        else []

/-- As deep as folders can be inside one another: every stretch between two links is no longer than
the disk is deep. -/
def walkDepth (disk : Disk) : Nat :=
  (Disk.linkLimit + 1) * (disk.depth + 1)

/-- The files of one target. -/
def ofTarget (disk : Disk) (root : Path) (matcher : Exclude.Matcher) (target : Path) :
    List SourceFile :=
  let path := root.join target
  let relative := path.relativeTo root
  if disk.isFolder path then
    if excludesFolder matcher relative then [] else walk disk root matcher (walkDepth disk) path
  else if disk.isFile path && !matcher.excludes relative then [⟨path, relative⟩]
  else []

/-- Drop every file that is the same as the one before it. -/
def dedup : List SourceFile → List SourceFile
  | [] => []
  | f :: rest =>
    match dedup rest with
    | [] => [f]
    | g :: more => if f.same g then f :: more else f :: g :: more

/-- The files of some targets, sorted. -/
def discover (disk : Disk) (root : Path) (matcher : Exclude.Matcher) (targets : List Path) :
    List SourceFile :=
  dedup ((targets.flatMap (ofTarget disk root matcher)).mergeSort SourceFile.le)

end Discovery
end EmojiLint
