import EmojiLint.Debounce
import EmojiLint.Project.Discovery

/-!
# Watching files

Files are watched by comparing the disk with what it was before.  A file that is new or has other
content is changed; it is reported once it has been left alone for `Watch.delay`.
-/

set_option autoImplicit false

namespace EmojiLint
namespace CommandLine

structure Watch where
  /-- The disk as it was seen last. -/
  seen : Disk
  /-- The changed files that are still to be reported. -/
  changed : Debouncer Location Unit := {}

namespace Watch

/-- How long a file that has changed is left alone, in milliseconds. -/
def delay : Nat := 150

/-- Whether a file is watched: the data of version control are not. -/
def isWatched (loc : Location) : Bool :=
  loc.all fun name => !Discovery.skippedNames.contains name

/-- The files that are new or have other content. -/
def changedFiles (before after : Disk) : List Location :=
  after.entries.filterMap fun (loc, node) =>
    match node with
    | .file content _ =>
      match before.node? loc with
      | some (.file old _) => if content = old || !isWatched loc then none else some loc
      | _ => if isWatched loc then some loc else none
    | _ => none

/-- The path of a location. -/
def pathTo (loc : Location) : Path :=
  .ofText (String.join (loc.map fun name => "/" ++ name))

/-- See the disk after some time.  The files to check are returned in the order of their paths. -/
def observe (watch : Watch) (milliseconds : Nat) (disk : Disk) : List Path × Watch :=
  let (events, changed) := watch.changed.advance milliseconds
  let changed := (changedFiles watch.seen disk).foldl
    (fun (d : Debouncer Location Unit) loc => d.schedule loc delay () []) changed
  let due := (events.map fun (loc, _) => pathTo loc).mergeSort fun p q => p.text ≤ q.text
  (due, ⟨disk, changed⟩)

end Watch
end CommandLine
end EmojiLint
