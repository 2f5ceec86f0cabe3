import EmojiLint.Disk.Replace
import EmojiLint.Emoji.Occurrence

/-!
# Reading and cleaning one file

Files are read as UTF-8 text, and a file that is not text is told apart from one that cannot be
read.  Cleaning removes every emoji from a file; a file without any is not written at all.
-/

set_option autoImplicit false

namespace EmojiLint

/-- What goes wrong with a single file. -/
inductive FileError
  | unreadable (path : Path) (cause : OsError)
  | notText (path : Path)
  | unwritable (path : Path) (cause : OsError)
deriving DecidableEq, Repr

namespace FileError

/-- The file that the error is about. -/
def path : FileError → Path
  | unreadable path _ => path
  | notText path => path
  | unwritable path _ => path

/-- Whether the file is left alone because it is not text. -/
def isNotText : FileError → Bool
  | notText _ => true
  | _ => false

def message : FileError → String
  | unreadable path cause => "failed to read '" ++ path.text ++ "': " ++ cause.message
  | notText path => "'" ++ path.text ++ "' is not valid UTF-8 text"
  | unwritable path cause => "failed to write '" ++ path.text ++ "': " ++ cause.message

end FileError

namespace Disk

/-- Read a file as text. -/
def readText (disk : Disk) (p : Path) : Except FileError String :=
  match disk.read p with
  | .error e => .error (.unreadable p e)
  | .ok content =>
    match String.fromUTF8? content with
    | some text => .ok text
    | none => .error (.notText p)

/-- Replace the text of a file. -/
def replaceText (disk : Disk) (p : Path) (text : String) : Except FileError Unit × Disk :=
  let (result, disk) := disk.replace p text.toUTF8
  (result.mapError (.unwritable p), disk)

/-- Remove every emoji from a file.  The result says whether the file changed. -/
def clean (disk : Disk) (p : Path) : Except FileError Bool × Disk :=
  match disk.readText p with
  | .error e => (.error e, disk)
  | .ok text =>
    match Emoji.remove? text with
    | none => (.ok false, disk)
    | some cleaned =>
      let (result, disk) := disk.replaceText p cleaned
      (result.map fun _ => true, disk)

end Disk
end EmojiLint
