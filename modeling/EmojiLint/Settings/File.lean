import EmojiLint.Disk.Basic
import EmojiLint.Settings.Exclude
import EmojiLint.Settings.Print

/-!
# The settings file

Settings are kept in a file.  Without the file all settings have their defaults, and adding a
pattern creates it.
-/

set_option autoImplicit false

namespace EmojiLint

/-- What goes wrong with a settings file. -/
inductive SettingsError
  | unreadable (path : Path) (cause : OsError)
  | notText (path : Path)
  | invalid (path : Path) (fault : Json.Fault)
  | unwritable (path : Path) (cause : OsError)
deriving DecidableEq, Repr

namespace SettingsError

/-- The settings file. -/
def path : SettingsError → Path
  | unreadable path _ => path
  | notText path => path
  | invalid path _ => path
  | unwritable path _ => path

/-- What is said of a text that holds no settings. -/
def faultMessage : Json.Fault → String
  | .ended => "the text ends too early"
  | .malformed => "the text is not JSON"
  | .mismatched => "the values are not those of settings"

def message : SettingsError → String
  | unreadable path cause => "failed to read '" ++ path.text ++ "': " ++ cause.message
  | notText path => "failed to read '" ++ path.text ++ "': stream did not contain valid UTF-8"
  | invalid path fault => "invalid settings in '" ++ path.text ++ "': " ++ faultMessage fault
  | unwritable path cause => "failed to write '" ++ path.text ++ "': " ++ cause.message

end SettingsError

namespace Settings

/-- Read a settings file.  A missing file stands for the defaults. -/
def load (disk : Disk) (p : Path) : Except SettingsError Settings :=
  match disk.read p with
  | .error .notFound => .ok {}
  | .error e => .error (.unreadable p e)
  | .ok content =>
    match String.fromUTF8? content with
    | none => .error (.notText p)
    | some text => (read text).mapError (.invalid p)

/-- Write a settings file. -/
def save (settings : Settings) (disk : Disk) (p : Path) : Except SettingsError Disk :=
  (disk.write p settings.fileText.toUTF8).mapError (.unwritable p)

/-- Add a pattern to a settings file, and say whether it was new.  A pattern that changes nothing
is not written. -/
def addPatternToFile (disk : Disk) (p : Path) (pattern : String) :
    Except SettingsError Bool × Disk :=
  match load disk p with
  | .error e => (.error e, disk)
  | .ok settings =>
    match settings.addPattern? pattern with
    | none => (.ok false, disk)
    | some settings =>
      match settings.save disk p with
      | .error e => (.error e, disk)
      | .ok disk => (.ok true, disk)

end Settings
end EmojiLint
