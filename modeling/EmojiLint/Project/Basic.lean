import EmojiLint.Check
import EmojiLint.Project.Discovery
import EmojiLint.Project.File
import EmojiLint.Settings.Exclude

/-!
# Projects

A project is a root folder with its settings and the files selected in it.  Its files are checked
or cleaned one after the other, and what goes wrong with one file is noted down and never stops
the others.
-/

set_option autoImplicit false

namespace EmojiLint

structure Project where
  root : Path
  settings : Settings
  files : List SourceFile := []

/-- The outcome of checking the files of a project. -/
structure CheckReport where
  findings : Findings := []
  /-- Files that were read and checked. -/
  checked : Nat := 0
  /-- Files that are not text. -/
  skipped : Nat := 0
  failures : List FileError := []

/-- The outcome of cleaning files. -/
structure CleanReport where
  attempted : Nat := 0
  changed : Nat := 0
  /-- Files that are not text. -/
  skipped : Nat := 0
  failures : List FileError := []
deriving DecidableEq, Repr

namespace CleanReport

/-- Note the outcome for one more file. -/
def add (report : CleanReport) (outcome : Except FileError Bool) : CleanReport :=
  match outcome with
  | .ok true => { report with changed := report.changed + 1 }
  | .ok false => report
  | .error (.notText _) => { report with skipped := report.skipped + 1 }
  | .error e => { report with failures := report.failures ++ [e] }

/-- The outcome in one line. -/
def message (report : CleanReport) : String :=
  let outcome :=
    if 0 < report.changed then
      "removed emojis in " ++ toString report.changed ++ "/" ++ toString report.attempted
        ++ " file(s)"
    else "no emojis found in selected file(s)"
  if 0 < report.skipped then
    outcome ++ ", skipped " ++ toString report.skipped ++ " non-UTF-8 file(s)"
  else outcome

end CleanReport

namespace CheckReport

/-- Note the outcome for one more file. -/
def add (report : CheckReport) (outcome : Except FileError Findings) : CheckReport :=
  match outcome with
  | .ok found =>
    { report with checked := report.checked + 1, findings := report.findings ++ found }
  | .error (.notText _) => { report with skipped := report.skipped + 1 }
  | .error e => { report with failures := report.failures ++ [e] }

/-- Sort the findings by file and position. -/
def sorted (report : CheckReport) : CheckReport :=
  { report with findings := report.findings.sort }

end CheckReport

namespace Project

/-- The paths that the settings exclude. -/
def matcher (project : Project) : Exclude.Matcher :=
  project.settings.matcher

/-- Select more files.  Files that were selected before are not selected again. -/
def addTargets (project : Project) (disk : Disk) (targets : List Path) : Project :=
  let found := Discovery.discover disk project.root project.matcher targets
  { project with
    files := found.foldl
      (fun files f => if files.any fun g => g.same f then files else files ++ [f]) project.files }

/-- Check one file.  Without a language, the name of the file decides. -/
def checkFile (project : Project) (disk : Disk) (language : Option String) (file : SourceFile) :
    Except FileError Findings :=
  (disk.readText file.path).map fun text =>
    diagnose project.settings (some file.relative) text
      (language.getD (Path.language file.relative))

/-- Check every file. -/
def check (project : Project) (disk : Disk) (language : Option String) : CheckReport :=
  (project.files.foldl
    (fun (report : CheckReport) file => report.add (project.checkFile disk language file))
    {}).sorted

/-- Clean files one after the other. -/
def cleanFiles (report : CleanReport) (disk : Disk) : List SourceFile → CleanReport × Disk
  | [] => (report, disk)
  | file :: rest =>
    let (outcome, disk) := disk.clean file.path
    cleanFiles (report.add outcome) disk rest

/-- Remove every emoji from every file, ignored or not. -/
def clean (project : Project) (disk : Disk) : CleanReport × Disk :=
  cleanFiles { attempted := project.files.length } disk project.files

end Project
end EmojiLint
