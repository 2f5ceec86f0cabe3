import EmojiLint.CommandLine.Frame
import EmojiLint.CommandLine.Options
import EmojiLint.CommandLine.Report
import EmojiLint.Project.Basic
import EmojiLint.Settings.File

/-!
# Running a command

`run` takes a command line from its arguments to what is printed, to the exit code and to the disk
afterwards.  Two commands go on after that: watching files, and serving an editor.

The settings file stands in the current folder unless an option names another; the folder of the
settings file is the root of the project.  Options win over the settings file.
-/

set_option autoImplicit false

namespace EmojiLint
namespace CommandLine

/-- Where a command runs. -/
structure Place where
  /-- The current folder. -/
  folder : Path
  /-- Whether errors go to a terminal. -/
  terminal : Bool
  /-- The root of the project. -/
  root : Path
  settingsFile : Path
deriving DecidableEq, Repr

/-- What a command goes on with. -/
inductive Next
  | exit
  /-- Watch files, and check those that change with the settings of the first check. -/
  | watch (place : Place) (options : Options) (settings : Settings)
  /-- Serve an editor. -/
  | serve
deriving DecidableEq, Repr

structure Outcome where
  output : String := ""
  errors : String := ""
  code : Nat := 0
  disk : Disk
  next : Next := .exit

/-- A text with a line feed at its end. -/
def endLine (s : String) : String :=
  s ++ "\n"

def red : String := "\x1b[31m"

def yellow : String := "\x1b[33m"

def green : String := "\x1b[32m"

def bold : String := "\x1b[1m"

def plain : String := "\x1b[0m"

/-- An error message, coloured on a terminal. -/
def errorLine (terminal : Bool) (message : String) : String :=
  let label := if terminal then bold ++ red ++ "error" ++ plain else "error"
  endLine (label ++ ": " ++ message)

namespace Place

/-- Find the root and the settings file. -/
def ofOptions (folder : Path) (terminal : Bool) (options : Options) : Place :=
  match options.config with
  | some config =>
    let file := folder.join config
    ⟨folder, terminal, file.parent?.getD folder, file⟩
  | none => ⟨folder, terminal, folder, folder.child Settings.fileName⟩

/-- The files and folders to check: without any, the root. -/
def targets (place : Place) (options : Options) : List Path :=
  if options.paths.isEmpty then [place.root] else options.paths.map place.folder.join

/-- A command that ends with an error. -/
def fail (place : Place) (disk : Disk) (message : String) : Outcome :=
  { errors := errorLine place.terminal message, code := 1, disk }

end Place

/-! ## Checking -/

/-- The findings of one file, printed.  Their positions are looked up in the file; when it cannot be
read again, byte offsets have to do. -/
def printGroup (terminal : Bool) (disk : Disk) (root : Path) (group : Findings) : String :=
  let text? : Option String := do
    let file ← (← group.head?).file
    (disk.readText (root.child file)).toOption
  let lines : List String :=
    match text? with
    | none => group.map Diagnostic.line
    | some text =>
      if terminal then group.flatMap (frameLines text.toList)
      else group.map (plainLine (LineIndex.ofText text.toList) text.toList)
  String.join (lines.map endLine)

/-- All findings, printed file by file, with a summary at the end. -/
def printFindings (terminal : Bool) (disk : Disk) (root : Path) (fs : Findings) : String :=
  let groups := String.join ((groupByFile fs).map (printGroup terminal disk root))
  if fs.isEmpty then groups
  else
    let summary :=
      if terminal then (if fs.hasErrors then red else yellow) ++ summaryLine fs ++ plain
      else summaryLine fs
    groups ++ endLine ("\n" ++ summary)

/-- The exit code of a check: errors found count more than files that could not be read. -/
def checkCode (report : CheckReport) : Nat :=
  if report.findings.hasErrors then 2 else if report.failures.isEmpty then 0 else 1

/-- The project of a command, with some files selected. -/
def project (place : Place) (disk : Disk) (settings : Settings) (targets : List Path) : Project :=
  ({ root := place.root, settings } : Project).addTargets disk targets

/-- The list of the selected files, if it is asked for. -/
def fileList (options : Options) (project : Project) : String :=
  if options.listFiles then String.join (project.files.map fun file => endLine file.relative)
  else ""

/-- The failures of a command, one in a line. -/
def failureLines (terminal : Bool) (failures : List FileError) : String :=
  String.join (failures.map fun failure => errorLine terminal failure.message)

/-- Check the files of a project, below a line that says which they are. -/
def checkProject (place : Place) (options : Options) (disk : Disk) (project : Project)
    (heading : String) : Outcome :=
  let report := project.check disk options.language
  { output := heading
    errors := failureLines place.terminal report.failures
      ++ printFindings place.terminal disk place.root report.findings
    code := checkCode report
    disk }

def runCheck (place : Place) (options : Options) (disk : Disk) (settings : Settings) : Outcome :=
  let project := project place disk settings (place.targets options)
  if project.files.isEmpty then place.fail disk "No input files found."
  else checkProject place options disk project (fileList options project)

/-- Check files that have changed.  Nothing is said when none of them is selected. -/
def checkChanged (place : Place) (options : Options) (disk : Disk) (settings : Settings)
    (changed : List Path) : Outcome :=
  let project := project place disk settings changed
  if project.files.isEmpty then { disk }
  else
    checkProject place options disk project
      ("\nFile change detected. Checking " ++ toString project.files.length ++ " file(s)...\n")

/-! ## The other commands -/

def runFix (place : Place) (options : Options) (disk : Disk) (settings : Settings) : Outcome :=
  let project := project place disk settings (place.targets options)
  let (report, disk) := project.clean disk
  let message :=
    if place.terminal && 0 < report.changed then green ++ report.message ++ plain
    else report.message
  { output := fileList options project ++ endLine message
    errors := failureLines place.terminal report.failures
    code := if report.failures.isEmpty then 0 else 1
    disk }

/-- Write a settings file with the defaults, unless there is one. -/
def runCreateSettings (place : Place) (disk : Disk) : Outcome :=
  if disk.exists? place.settingsFile then
    place.fail disk ("A " ++ Settings.fileName ++ " file already exists at "
      ++ place.settingsFile.text ++ ".")
  else
    match ({} : Settings).save disk place.settingsFile with
    | .error e => place.fail disk e.message
    | .ok disk =>
      { output := endLine ("Successfully created a " ++ Settings.fileName ++ " file."), disk }

/-- Exclude a path and what goes with it, in the settings file. -/
def runExclude (place : Place) (disk : Disk) (target : Exclude.Target) (path : Path) : Outcome :=
  let pattern := target.pattern ((place.folder.join path).relativeTo place.root)
  match Settings.addPatternToFile disk place.settingsFile pattern with
  | (.error e, disk) => place.fail disk e.message
  | (.ok true, disk) =>
    { output := endLine ("Added exclusion pattern \"" ++ pattern ++ "\"."), disk }
  | (.ok false, disk) =>
    { output := endLine ("Pattern already present (\"" ++ pattern ++ "\")."), disk }

/-- Run one command after another.  The highest exit code counts. -/
def Outcome.andThen (first : Outcome) (second : Disk → Outcome) : Outcome :=
  let second := second first.disk
  { second with
    output := first.output ++ second.output
    errors := first.errors ++ second.errors
    code := max first.code second.code }

/-- The first of some paths that leads nowhere, and why. -/
def firstMissing? (disk : Disk) : List Path → Option (Path × OsError)
  | [] => none
  | path :: rest =>
    match disk.find path with
    | .error e => some (path, e)
    | .ok _ => firstMissing? disk rest

/-- Check once, and go on with watching the files that are there.  The first that is missing ends
the command. -/
def runWatch (place : Place) (options : Options) (disk : Disk) (settings : Settings) : Outcome :=
  let checked := runCheck place options disk settings
  let start : Outcome :=
    { checked with
      output := "Starting check in watch mode...\n\n" ++ checked.output
        ++ "\nWatching for file changes...\n"
      code := 0 }
  match firstMissing? disk (place.targets options) with
  | none => { start with next := .watch place options settings }
  | some (target, e) =>
    start.andThen fun disk =>
      place.fail disk
        ("Watch failed: " ++ e.message ++ " about [" ++ quotedText target.text ++ "]")

/-! ## All commands -/

/-- The settings with the options of the command line, which win. -/
def overrideSettings (options : Options) (settings : Settings) : Settings :=
  { settings with
    severity := options.severity.getD settings.severity
    ignore :=
      { comments := options.ignoreComments.getD settings.ignore.comments
        strings := options.ignoreStrings.getD settings.ignore.strings
        markdown := options.ignoreMarkdown.getD settings.ignore.markdown } }

/-- The exclusions that are asked for, in the order in which they are made. -/
def exclusions (options : Options) : List (Exclude.Target × Path) :=
  let of (target : Exclude.Target) (path : Option Path) : List (Exclude.Target × Path) :=
    (path.map fun p => (target, p)).toList
  of .file options.excludeFile ++ of .extension options.excludeExtension
    ++ of .folder options.excludeFolder

/-- Run the command that the options ask for.  Of several, one is run. -/
def runOptions (disk : Disk) (folder : Path) (terminal : Bool) (options : Options) : Outcome :=
  let place := Place.ofOptions folder terminal options
  if options.serve then { disk, next := .serve }
  else if options.createSettings then runCreateSettings place disk
  else if !(exclusions options).isEmpty then
    (exclusions options).foldl
      (fun (outcome : Outcome) (target, path) =>
        outcome.andThen fun disk => runExclude place disk target path)
      { disk }
  else
    match Settings.load disk place.settingsFile with
    | .error e => place.fail disk e.message
    | .ok settings =>
      let settings := overrideSettings options settings
      if options.fix then runFix place options disk settings
      else if options.watch then runWatch place options disk settings
      else runCheck place options disk settings

def versionText : String :=
  "emoji-eraser 0.1.0\n"

def helpText : String :=
  "Find and remove emoji in source files\n\nUsage: emoji-eraser [OPTIONS] [PATH]...\n"

def usageText : String :=
  "error: invalid arguments\n\nUsage: emoji-eraser [OPTIONS] [PATH]...\n\n"
    ++ "For more information, try '--help'.\n"

/-- Run a command line in a folder. -/
def run (disk : Disk) (folder : Path) (terminal : Bool) (args : List String) : Outcome :=
  match Options.ofArguments args with
  | .error .usage => { errors := usageText, code := 2, disk }
  | .error .version => { output := versionText, disk }
  | .error .help => { output := helpText, disk }
  | .ok options => runOptions disk folder terminal options

end CommandLine
end EmojiLint
