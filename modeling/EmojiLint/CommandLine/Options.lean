import EmojiLint.Exclude.Matcher
import EmojiLint.Settings.Basic

/-!
# Options of the command line

Options and paths may stand in any order, and `--` ends the options.  An option takes its value
from the same argument (`--name=value`, `-cvalue`) or from the next one, which must not look like
an option itself.  No option may come twice.

Arguments are read from left to right; the first fault, or the first request for the version or for
help, ends the reading.
-/

set_option autoImplicit false

namespace EmojiLint
namespace CommandLine

/-- What the command line asks for. -/
structure Options where
  /-- The files and folders to check. -/
  paths : List Path := []
  config : Option Path := none
  severity : Option Severity := none
  ignoreComments : Option Bool := none
  ignoreStrings : Option Bool := none
  ignoreMarkdown : Option Bool := none
  language : Option String := none
  fix : Bool := false
  excludeFile : Option Path := none
  excludeExtension : Option Path := none
  excludeFolder : Option Path := none
  createSettings : Bool := false
  listFiles : Bool := false
  watch : Bool := false
  serve : Bool := false
deriving DecidableEq, Repr

/-- Why reading the arguments stops before their end. -/
inductive Stop
  /-- The arguments are faulty. -/
  | usage
  | version
  | help
deriving DecidableEq, Repr

/-- An option without a value. -/
inductive Switch
  | fix
  | createSettings
  | listFiles
  | watch
  | serve
  | version
  | help
deriving DecidableEq, Repr

/-- An option with a value. -/
inductive Setting
  | config
  | severity
  | ignoreComments
  | ignoreStrings
  | ignoreMarkdown
  | language
  | exclude (target : Exclude.Target)
deriving DecidableEq, Repr

/-- What the name of an option means. -/
inductive OptionKind
  | switch (s : Switch)
  | setting (s : Setting)
  | unknown
deriving DecidableEq, Repr

/-- The option with a long name. -/
def OptionKind.ofName (name : String) : OptionKind :=
  match name with
  | "fix" => .switch .fix
  | "init" => .switch .createSettings
  | "list-files" => .switch .listFiles
  | "watch" => .switch .watch
  | "lsp" => .switch .serve
  | "version" => .switch .version
  | "help" => .switch .help
  | "config" => .setting .config
  | "severity" => .setting .severity
  | "ignore-in-comments" => .setting .ignoreComments
  | "ignore-in-strings" => .setting .ignoreStrings
  | "ignore-markdown" => .setting .ignoreMarkdown
  | "language" => .setting .language
  | "exclude-file" => .setting (.exclude .file)
  | "exclude-extension" => .setting (.exclude .extension)
  | "exclude-folder" => .setting (.exclude .folder)
  | _ => .unknown

/-- The option with a name of one letter. -/
def OptionKind.ofLetter (letter : Char) : OptionKind :=
  if letter = 'c' then .setting .config
  else if letter = 'w' then .switch .watch
  else if letter = 'V' then .switch .version
  else if letter = 'h' then .switch .help
  else .unknown

namespace Options

/-- Turn a switch on. -/
def turnOn (options : Options) : Switch → Except Stop Options
  | .version => .error .version
  | .help => .error .help
  | .fix => if options.fix then .error .usage else .ok { options with fix := true }
  | .createSettings =>
    if options.createSettings then .error .usage else .ok { options with createSettings := true }
  | .listFiles =>
    if options.listFiles then .error .usage else .ok { options with listFiles := true }
  | .watch => if options.watch then .error .usage else .ok { options with watch := true }
  | .serve => if options.serve then .error .usage else .ok { options with serve := true }

/-- A value that is given for the first time. -/
def once {α : Type} (old : Option α) (new : Option α) : Except Stop (Option α) :=
  match old, new with
  | none, some a => .ok (some a)
  | _, _ => .error .usage

/-- A path; it must not be empty. -/
def path? (value : String) : Option Path :=
  if value.isEmpty then none else some (.ofText value)

/-- A truth value. -/
def bool? (value : String) : Option Bool :=
  match value with
  | "true" => some true
  | "false" => some false
  | _ => none

/-- Give an option its value. -/
def give (options : Options) (setting : Setting) (value : String) : Except Stop Options :=
  match setting with
  | .config => (once options.config (path? value)).map fun v => { options with config := v }
  | .severity =>
    (once options.severity (Severity.ofText? value)).map fun v => { options with severity := v }
  | .ignoreComments =>
    (once options.ignoreComments (bool? value)).map fun v => { options with ignoreComments := v }
  | .ignoreStrings =>
    (once options.ignoreStrings (bool? value)).map fun v => { options with ignoreStrings := v }
  | .ignoreMarkdown =>
    (once options.ignoreMarkdown (bool? value)).map fun v => { options with ignoreMarkdown := v }
  | .language => (once options.language (some value)).map fun v => { options with language := v }
  | .exclude .file =>
    (once options.excludeFile (path? value)).map fun v => { options with excludeFile := v }
  | .exclude .extension =>
    (once options.excludeExtension (path? value)).map fun v =>
      { options with excludeExtension := v }
  | .exclude .folder =>
    (once options.excludeFolder (path? value)).map fun v => { options with excludeFolder := v }

/-- Add a file or folder to check. -/
def addPath (options : Options) (value : String) : Except Stop Options :=
  match path? value with
  | some path => .ok { options with paths := options.paths ++ [path] }
  | none => .error .usage

/-- What was read of an argument, and the option that takes the next argument as its value. -/
abbrev Step := Except Stop (Options × Option Setting)

/-- Read a cluster of letters after a dash.  A letter whose option takes a value takes all the
others, without an equals sign before them. -/
def readLetters (options : Options) : List Char → Step
  | [] => .ok (options, none)
  | letter :: rest =>
    match OptionKind.ofLetter letter with
    | .unknown => .error .usage
    | .switch s =>
      match options.turnOn s with
      | .error stop => .error stop
      | .ok options => readLetters options rest
    | .setting s =>
      match rest with
      | [] => .ok (options, some s)
      | '=' :: value => (options.give s (String.ofList value)).map fun o => (o, none)
      | value => (options.give s (String.ofList value)).map fun o => (o, none)

/-- Read the name of an option, and its value after an equals sign. -/
def readName (options : Options) (text : List Char) : Step :=
  let name := String.ofList (text.takeWhile (· ≠ '='))
  match OptionKind.ofName name, text.dropWhile (· ≠ '=') with
  | .unknown, _ => .error .usage
  | .switch s, [] => (options.turnOn s).map fun o => (o, none)
  | .switch _, _ :: _ => .error .usage
  | .setting s, [] => .ok (options, some s)
  | .setting s, _ :: value => (options.give s (String.ofList value)).map fun o => (o, none)

/-- Whether an argument looks like an option. -/
def looksLikeOption (arg : String) : Bool :=
  match arg.toList with
  | '-' :: _ :: _ => true
  | _ => false

/-- Read one argument before `--`. -/
def readArgument (options : Options) (arg : String) : Step :=
  match arg.toList with
  | '-' :: '-' :: name => options.readName name
  | '-' :: letter :: letters => options.readLetters (letter :: letters)
  | _ => (options.addPath arg).map fun o => (o, none)

/-- Read arguments.  `pending` is the option that waits for its value. -/
def readArguments (options : Options) (pending : Option Setting) :
    List String → Except Stop Options
  | [] => if pending.isSome then .error .usage else .ok options
  | arg :: rest =>
    match pending with
    | some setting =>
      if looksLikeOption arg then .error .usage
      else
        match options.give setting arg with
        | .error stop => .error stop
        | .ok options => readArguments options none rest
    | none =>
      if arg = "--" then rest.foldlM addPath options
      else
        match options.readArgument arg with
        | .error stop => .error stop
        | .ok (options, pending) => readArguments options pending rest

/-- Read the arguments of a command line. -/
def ofArguments (args : List String) : Except Stop Options :=
  readArguments {} none args

end Options
end CommandLine
end EmojiLint
