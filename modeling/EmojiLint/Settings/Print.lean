import EmojiLint.Json.Quote
import EmojiLint.Settings.Read

/-!
# Writing settings

A settings file holds one key a line, in order, indented by two blanks.
-/

set_option autoImplicit false

namespace EmojiLint
namespace Settings

def printBool (b : Bool) : List Char :=
  if b then "true".toList else "false".toList

/-- The elements of a list of strings, one a line. -/
def printElements : List String → List Char
  | [] => []
  | [s] => "\n    ".toList ++ Json.quote s
  | s :: ss => "\n    ".toList ++ Json.quote s ++ [','] ++ printElements ss

def printStrings (ss : List String) : List Char :=
  if ss.isEmpty then "[]".toList else ['['] ++ printElements ss ++ "\n  ]".toList

/-- The value of a key. -/
def printValue (settings : Settings) : Key → List Char
  | .severity => Json.quote settings.severity.name
  | .ignoreInComments => printBool settings.ignore.comments
  | .ignoreInStrings => printBool settings.ignore.strings
  | .ignoreMarkdown => printBool settings.ignore.markdown
  | .excludePatterns => printStrings settings.excludePatterns

/-- The members for some keys, one a line. -/
def printMembers (settings : Settings) : List Key → List Char
  | [] => []
  | [key] => "\n  ".toList ++ Json.quote key.name ++ ": ".toList ++ settings.printValue key
  | key :: keys =>
    "\n  ".toList ++ Json.quote key.name ++ ": ".toList ++ settings.printValue key ++ [',']
      ++ settings.printMembers keys

/-- The text of the settings, without a line feed at its end. -/
def print (settings : Settings) : String :=
  String.ofList (['\x7b'] ++ settings.printMembers Key.all ++ ['\n', '\x7d'])

/-- The content of a settings file. -/
def fileText (settings : Settings) : String :=
  settings.print ++ "\n"

end Settings
end EmojiLint
