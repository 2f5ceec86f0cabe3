import EmojiLint.Text.Blank

/-!
# Severities

Every reported emoji carries one of four severities, ranked from `hint` to `error`.  Settings are
written by hand, so a severity can be read strictly (`ofText?`) or leniently (`ofTextD`), where a
name that means nothing stands for the highest severity.
-/

set_option autoImplicit false

namespace EmojiLint

inductive Severity
  | hint
  | information
  | warning
  | error
deriving DecidableEq, Repr, Inhabited

namespace Severity

/-- The place of a severity in the ranking, lowest first. -/
def rank : Severity → Nat
  | hint => 0
  | information => 1
  | warning => 2
  | error => 3

instance : Ord Severity :=
  ⟨fun s t => compare s.rank t.rank⟩

/-- The name used in settings. -/
def name : Severity → String
  | hint => "Hint"
  | information => "Information"
  | warning => "Warning"
  | error => "Error"

/-- The short name used in messages. -/
def label : Severity → String
  | hint => "hint"
  | information => "info"
  | warning => "warning"
  | error => "error"

/-- Read a severity, whatever the case of its letters and the blanks around it. -/
def ofText? (text : String) : Option Severity :=
  match Text.lowercase (String.ofList (Text.trim text.toList)) with
  | "hint" => some hint
  | "information" => some information
  | "info" => some information
  | "warning" => some warning
  | "warn" => some warning
  | "error" => some error
  | _ => none

/-- Read a severity; a name that means nothing stands for `error`. -/
def ofTextD (text : String) : Severity :=
  (ofText? text).getD error

/-- What to say of a text that is not the name of a severity. -/
def unknownMessage (text : String) : String :=
  "unknown severity '" ++ text ++ "'"

theorem ofText?_name (s : Severity) : ofText? s.name = some s := by
  cases s <;> decide +kernel

end Severity
end EmojiLint
