import EmojiLint.Json.Value
import EmojiLint.Settings.Read

/-!
# Settings sent by an editor

An editor sends its settings as a value, either as they are or nested under a key of their own.
Members that mean nothing are left aside, and a value that cannot be used at all is refused.
-/

set_option autoImplicit false

namespace EmojiLint
namespace Settings

namespace Draft

/-- Take over one member of an object. -/
def addMember? (draft : Draft) (name : String) (value : Json) : Option Draft :=
  match Key.ofName? name with
  | none => some draft
  | some .severity => value.asString?.map fun s => { draft with severity := some (.ofTextD s) }
  | some .ignoreInComments => value.asBool?.map fun b => { draft with comments := some b }
  | some .ignoreInStrings => value.asBool?.map fun b => { draft with strings := some b }
  | some .ignoreMarkdown => value.asBool?.map fun b => { draft with markdown := some b }
  | some .excludePatterns => do
    let patterns ← (← value.asArray?).mapM Json.asString?
    return { draft with excludePatterns := some patterns }

end Draft

/-- The settings of a JSON object. -/
def ofJson? : Json → Option Settings
  | .object members =>
    (members.foldlM (fun (draft : Draft) (name, value) => draft.addMember? name value) {}).map
      Draft.finish
  | _ => none

/-- The settings of an editor's value, which may be nested under a key. -/
def ofEditor? (value : Json) : Option Settings :=
  ofJson? ((value.member? editorSection).getD value)

end Settings
end EmojiLint
