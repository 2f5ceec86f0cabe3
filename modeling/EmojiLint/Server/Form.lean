import EmojiLint.Json.Value
import EmojiLint.Uri.Read

/-!
# The forms of values

Editors and servers agree on what a value must look like before it means anything.  A `Form` says
it, and `Form.read?` brings a value into one canonical form or refuses it: what is a record is an
object then, all its members are there, and the absent ones are null.

Members that a form does not mention are left aside.  A record may also be sent as the list of its
members in their order, all of them.
-/

set_option autoImplicit false

namespace EmojiLint
namespace Server

/-- What a value must look like. -/
inductive Form
  | any
  | bool
  | string
  /-- A whole number that fits into 32 bits, one of them for the sign. -/
  | int
  /-- A whole number that is not negative and fits into 32 bits. -/
  | nat
  | number
  | uri
  /-- One of some words. -/
  | word (words : List String)
  /-- A value that may be null, and may be absent. -/
  | nullable (form : Form)
  /-- A value that may be absent, but is not null. -/
  | optional (form : Form)
  | either (first second : Form)
  | list (form : Form)
  /-- An object with any keys of a form, and values of a form. -/
  | table (keys values : Form)
  /-- An object with certain members, or the list of these members. -/
  | record (members : List (String × Form))
  /-- An object with certain members, and others of a form. -/
  | object (members : List (String × Form)) (others : Form)

namespace Form

/-! ## Single values -/

def isInt : Json → Bool
  | .whole n => -0x80000000 ≤ n && n < 0x80000000
  | _ => false

def isNat : Json → Bool
  | .whole n => 0 ≤ n && n < 0x100000000
  | _ => false

def isNumber : Json → Bool
  | .whole _ => true
  | .decimal _ => true
  | _ => false

/-- A value that is fit for something. -/
def fit? (isFit : Json → Bool) (value : Json) : Option Json :=
  if isFit value then some value else none

/-- Read one of some words.  It may also be the only key of an object. -/
def word? (words : List String) : Json → Option Json
  | .string s => if words.contains s then some (.string s) else none
  | .object [(s, .null)] => if words.contains s then some (.string s) else none
  | _ => none

/-- What an absent value counts as. -/
def absent? : Form → Option Json
  | nullable _ => some .null
  | optional _ => some .null
  | _ => none

/-! ## Reading -/

mutual

/-- Bring a value into the canonical form. -/
def read? : Form → Json → Option Json
  | any, value => some value
  | bool, value => fit? (fun v => v.asBool?.isSome) value
  | string, value => fit? (fun v => v.asString?.isSome) value
  | int, value => fit? isInt value
  | nat, value => fit? isNat value
  | number, value => fit? isNumber value
  | uri, value => fit? (fun v => (v.asString?.bind Uri.read).isSome) value
  | word words, value => word? words value
  | nullable form, value => if value.isNull then some .null else form.read? value
  | optional form, value => form.read? value
  | either first second, value => (first.read? value).orElse fun _ => second.read? value
  | list form, value => do
    let elements ← (← value.asArray?).mapM fun element => form.read? element
    return .array elements
  | table keys values, value => do
    let members ← (← value.asObject?).mapM fun (key, member) => do
      let _ ← keys.read? (.string key)
      return (key, ← values.read? member)
    return .object members
  | record members, value =>
    match value with
    | .object given => (readMembers? members given).map .object
    | .array elements => (readElements? members elements).map .object
    | _ => none
  | object members others, value => do
    let given ← value.asObject?
    let _ ← (given.filter fun m => !(members.map Prod.fst).contains m.1).mapM fun m =>
      others.read? m.2
    return .object (← readMembers? members given)

/-- Read the members of an object. -/
def readMembers? : List (String × Form) → List (String × Json) → Option (List (String × Json))
  | [], _ => some []
  | member :: more, given => do
    return (← readMember? member given) :: (← readMembers? more given)

/-- Read one member of an object. -/
def readMember? : String × Form → List (String × Json) → Option (String × Json)
  | (key, form), given =>
    match given.lookup key with
    | none => form.absent?.map fun value => (key, value)
    | some value => (form.read? value).map fun value => (key, value)

/-- Read members from a list of them all. -/
def readElements? : List (String × Form) → List Json → Option (List (String × Json))
  | [], [] => some []
  | member :: more, element :: elements => do
    return (← readElement? member element) :: (← readElements? more elements)
  | _, _ => none

/-- Read one member of a list of members. -/
def readElement? : String × Form → Json → Option (String × Json)
  | (key, form), element => (form.read? element).map fun value => (key, value)

end

end Form
end Server
end EmojiLint
