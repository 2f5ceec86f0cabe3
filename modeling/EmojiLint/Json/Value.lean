/-!
# JSON values

The values that editors send.  An object keeps its members in order, and its keys are distinct.
Numbers are told apart only as far as anybody asks: whole numbers, which are counts and positions,
and all others, which are kept as they were written.
-/

set_option autoImplicit false

namespace EmojiLint

inductive Json
  | null
  | bool (b : Bool)
  | whole (n : Int)
  | decimal (digits : String)
  | string (s : String)
  | array (elements : List Json)
  | object (members : List (String × Json))
deriving Inhabited, Repr

namespace Json

/-- The member of an object with the given key. -/
def member? (key : String) : Json → Option Json
  | object members => members.lookup key
  | _ => none

def isNull : Json → Bool
  | null => true
  | _ => false

def asString? : Json → Option String
  | string s => some s
  | _ => none

def asBool? : Json → Option Bool
  | bool b => some b
  | _ => none

def asArray? : Json → Option (List Json)
  | array elements => some elements
  | _ => none

def asObject? : Json → Option (List (String × Json))
  | object members => some members
  | _ => none

end Json
end EmojiLint
