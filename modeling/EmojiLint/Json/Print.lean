import EmojiLint.Json.Quote
import EmojiLint.Json.Value

/-!
# Writing whole values

Values are written without any space between their pieces.
-/

set_option autoImplicit false

namespace EmojiLint
namespace Json

mutual

/-- How a value is written. -/
def printChars : Json → List Char
  | null => "null".toList
  | bool b => (if b then "true" else "false").toList
  | whole n => (toString n).toList
  | decimal digits => digits.toList
  | string s => quote s
  | array vs => '[' :: printElements vs ++ [']']
  | object ms => '\x7b' :: printMembers ms ++ ['\x7d']

/-- How elements are written, with commas between them. -/
def printElements : List Json → List Char
  | [] => []
  | [v] => printChars v
  | v :: vs => printChars v ++ ',' :: printElements vs

/-- How members are written, with commas between them. -/
def printMembers : List (String × Json) → List Char
  | [] => []
  | [(key, v)] => quote key ++ ':' :: printChars v
  | (key, v) :: ms => quote key ++ ':' :: printChars v ++ ',' :: printMembers ms

end

/-- The text of a value. -/
def print (value : Json) : String :=
  String.ofList value.printChars

end Json
end EmojiLint
