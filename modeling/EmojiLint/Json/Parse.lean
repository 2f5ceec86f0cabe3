import EmojiLint.Assoc
import EmojiLint.Json.Scalar
import EmojiLint.Json.Value

/-!
# Reading whole values

`Json.parse` reads a text as one value.  Of members with the same key the last one counts, in the
place of the first, so the keys of an object are distinct.
-/

set_option autoImplicit false

namespace EmojiLint
namespace Json

/-- Pass over space and one character. -/
def expect (mark : Char) (cs : List Char) : Except Fault (List Char) :=
  match skipSpace cs with
  | [] => .error .ended
  | c :: rest => if c = mark then .ok rest else .error .malformed

/-- Read a number from its sign on.  One without a point and without an exponent is whole, but zero
has no sign then. -/
def numberValue (cs : List Char) : Except Fault (Json × List Char) := do
  let (negative, rest) := match cs with
    | '-' :: rest => (true, rest)
    | cs => (false, cs)
  let (n, after) ← numeral .ended rest
  let text := cs.take (cs.length - after.length)
  if n.isTooLarge then .error .malformed
  else if n.exponent ≠ 0 ∨ (negative ∧ n.significand = 0) ∨
      text.any fun c => c = '.' || c = 'e' || c = 'E' then
    return (.decimal (String.ofList text), after)
  else return (.whole (if negative then -(n.significand : Int) else n.significand), after)

/-! ## Values

Every reader takes a bound on how often it goes on, which the length of the text provides. -/

mutual

/-- Read a value, with the space before it. -/
def valueFrom : Nat → List Char → Except Fault (Json × List Char)
  | 0, _ => .error .malformed
  | bound + 1, cs =>
    match skipSpace cs with
    | [] => .error .ended
    | c :: rest =>
      if c = 'n' then (readWord nullTail rest).map fun after => (.null, after)
      else if c = 't' then (readWord trueTail rest).map fun after => (.bool true, after)
      else if c = 'f' then (readWord falseTail rest).map fun after => (.bool false, after)
      else if c = '"' then
        (readString rest).map fun (s, after) => (.string (String.ofList s), after)
      else if c = '[' then (elementsFrom bound true rest).map fun (vs, after) => (.array vs, after)
      else if c = '\x7b' then
        (membersFrom bound true [] rest).map fun (ms, after) => (.object ms, after)
      else if c = '-' || c.isDigit then numberValue (c :: rest)
      else .error .malformed

/-- Read the elements of an array and the bracket after them. -/
def elementsFrom : Nat → Bool → List Char → Except Fault (List Json × List Char)
  | 0, _, _ => .error .malformed
  | bound + 1, first, cs =>
    match skipSpace cs with
    | [] => .error .ended
    | c :: rest => do
      if c = ']' then return ([], rest)
      let before ← if first then pure (c :: rest) else expect ',' (c :: rest)
      let (v, after) ← valueFrom bound before
      let (vs, after) ← elementsFrom bound false after
      return (v :: vs, after)

/-- Read the members of an object after those that were read, and the bracket after them. -/
def membersFrom : Nat → Bool → List (String × Json) → List Char →
    Except Fault (List (String × Json) × List Char)
  | 0, _, _, _ => .error .malformed
  | bound + 1, first, done, cs =>
    match skipSpace cs with
    | [] => .error .ended
    | c :: rest => do
      if c = '\x7d' then return (done, rest)
      let before ← if first then pure (c :: rest) else expect ',' (c :: rest)
      let (key, after) ← readString (← expect '"' before)
      let (v, after) ← valueFrom bound (← expect ':' after)
      membersFrom bound false (Assoc.set (String.ofList key) v done) after

end

/-- Read a text as one value. -/
def parse (text : String) : Except Fault Json := do
  let cs := text.toList
  let (value, rest) ← valueFrom (2 * cs.length + 1) cs
  if (skipSpace rest).isEmpty then return value else .error .malformed

end Json
end EmojiLint
