import EmojiLint.Json.Read
import EmojiLint.Json.Skip
import EmojiLint.Settings.Basic

/-!
# Reading settings

Settings are an object whose keys may stand in any order, or an array that lists the values in the
order of the keys.  What is missing takes its default.  In an object a key must not come twice, and
keys that mean nothing are skipped with whatever they hold.

`Settings.read` reads a text and reports the first fault in it, from left to right.
-/

set_option autoImplicit false

namespace EmojiLint
namespace Settings

open Json (Fault)

/-- The keys of the settings, in order. -/
inductive Key
  | severity
  | ignoreInComments
  | ignoreInStrings
  | ignoreMarkdown
  | excludePatterns
deriving DecidableEq, Repr

namespace Key

def name : Key → String
  | severity => "severity"
  | ignoreInComments => "ignoreInComments"
  | ignoreInStrings => "ignoreInStrings"
  | ignoreMarkdown => "ignoreMarkdown"
  | excludePatterns => "excludePatterns"

/-- All keys, in order. -/
def all : List Key :=
  [severity, ignoreInComments, ignoreInStrings, ignoreMarkdown, excludePatterns]

def ofName? (name : String) : Option Key :=
  all.find? fun key => key.name == name

end Key

/-- Settings of which some are still missing. -/
structure Draft where
  severity : Option Severity := none
  comments : Option Bool := none
  strings : Option Bool := none
  markdown : Option Bool := none
  excludePatterns : Option (List String) := none
deriving DecidableEq, Repr

namespace Draft

/-- Whether the value of a key is there already. -/
def has (draft : Draft) : Key → Bool
  | .severity => draft.severity.isSome
  | .ignoreInComments => draft.comments.isSome
  | .ignoreInStrings => draft.strings.isSome
  | .ignoreMarkdown => draft.markdown.isSome
  | .excludePatterns => draft.excludePatterns.isSome

/-- Give what is missing its default. -/
def finish (draft : Draft) : Settings :=
  let defaults : Settings := {}
  { severity := draft.severity.getD defaults.severity
    ignore :=
      { comments := draft.comments.getD defaults.ignore.comments
        strings := draft.strings.getD defaults.ignore.strings
        markdown := draft.markdown.getD defaults.ignore.markdown }
    excludePatterns := draft.excludePatterns.getD defaults.excludePatterns }

/-- Read the value of a key. -/
def readValue (draft : Draft) (key : Key) (cs : List Char) : Except Fault (Draft × List Char) :=
  match key with
  | .severity =>
    (Json.stringValue cs).map fun (s, rest) =>
      ({ draft with severity := some (.ofTextD (String.ofList s)) }, rest)
  | .ignoreInComments =>
    (Json.boolValue cs).map fun (b, rest) => ({ draft with comments := some b }, rest)
  | .ignoreInStrings =>
    (Json.boolValue cs).map fun (b, rest) => ({ draft with strings := some b }, rest)
  | .ignoreMarkdown =>
    (Json.boolValue cs).map fun (b, rest) => ({ draft with markdown := some b }, rest)
  | .excludePatterns =>
    (Json.stringArrayValue cs).map fun (ss, rest) =>
      ({ draft with excludePatterns := some ss }, rest)

/-- A reader that only turns what it read into something else leaves what it left before. -/
theorem length_of_map_eq_ok {α : Type} {read : Except Fault (α × List Char)}
    {put : α × List Char → Draft × List Char} {result : Draft} {rest : List Char} {bound : Nat}
    (h : read.map put = .ok (result, rest)) (hput : ∀ p, (put p).2 = p.2)
    (hread : ∀ {a after}, read = .ok (a, after) → after.length ≤ bound) : rest.length ≤ bound := by
  cases read with
  | error fault => simp [Except.map] at h
  | ok pair =>
    simp only [Except.map, Except.ok.injEq] at h
    have : rest = pair.2 := by rw [← hput pair, h]
    exact this ▸ hread rfl

theorem length_readValue {draft result : Draft} {key : Key} {cs rest : List Char}
    (h : draft.readValue key cs = .ok (result, rest)) : rest.length ≤ cs.length := by
  cases key <;> simp only [readValue] at h
  · exact length_of_map_eq_ok h (fun _ => rfl) fun h => Nat.le_of_lt (Json.length_stringValue h)
  · exact length_of_map_eq_ok h (fun _ => rfl) Json.length_boolValue
  · exact length_of_map_eq_ok h (fun _ => rfl) Json.length_boolValue
  · exact length_of_map_eq_ok h (fun _ => rfl) Json.length_boolValue
  · exact length_of_map_eq_ok h (fun _ => rfl) Json.length_stringArrayValue

end Draft

/-! ## Objects -/

/-- Whether another member of an object follows: `first` says that none was read yet. -/
def moreMembers (first : Bool) (cs : List Char) : Except Fault (Bool × List Char) :=
  match Json.skipSpace cs with
  | [] => .error .ended
  | c :: rest =>
    if c = '\x7d' then .ok (false, rest)
    else if first then if c = '"' then .ok (true, c :: rest) else .error .malformed
    else if c = ',' then
      match Json.skipSpace rest with
      | [] => .error .ended
      | d :: rest => if d = '"' then .ok (true, d :: rest) else .error .malformed
    else .error .malformed

/-- Pass over the colon after a key. -/
def colon (cs : List Char) : Except Fault (List Char) :=
  match Json.skipSpace cs with
  | [] => .error .ended
  | c :: rest => if c = ':' then .ok rest else .error .malformed

/-- Read the value of a member, the colon before it included.  The value of a key that means
nothing is skipped. -/
def readMember (draft : Draft) (name : String) (cs : List Char) :
    Except Fault (Draft × List Char) :=
  match Key.ofName? name with
  | some key =>
    if draft.has key then .error .mismatched
    else
      match colon cs with
      | .error fault => .error fault
      | .ok rest => draft.readValue key rest
  | none =>
    match colon cs with
    | .error fault => .error fault
    | .ok rest => (Json.skipValue rest).map fun after => (draft, after)

theorem length_moreMembers {first b : Bool} {cs rest : List Char}
    (h : moreMembers first cs = .ok (b, rest)) : rest.length ≤ cs.length := by
  have hspace := Json.length_skipSpace_le cs
  unfold moreMembers at h
  split at h
  · cases h
  · next c after heq =>
    rw [heq, List.length_cons] at hspace
    split at h
    · cases h; omega
    · split at h
      · split at h
        · cases h
          simp only [List.length_cons]; omega
        · cases h
      · split at h
        · split at h
          · cases h
          · next d after' heq' =>
            have := Json.length_skipSpace_le after
            rw [heq', List.length_cons] at this
            split at h
            · cases h
              simp only [List.length_cons]; omega
            · cases h
        · cases h

theorem length_colon {cs rest : List Char} (h : colon cs = .ok rest) :
    rest.length ≤ cs.length := by
  have hspace := Json.length_skipSpace_le cs
  unfold colon at h
  split at h
  · cases h
  · next c after heq =>
    rw [heq, List.length_cons] at hspace
    split at h
    · cases h; omega
    · cases h

theorem length_readMember {draft result : Draft} {name : String} {cs rest : List Char}
    (h : readMember draft name cs = .ok (result, rest)) : rest.length ≤ cs.length := by
  unfold readMember at h
  split at h
  · split at h
    · cases h
    · split at h
      · cases h
      · next after hcolon =>
        have := length_colon hcolon
        have := Draft.length_readValue h
        omega
  · split at h
    · cases h
    · next after hcolon =>
      have := length_colon hcolon
      cases hskip : Json.skipValue after with
      | error fault => simp [hskip, Except.map] at h
      | ok after' =>
        have := Json.length_skipFrom hskip
        simp only [hskip, Except.map, Except.ok.injEq, Prod.mk.injEq] at h
        rw [← h.2]; omega

/-- Read the members of an object, the bracket that opens it being read already. -/
def readMembers (first : Bool) (draft : Draft) (cs : List Char) :
    Except Fault (Draft × List Char) :=
  match _hmore : moreMembers first cs with
  | .error fault => .error fault
  | .ok (false, rest) => .ok (draft, rest)
  | .ok (true, rest) =>
    match _hname : Json.stringValue rest with
    | .error fault => .error fault
    | .ok (name, rest) =>
      match _hmember : readMember draft (String.ofList name) rest with
      | .error fault => .error fault
      | .ok (draft, rest) => readMembers false draft rest
termination_by cs.length
decreasing_by
  have := length_moreMembers _hmore
  have := Json.length_stringValue _hname
  have := length_readMember _hmember
  omega

/-! ## Arrays -/

/-- Read the values of an array for the given keys, as far as there are values. -/
def readElements (first : Bool) (draft : Draft) :
    List Key → List Char → Except Fault (Draft × List Char)
  | [], cs => .ok (draft, cs)
  | key :: keys, cs =>
    match Json.moreElements first cs with
    | .error fault => .error fault
    | .ok (false, rest) => .ok (draft, rest)
    | .ok (true, rest) =>
      match draft.readValue key rest with
      | .error fault => .error fault
      | .ok (draft, rest) => readElements false draft keys rest

/-! ## The whole text -/

/-- Read settings in either form. -/
def readEither (cs : List Char) : Except Fault (Draft × List Char) :=
  match Json.skipSpace cs with
  | [] => .error .ended
  | c :: rest =>
    if c = '\x7b' then readMembers true {} rest
    else if c = '[' then do
      let (draft, rest) ← readElements true {} Key.all rest
      return (draft, ← Json.arrayEnd rest)
    else .error (Json.mismatch (c :: rest))

/-- Read the text of a settings file.  Nothing but space may follow the settings. -/
def read (text : String) : Except Fault Settings := do
  let (draft, rest) ← readEither text.toList
  if (Json.skipSpace rest).isEmpty then return draft.finish else .error .malformed

end Settings
end EmojiLint
