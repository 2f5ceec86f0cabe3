import EmojiLint.Json.Scalar

/-!
# Reading JSON values of a given shape

Each reader first skips the space before the value, and says what is wrong with a value of another
shape.

* `stringValue`, `boolValue` — strings and truth values.
* `stringArrayValue` — arrays of strings, element by element.
-/

set_option autoImplicit false

namespace EmojiLint
namespace Json

/-- Read a string value. -/
def stringValue (cs : List Char) : Except Fault (List Char × List Char) :=
  match skipSpace cs with
  | [] => .error .ended
  | c :: rest => if c = '"' then readString rest else .error (mismatch (c :: rest))

/-- Read a truth value. -/
def boolValue (cs : List Char) : Except Fault (Bool × List Char) :=
  match skipSpace cs with
  | [] => .error .ended
  | c :: rest =>
    if c = 't' then (readWord trueTail rest).map fun after => (true, after)
    else if c = 'f' then (readWord falseTail rest).map fun after => (false, after)
    else .error (mismatch (c :: rest))

/-- Whether another element of an array follows: `first` says that none was read yet. -/
def moreElements (first : Bool) (cs : List Char) : Except Fault (Bool × List Char) :=
  match skipSpace cs with
  | [] => .error .ended
  | c :: rest =>
    if c = ']' then .ok (false, c :: rest)
    else if first then .ok (true, c :: rest)
    else if c = ',' then
      match skipSpace rest with
      | [] => .error .ended
      | d :: rest => if d = ']' then .error .malformed else .ok (true, d :: rest)
    else .error .malformed

/-- Read the bracket that closes an array. -/
def arrayEnd (cs : List Char) : Except Fault (List Char) :=
  match skipSpace cs with
  | [] => .error .ended
  | c :: rest => if c = ']' then .ok rest else .error .malformed

theorem length_stringValue {cs s rest : List Char} (h : stringValue cs = .ok (s, rest)) :
    rest.length < cs.length := by
  have hspace := length_skipSpace_le cs
  unfold stringValue at h
  split at h
  · cases h
  · next c after heq =>
    rw [heq] at hspace
    split at h
    · have := length_readString h
      simp only [List.length_cons] at hspace; omega
    · cases h

theorem length_moreElements {first b : Bool} {cs rest : List Char}
    (h : moreElements first cs = .ok (b, rest)) : rest.length ≤ cs.length := by
  have hspace := length_skipSpace_le cs
  unfold moreElements at h
  split at h
  · cases h
  · next c after heq =>
    rw [heq] at hspace
    split at h
    · cases h; exact hspace
    · split at h
      · cases h; exact hspace
      · split at h
        · split at h
          · cases h
          · next d after' heq' =>
            have := length_skipSpace_le after
            rw [heq'] at this
            split at h
            · cases h
            · cases h
              simp only [List.length_cons] at *; omega
        · cases h

/-- Read the strings of an array, the bracket that opens it being read already. -/
def stringElements (first : Bool) (cs : List Char) : Except Fault (List String × List Char) :=
  match _hmore : moreElements first cs with
  | .error fault => .error fault
  | .ok (false, rest) => .ok ([], rest)
  | .ok (true, rest) =>
    match _hstring : stringValue rest with
    | .error fault => .error fault
    | .ok (s, rest) =>
      (stringElements false rest).map fun (ss, after) => (String.ofList s :: ss, after)
termination_by cs.length
decreasing_by
  have := length_moreElements _hmore
  have := length_stringValue _hstring
  omega

theorem length_stringElements {first : Bool} {cs rest : List Char} {ss : List String}
    (h : stringElements first cs = .ok (ss, rest)) : rest.length ≤ cs.length := by
  fun_induction stringElements first cs generalizing ss with
  | case1 => cases h
  | case2 first cs after hmore =>
    cases h
    exact length_moreElements hmore
  | case3 => cases h
  | case4 first cs after hmore s after' hstring ih =>
    have := length_moreElements hmore
    have := length_stringValue hstring
    cases hs : stringElements false after' with
    | error fault => simp [hs, Except.map] at h
    | ok read =>
      simp only [hs, Except.map, Except.ok.injEq, Prod.mk.injEq] at h
      obtain ⟨-, rfl⟩ := h
      have := ih hs
      omega

theorem length_arrayEnd {cs rest : List Char} (h : arrayEnd cs = .ok rest) :
    rest.length ≤ cs.length := by
  have hspace := length_skipSpace_le cs
  unfold arrayEnd at h
  split at h
  · cases h
  · next c after heq =>
    rw [heq, List.length_cons] at hspace
    split at h
    · cases h; omega
    · cases h

/-- Read an array of strings. -/
def stringArrayValue (cs : List Char) : Except Fault (List String × List Char) :=
  match skipSpace cs with
  | [] => .error .ended
  | c :: rest =>
    if c = '[' then
      match stringElements true rest with
      | .error fault => .error fault
      | .ok (ss, rest) => (arrayEnd rest).map fun after => (ss, after)
    else .error (mismatch (c :: rest))

theorem length_boolValue {cs rest : List Char} {b : Bool} (h : boolValue cs = .ok (b, rest)) :
    rest.length ≤ cs.length := by
  have hspace := length_skipSpace_le cs
  unfold boolValue at h
  split at h
  · cases h
  · next c after heq =>
    rw [heq, List.length_cons] at hspace
    split at h
    · cases hw : readWord trueTail after with
      | error fault => simp [hw, Except.map] at h
      | ok after' =>
        have := length_readWord hw
        simp only [hw, Except.map, Except.ok.injEq, Prod.mk.injEq] at h
        rw [← h.2]; omega
    · split at h
      · cases hw : readWord falseTail after with
        | error fault => simp [hw, Except.map] at h
        | ok after' =>
          have := length_readWord hw
          simp only [hw, Except.map, Except.ok.injEq, Prod.mk.injEq] at h
          rw [← h.2]; omega
      · cases h

theorem length_stringArrayValue {cs rest : List Char} {ss : List String}
    (h : stringArrayValue cs = .ok (ss, rest)) : rest.length ≤ cs.length := by
  have hspace := length_skipSpace_le cs
  unfold stringArrayValue at h
  split at h
  · cases h
  · next c after heq =>
    rw [heq, List.length_cons] at hspace
    split at h
    · split at h
      · cases h
      · next ss' after' helements =>
        have := length_stringElements helements
        cases he : arrayEnd after' with
        | error fault => simp [he, Except.map] at h
        | ok after'' =>
          have := length_arrayEnd he
          simp only [he, Except.map, Except.ok.injEq, Prod.mk.injEq] at h
          rw [← h.2]; omega
    · cases h

end Json
end EmojiLint
