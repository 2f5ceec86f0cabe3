import EmojiLint.Json.Scalar

/-!
# Passing over a value

`skipValue` passes over one JSON value of any kind.  Values may be nested to any depth, so the
brackets that are open are kept in a list, innermost first.
-/

set_option autoImplicit false

namespace EmojiLint
namespace Json

/-- What an open bracket belongs to. -/
inductive Nest
  | array
  | object
deriving DecidableEq, Repr

/-- The bracket that closes a nest. -/
def Nest.close : Nest → Char
  | array => ']'
  | object => '\x7d'

/-- What is expected next. -/
inductive Phase
  /-- The first element of the innermost nest, or its end. -/
  | opened
  /-- A value. -/
  | value
  /-- What follows a value. -/
  | after
deriving DecidableEq, Repr

/-- Pass over a scalar, or over the bracket that opens a nest. -/
def skipStart (cs : List Char) : Except Fault (Option Nest × List Char) :=
  match skipSpace cs with
  | [] => .error .ended
  | c :: rest =>
    if c = 'n' then (readWord nullTail rest).map fun after => (none, after)
    else if c = 't' then (readWord trueTail rest).map fun after => (none, after)
    else if c = 'f' then (readWord falseTail rest).map fun after => (none, after)
    else if c = '-' then (skipNumber rest).map fun after => (none, after)
    else if c.isDigit then (skipNumber (c :: rest)).map fun after => (none, after)
    else if c = '"' then (skipString rest).map fun after => (none, after)
    else if c = '[' then .ok (some .array, rest)
    else if c = '\x7b' then .ok (some .object, rest)
    else .error .malformed

/-- Pass over the key of a member and the colon after it. -/
def skipKey (cs : List Char) : Except Fault (List Char) :=
  match skipSpace cs with
  | [] => .error .ended
  | c :: rest =>
    if c = '"' then
      match skipString rest with
      | .error fault => .error fault
      | .ok rest =>
        match skipSpace rest with
        | [] => .error .ended
        | d :: rest => if d = ':' then .ok rest else .error .malformed
    else .error .malformed

/-- Pass over what comes before an element of a nest: the key, in an object. -/
def skipLabel (nest : Nest) (cs : List Char) : Except Fault (List Char) :=
  match nest with
  | .array => .ok cs
  | .object => skipKey cs

/-! ## Every part takes at least one character -/

theorem length_someDigits {fault : Fault} {cs ds rest : List Char}
    (h : someDigits fault cs = .ok (ds, rest)) : rest.length ≤ cs.length := by
  unfold someDigits at h
  split at h
  · cases h
  · simp only [digits, Except.ok.injEq, Prod.mk.injEq] at h
    rw [← h.2]
    exact (List.dropWhile_suffix _).length_le

theorem length_wholeDigits {fault : Fault} {cs ds rest : List Char}
    (h : wholeDigits fault cs = .ok (ds, rest)) : rest.length < cs.length := by
  have hcs : (digits cs).1 ++ (digits cs).2 = cs := List.takeWhile_append_dropWhile
  unfold wholeDigits at h
  split at h
  · cases h
  · cases h
  · cases h
  · next ds' rest' hempty hnonempty hzero heq =>
    simp only [Except.ok.injEq, Prod.mk.injEq] at h
    obtain ⟨rfl, rfl⟩ := h
    rw [heq] at hcs
    simp only at hcs
    have hpos : 0 < ds'.length := by
      rcases ds' with _ | ⟨d, ds'⟩
      · rcases rest' with _ | ⟨r, rest'⟩
        · exact absurd rfl (hempty rfl)
        · exact absurd rfl (hnonempty r rest' rfl)
      · simp
    rw [← hcs, List.length_append]
    omega

theorem length_fractionDigits {fault : Fault} {cs ds rest : List Char}
    (h : fractionDigits fault cs = .ok (ds, rest)) : rest.length ≤ cs.length := by
  unfold fractionDigits at h
  split at h
  · have := length_someDigits h
    simp only [List.length_cons]; omega
  · simp only [Except.ok.injEq, Prod.mk.injEq] at h
    exact Nat.le_of_eq (congrArg List.length h.2.symm)

theorem length_exponentSign (cs : List Char) : (exponentSign cs).2.length ≤ cs.length := by
  unfold exponentSign
  split <;> simp

theorem length_exponentPart {fault : Fault} {cs rest : List Char} {n : Int}
    (h : exponentPart fault cs = .ok (n, rest)) : rest.length ≤ cs.length := by
  unfold exponentPart at h
  split at h
  · simp only [Except.ok.injEq, Prod.mk.injEq] at h
    simp [h.2.symm]
  · next c after =>
    split at h
    · have hsign := length_exponentSign after
      cases hd : someDigits fault (exponentSign after).2 with
      | error f => simp [hd, Except.map] at h
      | ok read =>
        obtain ⟨ds, rest'⟩ := read
        have := length_someDigits hd
        simp only [hd, Except.map, Except.ok.injEq, Prod.mk.injEq] at h
        rw [← h.2]
        simp only [List.length_cons]; omega
    · simp only [Except.ok.injEq, Prod.mk.injEq] at h
      simp [h.2.symm]

theorem length_numeral {fault : Fault} {cs rest : List Char} {n : Numeral}
    (h : numeral fault cs = .ok (n, rest)) : rest.length < cs.length := by
  unfold numeral at h
  cases hw : wholeDigits fault cs with
  | error f => simp [hw, bind, Except.bind] at h
  | ok front =>
    cases hf : fractionDigits fault front.2 with
    | error f => simp [hw, hf, bind, Except.bind] at h
    | ok fraction =>
      cases he : exponentPart fault fraction.2 with
      | error f => simp [hw, hf, he, bind, Except.bind] at h
      | ok exponent =>
        have h1 := length_wholeDigits hw
        have h2 := length_fractionDigits hf
        have h3 := length_exponentPart he
        simp only [hw, hf, he, bind, Except.bind, pure, Except.pure, Except.ok.injEq,
          Prod.mk.injEq] at h
        rw [← h.2]
        omega

theorem length_skipNumber {cs rest : List Char} (h : skipNumber cs = .ok rest) :
    rest.length < cs.length := by
  unfold skipNumber at h
  cases hn : numeral .malformed cs with
  | error f => simp [hn, Except.map] at h
  | ok read =>
    have := length_numeral hn
    simp only [hn, Except.map, Except.ok.injEq] at h
    exact h ▸ this

/-- A reader that maps its result leaves what the reader below it leaves. -/
theorem eq_ok_of_map_eq_ok {nest : Option Nest} {rest : List Char}
    {read : Except Fault (List Char)}
    (h : (read.map fun after => ((none : Option Nest), after)) = .ok (nest, rest)) :
    read = .ok rest := by
  cases read with
  | error f => simp [Except.map] at h
  | ok after =>
    simp only [Except.map, Except.ok.injEq, Prod.mk.injEq] at h
    rw [h.2]

theorem length_skipStart {cs rest : List Char} {nest : Option Nest}
    (h : skipStart cs = .ok (nest, rest)) : rest.length < cs.length := by
  have hspace := length_skipSpace_le cs
  unfold skipStart at h
  split at h
  · cases h
  · next c after heq =>
    rw [heq, List.length_cons] at hspace
    repeat' split at h
    · have := length_readWord (eq_ok_of_map_eq_ok h); omega
    · have := length_readWord (eq_ok_of_map_eq_ok h); omega
    · have := length_readWord (eq_ok_of_map_eq_ok h); omega
    · have := length_skipNumber (eq_ok_of_map_eq_ok h); omega
    · have := length_skipNumber (eq_ok_of_map_eq_ok h)
      simp only [List.length_cons] at this; omega
    · have := length_skipString (eq_ok_of_map_eq_ok h); omega
    · cases h; omega
    · cases h; omega
    · cases h

theorem length_skipKey {cs rest : List Char} (h : skipKey cs = .ok rest) :
    rest.length < cs.length := by
  have hspace := length_skipSpace_le cs
  unfold skipKey at h
  split at h
  · cases h
  · next c after heq =>
    rw [heq, List.length_cons] at hspace
    split at h
    · split at h
      · cases h
      · next after' hstring =>
        have := length_skipString hstring
        have hspace' := length_skipSpace_le after'
        split at h
        · cases h
        · next d after'' heq' =>
          rw [heq', List.length_cons] at hspace'
          split at h
          · cases h; omega
          · cases h
    · cases h

theorem length_skipLabel {nest : Nest} {cs rest : List Char} (h : skipLabel nest cs = .ok rest) :
    rest.length ≤ cs.length := by
  cases nest with
  | array => cases h; exact Nat.le_refl _
  | object => exact Nat.le_of_lt (length_skipKey h)

/-! ## The whole value -/

/-- Pass over the rest of a value, the brackets of `nests` being open. -/
def skipFrom (phase : Phase) (nests : List Nest) (cs : List Char) : Except Fault (List Char) :=
  match phase, nests with
  | .value, nests =>
    match _hstart : skipStart cs with
    | .error fault => .error fault
    | .ok (none, rest) => skipFrom .after nests rest
    | .ok (some nest, rest) => skipFrom .opened (nest :: nests) rest
  | .opened, [] => .ok cs
  | .opened, nest :: nests =>
    match _hspace : skipSpace cs with
    | [] => .error .ended
    | c :: rest =>
      if c = nest.close then skipFrom .after nests rest
      else
        match _hlabel : skipLabel nest (c :: rest) with
        | .error fault => .error fault
        | .ok rest => skipFrom .value (nest :: nests) rest
  | .after, [] => .ok cs
  | .after, nest :: nests =>
    match _hspace : skipSpace cs with
    | [] => .error .ended
    | c :: rest =>
      if c = nest.close then skipFrom .after nests rest
      else if c = ',' then
        match _hlabel : skipLabel nest rest with
        | .error fault => .error fault
        | .ok rest => skipFrom .value (nest :: nests) rest
      else .error .malformed
termination_by 2 * cs.length + if phase = .opened then 1 else 0
decreasing_by
  · have := length_skipStart _hstart
    simp; omega
  · have := length_skipStart _hstart
    simp; omega
  · have := length_skipSpace_le cs
    rw [_hspace, List.length_cons] at this
    simp; omega
  · have := length_skipSpace_le cs
    rw [_hspace] at this
    have := length_skipLabel _hlabel
    simp; omega
  · have := length_skipSpace_le cs
    rw [_hspace, List.length_cons] at this
    simp; omega
  · have := length_skipSpace_le cs
    rw [_hspace, List.length_cons] at this
    have := length_skipLabel _hlabel
    simp; omega

theorem length_skipFrom {phase : Phase} {nests : List Nest} {cs rest : List Char}
    (h : skipFrom phase nests cs = .ok rest) : rest.length ≤ cs.length := by
  fun_induction skipFrom phase nests cs with
  | case1 => cases h
  | case2 cs nests after hstart ih =>
    have := length_skipStart hstart
    have := ih h; omega
  | case3 cs nests nest after hstart ih =>
    have := length_skipStart hstart
    have := ih h; omega
  | case4 => cases h; exact Nat.le_refl _
  | case5 => cases h
  | case6 cs nest nests after hspace ih =>
    have := length_skipSpace_le cs
    rw [hspace, List.length_cons] at this
    have := ih h; omega
  | case7 => cases h
  | case8 cs nest nests c after hspace _ after' hlabel ih =>
    have := length_skipSpace_le cs
    rw [hspace] at this
    have := length_skipLabel hlabel
    have := ih h; omega
  | case9 => cases h; exact Nat.le_refl _
  | case10 => cases h
  | case11 cs nest nests after hspace ih =>
    have := length_skipSpace_le cs
    rw [hspace, List.length_cons] at this
    have := ih h; omega
  | case12 => cases h
  | case13 cs nest nests after after' hlabel hspace _ ih =>
    have := length_skipSpace_le cs
    rw [hspace, List.length_cons] at this
    have := length_skipLabel hlabel
    have := ih h; omega
  | case14 => cases h

/-- Pass over one value. -/
def skipValue (cs : List Char) : Except Fault (List Char) :=
  skipFrom .value [] cs

end Json
end EmojiLint
