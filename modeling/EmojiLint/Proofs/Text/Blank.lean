import EmojiLint.Text.Blank

/-!
# Trimming

A trimmed text neither begins nor ends with a blank, so trimming it again changes nothing.  What
becomes of the other characters does not matter to trimming, as long as blanks stay blanks and no
other character becomes one.

* `trim_trim` — trimming twice is trimming once.
* `trim_map` — trimming and replacing characters, in either order.
* `trim_append` — two trimmed texts make a trimmed text.
-/

set_option autoImplicit false

namespace EmojiLint
namespace Text

variable {c : Char} {cs ds : List Char} {f : Char → Char}

theorem trimRight_cons (c : Char) (cs : List Char) :
    trimRight (c :: cs) =
      if (trimRight cs).isEmpty && isBlank c then [] else c :: trimRight cs :=
  rfl

theorem trimRight_cons_of_not_isBlank (h : isBlank c = false) (cs : List Char) :
    trimRight (c :: cs) = c :: trimRight cs := by
  rw [trimRight_cons, h, Bool.and_false, if_neg Bool.false_ne_true]

theorem length_trimRight_le (cs : List Char) : (trimRight cs).length ≤ cs.length := by
  induction cs with
  | nil => exact Nat.le_refl 0
  | cons c cs ih =>
    rw [trimRight_cons]
    split
    · exact Nat.zero_le _
    · exact Nat.succ_le_succ ih

theorem length_trim_le (cs : List Char) : (trim cs).length ≤ cs.length :=
  Nat.le_trans (length_trimRight_le _) (List.dropWhile_suffix isBlank).length_le

theorem trimRight_trimRight (cs : List Char) : trimRight (trimRight cs) = trimRight cs := by
  induction cs with
  | nil => rfl
  | cons c cs ih =>
    rw [trimRight_cons]
    split
    · rfl
    · next h => rw [trimRight_cons, ih, if_neg h]

theorem trimRight_map (hf : ∀ c, isBlank (f c) = isBlank c) (cs : List Char) :
    trimRight (cs.map f) = (trimRight cs).map f := by
  induction cs with
  | nil => rfl
  | cons c cs ih =>
    rw [List.map_cons, trimRight_cons, trimRight_cons, ih, List.isEmpty_map, hf]
    split <;> rfl

/-- What is left after the blanks at the start begins with no blank. -/
theorem dropWhile_trimRight (cs : List Char) :
    (trimRight (cs.dropWhile isBlank)).dropWhile isBlank = trimRight (cs.dropWhile isBlank) := by
  induction cs with
  | nil => rfl
  | cons c cs ih =>
    cases hc : isBlank c with
    | true => rw [List.dropWhile_cons_of_pos hc, ih]
    | false =>
      have hneg : ¬ isBlank c = true := by rw [hc]; exact Bool.false_ne_true
      rw [List.dropWhile_cons_of_neg hneg, trimRight_cons_of_not_isBlank hc,
        List.dropWhile_cons_of_neg hneg]

/-- **Trimming twice is trimming once.** -/
theorem trim_trim (cs : List Char) : trim (trim cs) = trim cs := by
  rw [trim, trim, dropWhile_trimRight, trimRight_trimRight]

/-- **Trimming leaves alone what becomes of the other characters.** -/
theorem trim_map (hf : ∀ c, isBlank (f c) = isBlank c) (cs : List Char) :
    trim (cs.map f) = (trim cs).map f := by
  have hblank : isBlank ∘ f = isBlank := funext hf
  rw [trim, List.dropWhile_map, hblank, trimRight_map hf, trim]

/-- A text is trimmed at both ends. -/
theorem trim_eq_self_iff : trim cs = cs ↔ cs.dropWhile isBlank = cs ∧ trimRight cs = cs := by
  constructor
  · intro h
    have hstart := dropWhile_trimRight cs
    have hstop := trimRight_trimRight (cs.dropWhile isBlank)
    rw [← trim, h] at hstart hstop
    exact ⟨hstart, hstop⟩
  · rintro ⟨hstart, hstop⟩
    rw [trim, hstart, hstop]

theorem trimRight_append (h : trimRight ds ≠ []) (cs : List Char) :
    trimRight (cs ++ ds) = cs ++ trimRight ds := by
  induction cs with
  | nil => rfl
  | cons c cs ih =>
    have hfull : (cs ++ trimRight ds).isEmpty = false :=
      List.isEmpty_eq_false_iff.2 (List.append_ne_nil_of_right_ne_nil cs h)
    rw [List.cons_append, trimRight_cons, ih, hfull, Bool.false_and, if_neg Bool.false_ne_true,
      List.cons_append]

/-- **Two trimmed texts make a trimmed text.** -/
theorem trim_append (hcs : trim cs = cs) (hds : trim ds = ds) : trim (cs ++ ds) = cs ++ ds := by
  by_cases hnil : ds = []
  · rw [hnil, List.append_nil, hcs]
  obtain ⟨hstart, -⟩ := trim_eq_self_iff.1 hcs
  obtain ⟨hstart', hstop⟩ := trim_eq_self_iff.1 hds
  refine trim_eq_self_iff.2 ⟨?_, by rw [trimRight_append (by rwa [hstop]), hstop]⟩
  cases cs with
  | nil => exact hstart'
  | cons c cs =>
    have hc : ¬ isBlank c = true := fun hc => by
      have hlength := congrArg List.length hstart
      rw [List.dropWhile_cons_of_pos hc] at hlength
      have := (List.dropWhile_suffix isBlank (l := cs)).length_le
      rw [List.length_cons] at hlength
      omega
    exact List.dropWhile_cons_of_neg hc

end Text
end EmojiLint
