import EmojiLint.Uri.Percent

/-!
# What escapes leave behind

A text whose characters were escaped holds none of them any more, and escaping it once more leaves
it as it is.  What makes this so is that no set of characters to escape holds a percent sign or a
hexadecimal digit.

* `Spares` — the condition on the set, which holds of all the sets that are used.
* `eq_false_of_mem_encode` — nothing is left to escape.
* `encode_encode` — escaping twice is escaping once.
-/

set_option autoImplicit false

namespace EmojiLint
namespace Percent

/-- The characters that escapes are written with. -/
def escapeChars : List Char :=
  "%0123456789ABCDEF".toList

/-- A set of characters to escape that leaves the escapes themselves alone. -/
def Spares (escaped : Char → Bool) : Prop :=
  ∀ c ∈ escapeChars, escaped c = false

theorem spares_of_all {escaped : Char → Bool} (h : (escapeChars.all fun c => !escaped c) = true) :
    Spares escaped := fun c hc => by
  simpa using List.all_eq_true.1 h c hc

theorem spares_isControl : Spares isControl :=
  spares_of_all (by decide)

theorem spares_inQuery : Spares inQuery :=
  spares_of_all (by decide)

theorem spares_inSpecialQuery : Spares inSpecialQuery :=
  spares_of_all (by decide)

theorem spares_inFragment : Spares inFragment :=
  spares_of_all (by decide)

theorem spares_inPath : Spares inPath :=
  spares_of_all (by decide)

theorem spares_inUserinfo : Spares inUserinfo :=
  spares_of_all (by decide)

/-! ## One character -/

theorem digit_mem_escapeChars {n : Nat} (h : n < 16) : digit n ∈ escapeChars := by
  have hall : ∀ n < 16, digit n ∈ escapeChars := by decide
  exact hall n h

theorem mem_escape {b : UInt8} {c : Char} (h : c ∈ escape b) : c ∈ escapeChars := by
  have hb : b.toNat < 256 := b.toNat_lt
  simp only [escape, List.mem_cons, List.not_mem_nil, or_false] at h
  rcases h with rfl | rfl | rfl
  · decide
  · exact digit_mem_escapeChars (by omega)
  · exact digit_mem_escapeChars (by omega)

variable {escaped : Char → Bool} {c : Char} {cs ds : List Char}

/-! ## Texts -/

theorem encode_append (escaped : Char → Bool) (cs ds : List Char) :
    encode escaped (cs ++ ds) = encode escaped cs ++ encode escaped ds :=
  List.flatMap_append

theorem encode_cons_of_not (h : escaped c = false) (cs : List Char) :
    encode escaped (c :: cs) = c :: encode escaped cs := by
  rw [encode, List.flatMap_cons, h]
  rfl

/-- A character that is escaped becomes one escape or more. -/
theorem encode_cons_of_escaped (h : escaped c = true) (cs : List Char) :
    encode escaped (c :: cs) =
      (String.utf8EncodeChar c).flatMap escape ++ encode escaped cs := by
  rw [encode, List.flatMap_cons, h]
  rfl

theorem encode_of_forall (h : ∀ c ∈ cs, escaped c = false) : encode escaped cs = cs := by
  induction cs with
  | nil => rfl
  | cons c cs ih =>
    obtain ⟨hc, hcs⟩ := List.forall_mem_cons.1 h
    rw [encode_cons_of_not hc, ih hcs]

/-- What stands in a text after escaping stood there before, or belongs to an escape. -/
theorem mem_encode (h : c ∈ encode escaped cs) :
    (c ∈ cs ∧ escaped c = false) ∨ c ∈ escapeChars := by
  obtain ⟨d, hd, hc⟩ := List.mem_flatMap.1 h
  cases hescaped : escaped d with
  | true =>
    rw [if_pos hescaped] at hc
    obtain ⟨b, -, hb⟩ := List.mem_flatMap.1 hc
    exact Or.inr (mem_escape hb)
  | false =>
    rw [hescaped, if_neg Bool.false_ne_true, List.mem_singleton] at hc
    exact Or.inl ⟨hc ▸ hd, hc ▸ hescaped⟩

theorem notMem_encode (hc : c ∉ cs) (hescape : c ∉ escapeChars) : c ∉ encode escaped cs :=
  fun h => (mem_encode h).elim (fun hmem => hc hmem.1) hescape

/-- **Nothing is left to escape.** -/
theorem eq_false_of_mem_encode (hspares : Spares escaped) (h : c ∈ encode escaped cs) :
    escaped c = false :=
  (mem_encode h).elim And.right (hspares c)

/-- A character that is escaped does not stand in the text afterwards. -/
theorem notMem_encode_of_escaped (hspares : Spares escaped) (hc : escaped c = true) :
    c ∉ encode escaped cs :=
  fun h => absurd (hc.symm.trans (eq_false_of_mem_encode hspares h)) (by decide)

/-- **Escaping twice is escaping once.** -/
theorem encode_encode (hspares : Spares escaped) (cs : List Char) :
    encode escaped (encode escaped cs) = encode escaped cs :=
  encode_of_forall fun _ h => eq_false_of_mem_encode hspares h

/-- The first character of a text stays, or a percent sign takes its place. -/
theorem exists_encode_cons (escaped : Char → Bool) (c : Char) (cs : List Char) :
    ∃ d ds, encode escaped (c :: cs) = d :: ds ∧ (d = c ∨ d = '%') := by
  cases h : escaped c with
  | false => exact ⟨c, _, encode_cons_of_not h cs, Or.inl rfl⟩
  | true =>
    rw [encode_cons_of_escaped h]
    obtain ⟨b, bs, hbytes⟩ :=
      List.exists_cons_of_ne_nil (String.utf8EncodeChar_ne_nil (c := c))
    rw [hbytes, List.flatMap_cons]
    exact ⟨'%', _, rfl, Or.inr rfl⟩

/-- The last character of a text stays, or an escape ends in its place. -/
theorem getLast?_encode {d : Char} (h : (encode escaped cs).getLast? = some d) :
    cs.getLast? = some d ∨ d ∈ escapeChars := by
  rcases List.eq_nil_or_concat cs with rfl | ⟨front, c, rfl⟩
  · cases h
  rw [List.concat_eq_append] at h ⊢
  rw [List.getLast?_concat]
  rw [encode_append, encode, encode, List.flatMap_singleton] at h
  cases hc : escaped c with
  | false =>
    rw [hc, if_neg Bool.false_ne_true, List.getLast?_concat] at h
    exact Or.inl h
  | true =>
    obtain ⟨b, bs, hbytes⟩ :=
      List.exists_cons_of_ne_nil (String.utf8EncodeChar_ne_nil (c := c))
    have hne : (String.utf8EncodeChar c).flatMap escape ≠ [] := by
      rw [hbytes]
      exact List.cons_ne_nil _ _
    rw [hc, if_pos rfl, List.getLast?_append, List.getLast?_eq_some_getLast hne,
      Option.some_or, Option.some_inj] at h
    obtain ⟨b, -, hb⟩ := List.mem_flatMap.1 (h ▸ List.getLast_mem hne)
    exact Or.inr (mem_escape hb)

theorem encode_eq_nil_iff : encode escaped cs = [] ↔ cs = [] := by
  cases cs with
  | nil => exact iff_of_true rfl rfl
  | cons c cs =>
    obtain ⟨d, ds, heq, -⟩ := exists_encode_cons escaped c cs
    rw [heq]
    exact iff_of_false (List.cons_ne_nil d ds) (List.cons_ne_nil c cs)

end Percent
end EmojiLint
