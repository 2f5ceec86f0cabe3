import EmojiLint.Emoji.Sequence
import EmojiLint.Proofs.Text.Ascii

/-!
# What the kinds of characters have in common

The tables overlap: a regional indicator and a skin tone are emoji by themselves.  What cutting a
text into emoji rests on is which kinds are disjoint.

* `isAscii_eq_false_of_isBase` — no emoji by itself is ASCII, and so on for the other tables.
* `isBase_of_isRegionalIndicator` — a regional indicator is an emoji by itself.
* `not_…` — no character can be read in two ways where one of two parts of a sequence may follow.
-/

set_option autoImplicit false

namespace EmojiLint
namespace Emoji

variable {c : Char}

/-! ## Tables -/

theorem isIn_singleton {first last : Nat} :
    isIn [(first, last)] c = true ↔ first ≤ c.toNat ∧ c.toNat ≤ last := by
  simp only [isIn, List.any_cons, List.any_nil, Bool.or_false, Bool.and_eq_true, decide_eq_true_eq]

theorem le_of_isIn {table : List CodeRange} {first : Nat} (h : ∀ range ∈ table, first ≤ range.1)
    (hc : isIn table c = true) : first ≤ c.toNat := by
  rw [isIn, List.any_eq_true] at hc
  obtain ⟨range, hrange, hc⟩ := hc
  rw [Bool.and_eq_true, decide_eq_true_eq] at hc
  exact Nat.le_trans (h range hrange) hc.1

/-- No character of a table is ASCII if the table begins behind ASCII. -/
theorem isAscii_eq_false_of_isIn {table : List CodeRange} (h : ∀ range ∈ table, 0x80 ≤ range.1)
    (hc : isIn table c = true) : Text.isAscii c = false := by
  have hle := le_of_isIn h hc
  rw [Text.isAscii, decide_eq_false_iff_not]
  omega

theorem isAscii_eq_false_of_isPictograph (h : isPictograph c = true) : Text.isAscii c = false :=
  isAscii_eq_false_of_isIn (by decide) h

theorem isAscii_eq_false_of_isModifier (h : isModifier c = true) : Text.isAscii c = false :=
  isAscii_eq_false_of_isIn (by decide) h

theorem isAscii_eq_false_of_isRegionalIndicator (h : isRegionalIndicator c = true) :
    Text.isAscii c = false :=
  isAscii_eq_false_of_isIn (by decide) h

/-- **No emoji by itself is ASCII.** -/
theorem isAscii_eq_false_of_isBase (h : isBase c = true) : Text.isAscii c = false := by
  rw [isBase, Bool.or_eq_true] at h
  rcases h with h | h
  · exact isAscii_eq_false_of_isIn (by decide) h
  · exact isAscii_eq_false_of_isPictograph h

theorem isAscii_eq_false_of_isTag (h : isTag c = true) : Text.isAscii c = false := by
  rw [isTag, Bool.and_eq_true, decide_eq_true_eq] at h
  rw [Text.isAscii, decide_eq_false_iff_not]
  omega

theorem isAscii_of_isKeycapBase (h : isKeycapBase c = true) : Text.isAscii c = true := by
  rw [isKeycapBase, Bool.or_eq_true, Bool.or_eq_true, beq_iff_eq, beq_iff_eq, Char.isDigit,
    Bool.and_eq_true, decide_eq_true_eq, decide_eq_true_eq] at h
  rcases h with (rfl | rfl) | ⟨_, h⟩
  · rfl
  · rfl
  · have hle : c.toNat ≤ 57 := h
    rw [Text.isAscii, decide_eq_true_eq]
    omega

theorem isBase_of_isRegionalIndicator (h : isRegionalIndicator c = true) : isBase c = true := by
  have hrange : (0x1F1E6, 0x1F1FF) ∈ presentationTable := by decide
  rw [isRegionalIndicator, regionalIndicatorTable, isIn_singleton] at h
  rw [isBase, Bool.or_eq_true, isPresentation, isIn, List.any_eq_true]
  refine Or.inl ⟨_, hrange, ?_⟩
  rw [Bool.and_eq_true, decide_eq_true_eq, decide_eq_true_eq]
  exact h

/-! ## Counting the first character -/

theorem countFirst_eq_one {kind : Char → Bool} {cs : List Char} :
    countFirst kind cs = 1 ↔ ∃ d ds, kind d = true ∧ cs = d :: ds := by
  refine ⟨fun h => ?_, ?_⟩
  · cases cs with
    | nil => cases h
    | cons d ds =>
      by_cases hd : kind d = true
      · exact ⟨d, ds, hd, rfl⟩
      · rw [countFirst, if_neg hd] at h
        cases h
  · rintro ⟨d, ds, hd, rfl⟩
    exact if_pos hd

theorem countFirst_le_one (kind : Char → Bool) (cs : List Char) : countFirst kind cs ≤ 1 := by
  cases cs with
  | nil => exact Nat.zero_le 1
  | cons d ds =>
    rw [countFirst]
    split
    · exact Nat.le_refl 1
    · exact Nat.zero_le 1

/-! ## Kinds that are disjoint -/

theorem toNat_of_beq {d : Char} (h : (c == d) = true) : c.toNat = d.toNat := by
  rw [beq_iff_eq.1 h]

/-- What a keycap frames is neither a regional indicator nor an emoji by itself. -/
theorem not_isBase_of_isKeycapBase (h : isKeycapBase c = true) : isBase c = false := by
  rw [Bool.eq_false_iff]
  intro hbase
  have hascii := isAscii_eq_false_of_isBase hbase
  rw [isAscii_of_isKeycapBase h] at hascii
  cases hascii

theorem not_isRegionalIndicator_of_isKeycapBase (h : isKeycapBase c = true) :
    isRegionalIndicator c = false := by
  rw [Bool.eq_false_iff]
  intro hindicator
  have hbase := isBase_of_isRegionalIndicator hindicator
  rw [not_isBase_of_isKeycapBase h] at hbase
  cases hbase

theorem not_isTag_of_isModifier (h : isModifier c = true) : isTag c = false := by
  rw [isModifier, modifierTable, isIn_singleton] at h
  rw [isTag, Bool.and_eq_false_iff, decide_eq_false_iff_not]
  omega

theorem not_isTag_cancelTag : isTag cancelTag = false := by
  decide

/-- What may decorate an emoji. -/
def isDecoration (c : Char) : Bool :=
  isModifier c || isTag c

theorem not_joiner_of_isDecoration (h : isDecoration c = true) : (c == joiner) = false := by
  rw [Bool.eq_false_iff]
  intro hjoiner
  rw [beq_iff_eq.1 hjoiner] at h
  exact absurd h (by decide)

/-- What may follow an emoji and its variation selector. -/
def isAddition (c : Char) : Bool :=
  isDecoration c || c == joiner

theorem not_isAddition_of_variationSelector (h : (c == variationSelector) = true) :
    isAddition c = false := by
  rw [beq_iff_eq.1 h]
  decide

/-- A regional indicator belongs to nothing that begins before it but a flag. -/
theorem not_isAddition_of_isRegionalIndicator (h : isRegionalIndicator c = true) :
    (c == variationSelector) = false ∧ isAddition c = false := by
  rw [isRegionalIndicator, regionalIndicatorTable, isIn_singleton] at h
  have hselector : variationSelector.toNat = 0xFE0F := by decide
  have hjoiner : joiner.toNat = 0x200D := by decide
  refine ⟨?_, ?_⟩
  · rw [Bool.eq_false_iff]
    intro heq
    have := toNat_of_beq heq
    omega
  · rw [Bool.eq_false_iff, Ne, isAddition, isDecoration, Bool.or_eq_true, Bool.or_eq_true,
      isModifier, modifierTable, isIn_singleton, isTag, Bool.and_eq_true, decide_eq_true_eq,
      decide_eq_true_eq]
    rintro ((hmodifier | htag) | heq)
    · omega
    · omega
    · have := toNat_of_beq heq
      omega

end Emoji
end EmojiLint
