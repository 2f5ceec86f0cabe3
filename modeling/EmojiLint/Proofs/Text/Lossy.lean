import EmojiLint.Proofs.Text.Ascii
import EmojiLint.Text.Lossy

/-!
# Reading bytes that are text

Bytes can be read whatever they are, and where they are no text a replacement character is read.  So
without a replacement character, what was read is what the bytes spell.

* `utf8EncodeChar_ofNat_two`, … — the bytes of one character, by their number.
* `Begun` — the first bytes of a character, and what is known of it.
* `bytes_ofBytes` — what is read without a replacement character has the bytes that were read.
-/

set_option autoImplicit false

namespace EmojiLint
namespace Text

variable {a b c d : UInt8} {read bs : List UInt8} {u : Unfinished}

/-! ## The bytes of one character -/

theorem ofNat_eq_of_eq_toNat {n : Nat} (h : n = b.toNat) : UInt8.ofNat n = b := by
  rw [h, UInt8.ofNat_toNat]

theorem toNat_val_ofNat {n : Nat} (h : n.isValidChar) : (Char.ofNat n).val.toNat = n := by
  rw [Char.ofNat, dif_pos h]
  rfl

/-- A byte after the first one of a character. -/
abbrev IsTail (b : UInt8) : Prop :=
  0x80 ≤ b.toNat ∧ b.toNat ≤ 0xBF

theorem utf8EncodeChar_ofNat_one (ha : a.toNat < 0x80) :
    String.utf8EncodeChar (Char.ofNat a.toNat) = [a] := by
  have hval : (Char.ofNat a.toNat).val.toNat = a.toNat := toNat_val_ofNat (.inl (by omega))
  rw [String.utf8EncodeChar, hval, if_pos (by omega), UInt8.ofNat_toNat]

theorem utf8EncodeChar_ofNat_two (ha : 0xC2 ≤ a.toNat ∧ a.toNat ≤ 0xDF) (hb : IsTail b) :
    String.utf8EncodeChar (Char.ofNat (64 * (a.toNat - 0xC0) + (b.toNat - 0x80))) = [a, b] := by
  have hval := toNat_val_ofNat (n := 64 * (a.toNat - 0xC0) + (b.toNat - 0x80)) (.inl (by omega))
  rw [String.utf8EncodeChar, hval, if_neg (by omega), if_pos (by omega),
    ofNat_eq_of_eq_toNat (b := a) (by omega), ofNat_eq_of_eq_toNat (b := b) (by omega)]

/-- Three bytes spell no character that two would spell, and no half of a surrogate pair. -/
theorem utf8EncodeChar_ofNat_three (ha : 0xE0 ≤ a.toNat ∧ a.toNat ≤ 0xEF) (hb : IsTail b)
    (hleast : a.toNat = 0xE0 → 0xA0 ≤ b.toNat) (hgreatest : a.toNat = 0xED → b.toNat ≤ 0x9F)
    (hc : IsTail c) :
    String.utf8EncodeChar (Char.ofNat
      (64 * (64 * (a.toNat - 0xE0) + (b.toNat - 0x80)) + (c.toNat - 0x80))) = [a, b, c] := by
  have hval := toNat_val_ofNat
    (n := 64 * (64 * (a.toNat - 0xE0) + (b.toNat - 0x80)) + (c.toNat - 0x80))
    (by rw [Nat.isValidChar]; omega)
  rw [String.utf8EncodeChar, hval, if_neg (by omega), if_neg (by omega), if_pos (by omega),
    ofNat_eq_of_eq_toNat (b := a) (by omega), ofNat_eq_of_eq_toNat (b := b) (by omega),
    ofNat_eq_of_eq_toNat (b := c) (by omega)]

/-- Four bytes spell no character that three would spell, and none beyond the last one. -/
theorem utf8EncodeChar_ofNat_four (ha : 0xF0 ≤ a.toNat ∧ a.toNat ≤ 0xF4) (hb : IsTail b)
    (hleast : a.toNat = 0xF0 → 0x90 ≤ b.toNat) (hgreatest : a.toNat = 0xF4 → b.toNat ≤ 0x8F)
    (hc : IsTail c) (hd : IsTail d) :
    String.utf8EncodeChar (Char.ofNat
      (64 * (64 * (64 * (a.toNat - 0xF0) + (b.toNat - 0x80)) + (c.toNat - 0x80)) +
        (d.toNat - 0x80))) = [a, b, c, d] := by
  have hval := toNat_val_ofNat
    (n := 64 * (64 * (64 * (a.toNat - 0xF0) + (b.toNat - 0x80)) + (c.toNat - 0x80)) +
      (d.toNat - 0x80)) (by rw [Nat.isValidChar]; omega)
  rw [String.utf8EncodeChar, hval, if_neg (by omega), if_neg (by omega), if_neg (by omega),
    ofNat_eq_of_eq_toNat (b := a) (by omega), ofNat_eq_of_eq_toNat (b := b) (by omega),
    ofNat_eq_of_eq_toNat (b := c) (by omega), ofNat_eq_of_eq_toNat (b := d) (by omega)]

/-! ## Characters that were begun -/

/-- The first bytes of a character, and what is known of it after them. -/
inductive Begun : List UInt8 → Unfinished → Prop
  | oneOfTwo {a : UInt8} (ha : 0xC2 ≤ a.toNat ∧ a.toNat ≤ 0xDF) :
      Begun [a] ⟨1, a.toNat - 0xC0, 0x80, 0xBF⟩
  | oneOfThree {a : UInt8} (ha : 0xE0 ≤ a.toNat ∧ a.toNat ≤ 0xEF) :
      Begun [a] ⟨2, a.toNat - 0xE0, if a.toNat = 0xE0 then 0xA0 else 0x80,
        if a.toNat = 0xED then 0x9F else 0xBF⟩
  | twoOfThree {a b : UInt8} (ha : 0xE0 ≤ a.toNat ∧ a.toNat ≤ 0xEF) (hb : IsTail b)
      (hleast : a.toNat = 0xE0 → 0xA0 ≤ b.toNat) (hgreatest : a.toNat = 0xED → b.toNat ≤ 0x9F) :
      Begun [a, b] ⟨1, 64 * (a.toNat - 0xE0) + (b.toNat - 0x80), 0x80, 0xBF⟩
  | oneOfFour {a : UInt8} (ha : 0xF0 ≤ a.toNat ∧ a.toNat ≤ 0xF4) :
      Begun [a] ⟨3, a.toNat - 0xF0, if a.toNat = 0xF0 then 0x90 else 0x80,
        if a.toNat = 0xF4 then 0x8F else 0xBF⟩
  | twoOfFour {a b : UInt8} (ha : 0xF0 ≤ a.toNat ∧ a.toNat ≤ 0xF4) (hb : IsTail b)
      (hleast : a.toNat = 0xF0 → 0x90 ≤ b.toNat) (hgreatest : a.toNat = 0xF4 → b.toNat ≤ 0x8F) :
      Begun [a, b] ⟨2, 64 * (a.toNat - 0xF0) + (b.toNat - 0x80), 0x80, 0xBF⟩
  | threeOfFour {a b c : UInt8} (ha : 0xF0 ≤ a.toNat ∧ a.toNat ≤ 0xF4) (hb : IsTail b)
      (hleast : a.toNat = 0xF0 → 0x90 ≤ b.toNat) (hgreatest : a.toNat = 0xF4 → b.toNat ≤ 0x8F)
      (hc : IsTail c) :
      Begun [a, b, c]
        ⟨1, 64 * (64 * (a.toNat - 0xF0) + (b.toNat - 0x80)) + (c.toNat - 0x80), 0x80, 0xBF⟩

/-- What a byte that begins a character tells. -/
theorem begun_of_firstByte (h : firstByte a = some (.inr u)) : Begun [a] u := by
  rw [firstByte] at h
  split at h
  · cases h
  · split at h
    · next ha =>
      rw [Bool.and_eq_true, decide_eq_true_eq, decide_eq_true_eq] at ha
      cases h
      exact .oneOfTwo ha
    · split at h
      · next ha =>
        rw [Bool.and_eq_true, decide_eq_true_eq, decide_eq_true_eq] at ha
        cases h
        exact .oneOfThree ha
      · split at h
        · next ha =>
          rw [Bool.and_eq_true, decide_eq_true_eq, decide_eq_true_eq] at ha
          cases h
          exact .oneOfFour ha
        · cases h

theorem utf8EncodeChar_of_firstByte {ch : Char} (h : firstByte a = some (.inl ch)) :
    String.utf8EncodeChar ch = [a] := by
  rw [firstByte] at h
  split at h
  · next ha =>
    cases h
    exact utf8EncodeChar_ofNat_one ha
  · split at h
    · cases h
    · split at h
      · cases h
      · split at h <;> cases h

/-- The second byte of a character lies in a range that depends on the first one. -/
theorem isTail_of_within {least greatest : Nat} {starts ends : Prop} [Decidable starts]
    [Decidable ends] (hleast : (if starts then least else 0x80) ≤ b.toNat)
    (hgreatest : b.toNat ≤ if ends then greatest else 0xBF) (h : 0x80 ≤ least)
    (h' : greatest ≤ 0xBF) :
    IsTail b ∧ (starts → least ≤ b.toNat) ∧ (ends → b.toNat ≤ greatest) := by
  refine ⟨⟨?_, ?_⟩, fun hstarts => ?_, fun hends => ?_⟩
  · split at hleast
    · exact Nat.le_trans h hleast
    · exact hleast
  · split at hgreatest
    · exact Nat.le_trans hgreatest h'
    · exact hgreatest
  · rwa [if_pos hstarts] at hleast
  · rwa [if_pos hends] at hgreatest

namespace Begun

/-- One more byte, which is not the last one. -/
theorem next (h : Begun read u) (hleast : u.least ≤ b.toNat) (hgreatest : b.toNat ≤ u.greatest)
    (hmissing : ¬ u.missing ≤ 1) :
    Begun (read ++ [b]) ⟨u.missing - 1, 64 * u.bits + (b.toNat - 0x80), 0x80, 0xBF⟩ := by
  cases h with
  | oneOfTwo | twoOfThree | threeOfFour => exact absurd (Nat.le_refl 1) hmissing
  | oneOfThree ha =>
    obtain ⟨hb, hleast, hgreatest⟩ :=
      isTail_of_within hleast hgreatest (by decide) (by decide)
    exact .twoOfThree ha hb hleast hgreatest
  | oneOfFour ha =>
    obtain ⟨hb, hleast, hgreatest⟩ :=
      isTail_of_within hleast hgreatest (by decide) (by decide)
    exact .twoOfFour ha hb hleast hgreatest
  | twoOfFour ha hb hleast' hgreatest' =>
    exact .threeOfFour ha hb hleast' hgreatest' ⟨hleast, hgreatest⟩

/-- The last byte: the character is the one that the bytes spell. -/
theorem utf8EncodeChar_eq (h : Begun read u) (hleast : u.least ≤ b.toNat)
    (hgreatest : b.toNat ≤ u.greatest) (hmissing : u.missing ≤ 1) :
    String.utf8EncodeChar (Char.ofNat (64 * u.bits + (b.toNat - 0x80))) = read ++ [b] := by
  cases h with
  | oneOfTwo ha => exact utf8EncodeChar_ofNat_two ha ⟨hleast, hgreatest⟩
  | twoOfThree ha hb hleast' hgreatest' =>
    exact utf8EncodeChar_ofNat_three ha hb hleast' hgreatest' ⟨hleast, hgreatest⟩
  | threeOfFour ha hb hleast' hgreatest' hc =>
    exact utf8EncodeChar_ofNat_four ha hb hleast' hgreatest' hc ⟨hleast, hgreatest⟩
  | oneOfThree | oneOfFour | twoOfFour => simp at hmissing

end Begun

/-! ## All bytes -/

theorem readBytes_of_char {ch : Char} (h : firstByte a = some (.inl ch)) (bs : List UInt8) :
    readBytes none (a :: bs) = ch :: readBytes none bs := by
  rw [readBytes, h]

theorem readBytes_of_begun (h : firstByte a = some (.inr u)) (bs : List UInt8) :
    readBytes none (a :: bs) = readBytes (some u) bs := by
  rw [readBytes, h]

theorem readBytes_of_none (h : firstByte a = none) (bs : List UInt8) :
    readBytes none (a :: bs) = replacement :: readBytes none bs := by
  rw [readBytes, h]

theorem readBytes_some_cons (u : Unfinished) (b : UInt8) (bs : List UInt8) :
    readBytes (some u) (b :: bs) =
      if u.least ≤ b.toNat && b.toNat ≤ u.greatest then
        if u.missing ≤ 1 then
          Char.ofNat (64 * u.bits + (b.toNat - 0x80)) :: readBytes none bs
        else
          readBytes (some ⟨u.missing - 1, 64 * u.bits + (b.toNat - 0x80), 0x80, 0xBF⟩) bs
      else replacement :: readBytes none (b :: bs) := by
  rw [readBytes, readBytes]

/-- What is read without a replacement character has the bytes that were read, with those of the
character that was begun before. -/
theorem bytes_readBytes (bs : List UInt8) :
    (replacement ∉ readBytes none bs → bytes (readBytes none bs) = bs) ∧
      ∀ read u, Begun read u → replacement ∉ readBytes (some u) bs →
        bytes (readBytes (some u) bs) = read ++ bs := by
  induction bs with
  | nil => exact ⟨fun _ => rfl, fun _ _ _ h => absurd List.mem_cons_self h⟩
  | cons b bs ih =>
    obtain ⟨hfresh, hbegun⟩ := ih
    refine ⟨fun h => ?_, fun read u hread h => ?_⟩
    · cases hfirst : firstByte b with
      | none =>
        rw [readBytes_of_none hfirst] at h
        exact absurd List.mem_cons_self h
      | some first =>
        cases first with
        | inl ch =>
          rw [readBytes_of_char hfirst] at h ⊢
          rw [bytes_cons, utf8EncodeChar_of_firstByte hfirst,
            hfresh (List.not_mem_of_not_mem_cons h)]
          rfl
        | inr u =>
          rw [readBytes_of_begun hfirst] at h ⊢
          exact hbegun _ u (begun_of_firstByte hfirst) h
    · rw [readBytes_some_cons] at h ⊢
      split
      · next hwithin =>
        rw [if_pos hwithin] at h
        rw [Bool.and_eq_true, decide_eq_true_eq, decide_eq_true_eq] at hwithin
        obtain ⟨hleast, hgreatest⟩ := hwithin
        split
        · next hmissing =>
          rw [if_pos hmissing] at h
          rw [bytes_cons, hread.utf8EncodeChar_eq hleast hgreatest hmissing,
            hfresh (List.not_mem_of_not_mem_cons h), List.append_assoc]
          rfl
        · next hmissing =>
          rw [if_neg hmissing] at h
          rw [hbegun _ _ (hread.next hleast hgreatest hmissing) h, List.append_assoc]
          rfl
      · next hwithin =>
        rw [if_neg hwithin] at h
        exact absurd List.mem_cons_self h

/-- **What is read without a replacement character has the bytes that were read.** -/
theorem bytes_ofBytes (h : replacement ∉ ofBytes bs) : bytes (ofBytes bs) = bs :=
  (bytes_readBytes bs).1 h

end Text
end EmojiLint
