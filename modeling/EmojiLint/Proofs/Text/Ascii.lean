import EmojiLint.Text.Utf8

/-!
# ASCII characters among the bytes of a text

Every marker of a comment or a string is ASCII, and the scanner looks for markers among bytes.  What
makes this sound is the shape of UTF-8: an ASCII character is one byte below `0x80`, and every byte
of another character is `0x80` or more.

## What is here

* `utf8EncodeChar_of_isAscii`, `isWide_of_mem_utf8EncodeChar` — the two kinds of characters.
* `isPrefixOf_bytes` — an ASCII marker stands at the start of a text exactly when its bytes stand at
  the start of the bytes.
* `forall_isAscii` — what can be checked of every ASCII character.
* `drop_bytes`, `byteLength_take_of_isAscii` — cutting off ASCII characters is cutting off as many
  bytes.
-/

set_option autoImplicit false

namespace EmojiLint
namespace Text

/-- A character that is one byte. -/
def isAscii (c : Char) : Bool :=
  c.toNat < 0x80

/-- A byte that belongs to a longer character. -/
def isWide (b : UInt8) : Bool :=
  0x80 ≤ b.toNat

theorem bytes_cons (c : Char) (cs : List Char) :
    bytes (c :: cs) = String.utf8EncodeChar c ++ bytes cs := by
  rw [bytes, List.flatMap_cons, bytes]

theorem bytes_append (a b : List Char) : bytes (a ++ b) = bytes a ++ bytes b := by
  rw [bytes, List.flatMap_append, bytes, bytes]

/-! ## One character -/

theorem utf8EncodeChar_of_isAscii {c : Char} (h : isAscii c = true) :
    String.utf8EncodeChar c = [UInt8.ofNat c.toNat] := by
  have h' : c.val.toNat ≤ 0x7f := Nat.le_of_lt_succ (of_decide_eq_true h)
  simp only [String.utf8EncodeChar, h', if_true]
  rfl

theorem utf8Size_of_isAscii {c : Char} (h : isAscii c = true) : c.utf8Size = 1 := by
  rw [← String.length_utf8EncodeChar, utf8EncodeChar_of_isAscii h, List.length_singleton]

/-- The bytes of a character beyond ASCII are all wide, the first one as well. -/
theorem isWide_of_mem_utf8EncodeChar {c : Char} (h : isAscii c = false) {b : UInt8}
    (hb : b ∈ String.utf8EncodeChar c) : isWide b = true := by
  have h' : ¬ c.val.toNat ≤ 0x7f :=
    Nat.not_le_of_lt (Nat.le_of_not_lt (of_decide_eq_false h))
  rw [isWide, decide_eq_true_eq]
  simp only [String.utf8EncodeChar, h', if_false] at hb
  split at hb
  · simp only [List.mem_cons, List.not_mem_nil, or_false] at hb
    rcases hb with rfl | rfl <;> simp <;> omega
  · split at hb
    · simp only [List.mem_cons, List.not_mem_nil, or_false] at hb
      rcases hb with rfl | rfl | rfl <;> simp <;> omega
    · simp only [List.mem_cons, List.not_mem_nil, or_false] at hb
      rcases hb with rfl | rfl | rfl | rfl <;> simp <;> omega

/-- A text that ends with an ASCII character ends with its byte. -/
theorem getLast?_bytes_of_isAscii {cs : List Char} {c : Char} (hc : isAscii c = true)
    (h : cs.getLast? = some c) : (bytes cs).getLast? = some (UInt8.ofNat c.toNat) := by
  obtain ⟨front, rfl⟩ := List.getLast?_eq_some_iff.1 h
  rw [bytes_append, bytes_cons, utf8EncodeChar_of_isAscii hc]
  exact List.getLast?_concat

/-- The byte of an ASCII character is not wide. -/
theorem isWide_ofNat_toNat {c : Char} (h : isAscii c = true) :
    isWide (UInt8.ofNat c.toNat) = false := by
  rw [isAscii, decide_eq_true_eq] at h
  rw [isWide, decide_eq_false_iff_not, UInt8.toNat_ofNat']
  omega

/-- Different ASCII characters are different bytes. -/
theorem ofNat_toNat_inj {c d : Char} (hc : isAscii c = true) (hd : isAscii d = true) :
    UInt8.ofNat c.toNat = UInt8.ofNat d.toNat ↔ c = d := by
  rw [isAscii, decide_eq_true_eq] at hc hd
  refine ⟨fun h => ?_, fun h => by rw [h]⟩
  have hnat : (UInt8.ofNat c.toNat).toNat = (UInt8.ofNat d.toNat).toNat := by rw [h]
  rw [UInt8.toNat_ofNat', UInt8.toNat_ofNat', Nat.mod_eq_of_lt (by omega),
    Nat.mod_eq_of_lt (by omega)] at hnat
  exact Char.toNat_inj.1 hnat

/-- The first byte of a text tells whether its first character is a given ASCII character. -/
theorem head?_bytes_cons {c d : Char} (hd : isAscii d = true) (cs : List Char) :
    (bytes (c :: cs)).head? = some (UInt8.ofNat d.toNat) ↔ c = d := by
  rw [bytes_cons]
  cases hc : isAscii c with
  | true =>
    rw [utf8EncodeChar_of_isAscii hc, List.singleton_append, List.head?_cons, Option.some_inj]
    exact ofNat_toNat_inj hc hd
  | false =>
    cases hbytes : String.utf8EncodeChar c with
    | nil => exact absurd hbytes String.utf8EncodeChar_ne_nil
    | cons b bs =>
      have hb : isWide b = true := isWide_of_mem_utf8EncodeChar hc (by rw [hbytes]; simp)
      rw [List.cons_append, List.head?_cons, Option.some_inj]
      refine ⟨fun h => ?_, fun h => ?_⟩
      · rw [h, isWide_ofNat_toNat hd] at hb
        exact absurd hb (by simp)
      · rw [h, hd] at hc
        exact absurd hc (by simp)

/-- What holds of every ASCII character can be checked one by one. -/
theorem forall_isAscii {P : Char → Prop} (h : ∀ n < 0x80, P (Char.ofNat n)) {c : Char}
    (hc : isAscii c = true) : P c := by
  have := h c.toNat (of_decide_eq_true hc)
  rwa [Char.ofNat_toNat] at this

theorem isAscii_of_isAlphanum {c : Char} (h : c.isAlphanum = true) : isAscii c = true := by
  rw [isAscii, decide_eq_true_eq]
  delta Char.isAlphanum Char.isAlpha Char.isUpper Char.isLower Char.isDigit at h
  simp only [UInt32.le_iff_toNat_le, Bool.or_eq_true, Bool.and_eq_true, decide_eq_true_eq] at h
  have hnat : c.toNat = c.val.toNat := rfl
  simp at h
  omega

theorem toLower_of_isUpper_eq_false {c : Char} (h : c.isUpper = false) : c.toLower = c :=
  dif_neg fun hupper => of_decide_eq_false h hupper

theorem isAscii_toLower {c : Char} (h : isAscii c = true) : isAscii c.toLower = true := by
  have hall : ∀ n < 0x80, isAscii (Char.ofNat n).toLower = true := by decide +kernel
  exact forall_isAscii (P := fun c => isAscii c.toLower = true) hall h

theorem isUpper_toLower {c : Char} (h : isAscii c = true) : c.toLower.isUpper = false := by
  have hall : ∀ n < 0x80, (Char.ofNat n).toLower.isUpper = false := by decide +kernel
  exact forall_isAscii (P := fun c => c.toLower.isUpper = false) hall h

/-! ## Markers -/

/-- **ASCII markers can be compared byte by byte.** -/
theorem isPrefixOf_bytes {marker : List Char} (h : ∀ c ∈ marker, isAscii c = true)
    (cs : List Char) : (bytes marker).isPrefixOf (bytes cs) = marker.isPrefixOf cs := by
  induction marker generalizing cs with
  | nil => simp [bytes]
  | cons m ms ih =>
    have hm : isAscii m = true := h m List.mem_cons_self
    have hms : ∀ c ∈ ms, isAscii c = true := fun c hc => h c (List.mem_cons_of_mem m hc)
    rw [bytes_cons, utf8EncodeChar_of_isAscii hm, List.singleton_append]
    cases cs with
    | nil => simp [bytes]
    | cons c cs =>
      have hhead := head?_bytes_cons (c := c) hm cs
      by_cases hcm : c = m
      · subst hcm
        rw [bytes_cons, utf8EncodeChar_of_isAscii hm, List.singleton_append]
        simp [List.isPrefixOf, ih hms]
      · have hne : (m == c) = false := beq_eq_false_iff_ne.2 fun h => hcm h.symm
        rw [List.isPrefixOf, hne, Bool.false_and]
        cases hbytes : bytes (c :: cs) with
        | nil => rfl
        | cons b bs =>
          rw [hbytes, List.head?_cons, Option.some_inj] at hhead
          have hb : (UInt8.ofNat m.toNat == b) = false :=
            beq_eq_false_iff_ne.2 fun h => hcm (hhead.1 h.symm)
          rw [List.isPrefixOf, hb, Bool.false_and]

theorem length_bytes_of_isAscii {cs : List Char} (h : ∀ c ∈ cs, isAscii c = true) :
    (bytes cs).length = cs.length := by
  induction cs with
  | nil => rfl
  | cons c cs ih =>
    rw [bytes_cons, List.length_append, String.length_utf8EncodeChar,
      utf8Size_of_isAscii (h c List.mem_cons_self),
      ih fun d hd => h d (List.mem_cons_of_mem c hd), List.length_cons, Nat.add_comm]

theorem byteLength_take_add_drop (cs : List Char) (n : Nat) :
    byteLength (cs.take n) + byteLength (cs.drop n) = byteLength cs := by
  rw [← byteLength_append, List.take_append_drop]

/-- Cutting off characters is cutting off the bytes that they take. -/
theorem drop_bytes (cs : List Char) (n : Nat) :
    (bytes cs).drop (byteLength (cs.take n)) = bytes (cs.drop n) := by
  calc (bytes cs).drop (byteLength (cs.take n))
      = (bytes (cs.take n) ++ bytes (cs.drop n)).drop (byteLength (cs.take n)) := by
        rw [← bytes_append, List.take_append_drop]
    _ = bytes (cs.drop n) := List.drop_left' (length_bytes _)

/-- ASCII characters take one byte each. -/
theorem byteLength_take_of_isAscii {cs : List Char} {n : Nat} (hn : n ≤ cs.length)
    (h : ∀ c ∈ cs.take n, isAscii c = true) : byteLength (cs.take n) = n := by
  rw [← length_bytes, length_bytes_of_isAscii h, List.length_take, Nat.min_eq_left hn]

end Text
end EmojiLint
