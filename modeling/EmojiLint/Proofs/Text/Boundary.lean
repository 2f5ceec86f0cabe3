import EmojiLint.Proofs.Text.Ascii
import Mathlib.Data.List.Infix

/-!
# Offsets between characters

A beginning of a text is known by its number of bytes: of two beginnings the one with fewer bytes
is a beginning of the other.

* `byteLength_pos` — every character takes a byte.
* `takeBytes_append`, `dropBytes_append`, `splitAtByte?_append` — a text cut at such an offset.
* `isBoundary_of_getElem?` — before and behind a byte below `0x80` there is one.
* `isPrefix_of_byteLength_le` — beginnings are ordered by their bytes.
* `isPrefix_append_cons_iff` — a word does not reach across an element that it does not hold.
-/

set_option autoImplicit false

namespace EmojiLint
namespace Text

variable {a b cs : List Char}

theorem byteLength_pos (h : cs ≠ []) : 0 < byteLength cs := by
  obtain ⟨c, ds, rfl⟩ := List.exists_cons_of_ne_nil h
  exact Nat.add_pos_left (Char.utf8Size_pos c) _

/-- Every character that is left out takes a byte. -/
theorem byteLength_add_length_le (h : a.Sublist b) :
    byteLength a + b.length ≤ byteLength b + a.length := by
  induction h with
  | slnil => exact Nat.le_refl _
  | cons c _ ih =>
    have hpos := Char.utf8Size_pos c
    simp only [byteLength, List.length_cons]
    omega
  | cons_cons c _ ih =>
    simp only [byteLength, List.length_cons]
    omega

/-- **A text cut behind a beginning of it, or inside the next character**, falls into the beginning
and the rest. -/
theorem takeBytes_append_of_lt {n : Nat} (hle : byteLength a ≤ n)
    (hlt : ∀ c ∈ b.head?, n < byteLength a + c.utf8Size) : takeBytes (a ++ b) n = a := by
  induction a generalizing n with
  | nil =>
    cases b with
    | nil => rfl
    | cons c cs =>
      have hc := hlt c rfl
      rw [byteLength, Nat.zero_add] at hc
      exact if_neg (Nat.not_le_of_lt hc)
  | cons c a ih =>
    rw [byteLength] at hle hlt
    rw [List.cons_append, takeBytes, if_pos (Nat.le_of_add_right_le hle),
      ih (by omega) fun d hd => by have := hlt d hd; omega]

theorem takeBytes_append (a b : List Char) : takeBytes (a ++ b) (byteLength a) = a :=
  takeBytes_append_of_lt (Nat.le_refl _) fun c _ => Nat.lt_add_of_pos_right (Char.utf8Size_pos c)

theorem dropBytes_append (a b : List Char) : dropBytes (a ++ b) (byteLength a) = b := by
  have hcut := takeBytes_append_dropBytes (a ++ b) (byteLength a)
  rw [takeBytes_append, List.append_cancel_left_eq] at hcut
  exact hcut

/-- A text cut behind a beginning of it is cut between two characters. -/
theorem splitAtByte?_append (a b : List Char) :
    splitAtByte? (a ++ b) (byteLength a) = some (a, b) := by
  induction a with
  | nil => cases b <;> rfl
  | cons c a ih =>
    obtain ⟨n, hn⟩ : ∃ n, c.utf8Size + byteLength a = n + 1 :=
      Nat.exists_eq_succ_of_ne_zero (Nat.ne_of_gt (Nat.add_pos_left (Char.utf8Size_pos c) _))
    rw [List.cons_append, byteLength, hn, splitAtByte?, if_pos (by omega), ← hn,
      Nat.add_sub_cancel_left, ih]
    rfl

theorem byteLength_le_of_isPrefix (h : a <+: b) : byteLength a ≤ byteLength b := by
  obtain ⟨ds, rfl⟩ := h
  rw [byteLength_append]
  exact Nat.le_add_right _ _

/-- **Of two beginnings of a text, the one with fewer bytes begins the other.** -/
theorem isPrefix_of_byteLength_le (ha : a <+: cs) (hb : b <+: cs)
    (h : byteLength a ≤ byteLength b) : a <+: b := by
  rcases List.prefix_or_prefix_of_prefix ha hb with hab | hba
  · exact hab
  · obtain ⟨ds, rfl⟩ := hba
    have hds : ds = [] := by
      by_contra hne
      have hpos := byteLength_pos hne
      rw [byteLength_append] at h
      omega
    rw [hds, List.append_nil]

/-- Two beginnings of a text that take as many bytes are the same. -/
theorem eq_of_byteLength_eq (ha : a <+: cs) (hb : b <+: cs) (h : byteLength a = byteLength b) :
    a = b :=
  (isPrefix_of_byteLength_le ha hb h.le).eq_of_length_le
    (isPrefix_of_byteLength_le hb ha h.ge).length_le

/-- A character that begins inside a beginning of a text lies in it as a whole. -/
theorem isPrefix_of_byteLength_lt {c : Char} (ha : a ++ [c] <+: cs) (hb : b <+: cs)
    (h : byteLength a < byteLength b) : a ++ [c] <+: b := by
  obtain ⟨ds, rfl⟩ := isPrefix_of_byteLength_le ((List.prefix_append a [c]).trans ha) hb
    (Nat.le_of_lt h)
  cases ds with
  | nil =>
    rw [List.append_nil] at h
    exact absurd h (Nat.lt_irrefl _)
  | cons d ds =>
    obtain ⟨rest, rfl⟩ := ha
    rw [List.append_assoc] at hb
    have hd : d = c := (List.cons_prefix_cons.1 ((List.prefix_append_right_inj a).1 hb)).1
    rw [hd, List.prefix_append_right_inj]
    exact ⟨ds, rfl⟩

/-- **A word does not reach across an element that it does not hold.** -/
theorem isPrefix_append_cons_iff {α : Type} {xs w : List α} {y : α} (hw : y ∉ w) (ys : List α) :
    w <+: xs ++ y :: ys ↔ w <+: xs := by
  refine ⟨fun h => ?_, fun h => h.trans (List.prefix_append xs (y :: ys))⟩
  rw [List.append_cons] at h
  rcases List.prefix_or_prefix_of_prefix h (List.prefix_append (xs ++ [y]) ys) with hpre | hpre
  · rcases List.prefix_concat_iff.1 hpre with rfl | hpre
    · exact absurd List.mem_concat_self hw
    · exact hpre
  · exact absurd (hpre.subset List.mem_concat_self) hw

/-- What follows an element that a word does not hold cannot make the word begin before it. -/
theorem isPrefix_append_iff {α : Type} {xs w : List α} {x : α} (hx : xs.getLast? = some x)
    (hw : x ∉ w) (ys : List α) : w <+: xs ++ ys ↔ w <+: xs := by
  obtain ⟨front, rfl⟩ := List.getLast?_eq_some_iff.1 hx
  rw [List.append_assoc, List.singleton_append, isPrefix_append_cons_iff hw,
    isPrefix_append_cons_iff hw]

theorem mem_getLast?_of_isSuffix {α : Type} {xs ys : List α} {x : α} (h : ys <:+ xs)
    (hx : x ∈ ys.getLast?) : x ∈ xs.getLast? := by
  obtain ⟨zs, rfl⟩ := h
  exact List.mem_getLast?_append_of_mem_getLast? hx

/-! ## Boundaries -/

/-- An offset between two characters of a text, or at one of its ends. -/
def IsBoundary (cs : List Char) (n : Nat) : Prop :=
  ∃ before, before <+: cs ∧ byteLength before = n

theorem isBoundary_zero (cs : List Char) : IsBoundary cs 0 :=
  ⟨[], List.nil_prefix, rfl⟩

theorem isBoundary_byteLength (cs : List Char) : IsBoundary cs (byteLength cs) :=
  ⟨cs, List.prefix_rfl, rfl⟩

theorem IsBoundary.cons {n : Nat} (h : IsBoundary cs n) (c : Char) :
    IsBoundary (c :: cs) (c.utf8Size + n) := by
  obtain ⟨before, hpre, rfl⟩ := h
  exact ⟨c :: before, (List.cons_prefix_cons).2 ⟨rfl, hpre⟩, rfl⟩

/-- **Before and behind a byte below `0x80`** no character is cut. -/
theorem isBoundary_of_getElem? {k : Nat} {b : UInt8} (h : (bytes cs)[k]? = some b)
    (hb : isWide b = false) : IsBoundary cs k ∧ IsBoundary cs (k + 1) := by
  induction cs generalizing k with
  | nil => cases h
  | cons c cs ih =>
    rw [bytes_cons] at h
    rcases Nat.lt_or_ge k (String.utf8EncodeChar c).length with hk | hk
    · rw [List.getElem?_append_left hk] at h
      have hascii : isAscii c = true := by
        by_contra hwide
        rw [isWide_of_mem_utf8EncodeChar (Bool.not_eq_true _ ▸ hwide)
          (List.mem_of_getElem? h)] at hb
        cases hb
      have hsize := utf8Size_of_isAscii hascii
      rw [String.length_utf8EncodeChar, hsize] at hk
      obtain rfl : k = 0 := Nat.lt_one_iff.1 hk
      refine ⟨isBoundary_zero _, ?_⟩
      rw [← hsize, ← Nat.add_zero c.utf8Size, Nat.zero_add]
      exact (isBoundary_zero cs).cons c
    · rw [List.getElem?_append_right hk] at h
      rw [String.length_utf8EncodeChar] at h hk
      obtain ⟨hbefore, hbehind⟩ := ih h
      obtain ⟨n, rfl⟩ := Nat.exists_eq_add_of_le hk
      rw [Nat.add_sub_cancel_left] at hbefore hbehind
      exact ⟨hbefore.cons c, hbehind.cons c⟩

theorem IsBoundary.le_byteLength {n : Nat} (h : IsBoundary cs n) : n ≤ byteLength cs := by
  obtain ⟨before, hpre, rfl⟩ := h
  exact byteLength_le_of_isPrefix hpre

theorem isBoundary_of_splitAtByte?_eq_some {n : Nat} {parts : List Char × List Char}
    (h : splitAtByte? cs n = some parts) : IsBoundary cs n := by
  induction cs generalizing n parts with
  | nil =>
    cases n with
    | zero => exact isBoundary_zero []
    | succ n => cases h
  | cons c cs ih =>
    cases n with
    | zero => exact isBoundary_zero (c :: cs)
    | succ n =>
      rw [splitAtByte?] at h
      split at h
      next hle =>
        obtain ⟨rest, hrest, -⟩ := Option.map_eq_some_iff.1 h
        rw [← Nat.add_sub_cancel' hle]
        exact (ih hrest).cons c
      next => cases h

/-- **A text is cut at its boundaries only.** -/
theorem isSome_splitAtByte?_iff {n : Nat} :
    (splitAtByte? cs n).isSome = true ↔ IsBoundary cs n := by
  refine ⟨fun h => ?_, ?_⟩
  · obtain ⟨parts, hparts⟩ := Option.isSome_iff_exists.1 h
    exact isBoundary_of_splitAtByte?_eq_some hparts
  · rintro ⟨before, ⟨after, rfl⟩, rfl⟩
    rw [splitAtByte?_append]
    rfl

/-- Between two boundaries there is a word of the text. -/
theorem IsBoundary.exists_splitAtByte? {m n : Nat} (hm : IsBoundary cs m) (hn : IsBoundary cs n)
    (h : m ≤ n) : ∃ before word after, splitAtByte? cs n = some (before ++ word, after) ∧
      splitAtByte? (before ++ word) m = some (before, word) := by
  obtain ⟨a, ha, rfl⟩ := hm
  obtain ⟨b, hb, rfl⟩ := hn
  obtain ⟨word, rfl⟩ := isPrefix_of_byteLength_le ha hb h
  obtain ⟨after, rfl⟩ := hb
  exact ⟨a, word, after, splitAtByte?_append _ _, splitAtByte?_append _ _⟩

end Text
end EmojiLint
