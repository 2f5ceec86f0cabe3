import Mathlib.Computability.Language

/-!
# Longest prefixes

A set of words has a longest word among the prefixes of a text, or none.  Where one set of words
follows another, the longest prefix is not always made of a longest part and another one: a part
that takes too much may leave nothing to the next.  It is when the two are `Apart`: no word of the
second begins with a character by which a word of the first goes on.

* `IsLongest` — the first `n` characters are the longest prefix in a language.
* `IsLongest.mul` — longest parts make a longest whole, where the parts are `Apart`.
* `StartsIn`, `PrefixFree` — what languages begin with, and which of them never go on; from these
  the condition of `IsLongest.mul` is read off.
* `MadeOf` — which characters occur in the words of a language.
* `mem_mul_of_append_cons`, `mem_kstar_of_append_cons` — in which part of a word a character stands.
* `isLongest_append_cons_iff` — a word is the longest one where none goes on.
-/

set_option autoImplicit false

open Computability

namespace EmojiLint
namespace Emoji

/-- The words of one character of a kind. -/
def one (kind : Char → Bool) : Language Char :=
  {w | ∃ c, kind c = true ∧ w = [c]}

/-- The words of a language, and the empty word. -/
def opt (l : Language Char) : Language Char :=
  1 + l

/-- The first `n` characters of a text are its longest prefix in a language. -/
structure IsLongest (l : Language Char) (cs : List Char) (n : Nat) : Prop where
  le_length : n ≤ cs.length
  take_mem : cs.take n ∈ l
  length_le : ∀ {w : List Char}, w <+: cs → w ∈ l → w.length ≤ n

/-- Every word begins with a character of a kind, unless it is empty. -/
def StartsIn (l : Language Char) (kind : Char → Bool) : Prop :=
  ∀ ⦃c : Char⦄ ⦃w : List Char⦄, c :: w ∈ l → kind c = true

/-- Every character of every word is of a kind. -/
def MadeOf (l : Language Char) (kind : Char → Bool) : Prop :=
  ∀ ⦃w : List Char⦄, w ∈ l → ∀ c ∈ w, kind c = true

/-- No word is the beginning of another one. -/
def PrefixFree (l : Language Char) : Prop :=
  ∀ ⦃a b : List Char⦄, a ∈ l → a ++ b ∈ l → b = []

/-- No word of the second language begins with a character by which a word of the first goes on. -/
def Apart (l m : Language Char) : Prop :=
  ∀ ⦃a b w : List Char⦄ ⦃c : Char⦄, a ∈ l → a ++ c :: b ∈ l → c :: w ∉ m

theorem mem_one {kind : Char → Bool} {w : List Char} :
    w ∈ one kind ↔ ∃ c, kind c = true ∧ w = [c] :=
  Iff.rfl

theorem mem_opt {l : Language Char} {w : List Char} : w ∈ opt l ↔ w = [] ∨ w ∈ l := by
  rw [opt, Language.mem_add, Language.mem_one]

variable {l m : Language Char} {kind kind' : Char → Bool} {c : Char} {cs v w : List Char}
  {n k : Nat}

/-! ## What languages begin with -/

theorem startsIn_one : StartsIn (one kind) kind := by
  rintro c w ⟨d, hd, h⟩
  rw [List.cons.injEq] at h
  rw [h.1]
  exact hd

theorem StartsIn.mono (h : StartsIn l kind) (hle : ∀ c, kind c = true → kind' c = true) :
    StartsIn l kind' :=
  fun _ _ hw => hle _ (h hw)

theorem StartsIn.opt (h : StartsIn l kind) : StartsIn (opt l) kind := by
  intro c w hw
  rcases mem_opt.1 hw with hnil | hw
  · cases hnil
  · exact h hw

theorem StartsIn.add (h : StartsIn l kind) (h' : StartsIn m kind') :
    StartsIn (l + m) fun c => kind c || kind' c := by
  intro c w hw
  rw [Bool.or_eq_true]
  exact hw.imp (fun hw => h hw) fun hw => h' hw

/-- If the first part is empty, the second one begins the word. -/
theorem StartsIn.mul (h : StartsIn l kind) (h' : StartsIn m kind') :
    StartsIn (l * m) fun c => kind c || kind' c := by
  intro c w hw
  obtain ⟨a, ha, b, hb, hab⟩ := Language.mem_mul.1 hw
  rw [Bool.or_eq_true]
  cases a with
  | nil =>
    rw [List.nil_append] at hab
    rw [hab] at hb
    exact Or.inr (h' hb)
  | cons d ds =>
    rw [List.cons_append, List.cons.injEq] at hab
    rw [hab.1] at ha
    exact Or.inl (h ha)

/-- If the first part is never empty, it begins the word. -/
theorem StartsIn.mul_of_nil_notMem (h : StartsIn l kind) (hnil : [] ∉ l) :
    StartsIn (l * m) kind := by
  intro c w hw
  obtain ⟨a, ha, b, hb, hab⟩ := Language.mem_mul.1 hw
  cases a with
  | nil => exact absurd ha hnil
  | cons d ds =>
    rw [List.cons_append, List.cons.injEq] at hab
    rw [hab.1] at ha
    exact h ha

theorem nil_notMem_one : [] ∉ one kind := by
  rintro ⟨c, _, h⟩
  cases h

theorem nil_notMem_mul (h : [] ∉ l) : [] ∉ l * m := by
  intro hw
  obtain ⟨a, ha, b, _, hab⟩ := Language.mem_mul.1 hw
  rw [(List.append_eq_nil_iff.1 hab).1] at ha
  exact h ha

theorem StartsIn.kstar (h : StartsIn l kind) (hnil : [] ∉ l) : StartsIn l∗ kind := by
  intro c w hw
  rw [← Language.one_add_self_mul_kstar_eq_kstar, Language.mem_add, Language.mem_one] at hw
  rcases hw with hw | hw
  · cases hw
  · exact h.mul_of_nil_notMem hnil hw

/-- A word that is not empty begins where the text begins. -/
theorem StartsIn.eq_nil_of_isPrefix (h : StartsIn l kind) {w : List Char} (hw : w ∈ l)
    (hpre : w <+: cs) (hhead : ∀ c ∈ cs.head?, kind c = false) : w = [] := by
  cases w with
  | nil => rfl
  | cons c ds =>
    obtain ⟨rest, rfl⟩ := hpre
    have hc : kind c = false := hhead c rfl
    rw [h hw] at hc
    cases hc

/-! ## What languages are made of -/

theorem madeOf_one (h : ∀ c, kind c = true → kind' c = true) : MadeOf (one kind) kind' := by
  rintro w ⟨d, hd, rfl⟩ c hc
  rw [List.mem_singleton.1 hc]
  exact h d hd

theorem MadeOf.opt (h : MadeOf l kind) : MadeOf (opt l) kind := by
  intro w hw c hc
  rcases mem_opt.1 hw with rfl | hw
  · cases hc
  · exact h hw c hc

theorem MadeOf.add (h : MadeOf l kind) (h' : MadeOf m kind) : MadeOf (l + m) kind :=
  fun _ hw => hw.elim (fun hw => h hw) fun hw => h' hw

theorem MadeOf.mul (h : MadeOf l kind) (h' : MadeOf m kind) : MadeOf (l * m) kind := by
  intro w hw c hc
  obtain ⟨a, ha, b, hb, rfl⟩ := Language.mem_mul.1 hw
  rcases List.mem_append.1 hc with hc | hc
  · exact h ha c hc
  · exact h' hb c hc

theorem MadeOf.kstar (h : MadeOf l kind) : MadeOf l∗ kind := by
  intro w hw c hc
  obtain ⟨parts, rfl, hparts⟩ := Language.mem_kstar.1 hw
  obtain ⟨part, hpart, hc⟩ := List.mem_flatten.1 hc
  exact h (hparts part hpart) c hc

/-- A character of another kind stands in no word. -/
theorem MadeOf.notMem (h : MadeOf l kind) (hc : kind c = false) : w ++ c :: v ∉ l := by
  intro hw
  rw [h hw c (List.mem_append_right w List.mem_cons_self)] at hc
  cases hc

/-! ## Languages that never go on -/

theorem prefixFree_one : PrefixFree (one kind) := by
  rintro a b ⟨c, _, rfl⟩ ⟨d, _, h⟩
  rw [List.singleton_append, List.cons.injEq] at h
  exact h.2

/-- Two languages that begin differently make one that never goes on if neither of them does. -/
theorem PrefixFree.add (h : PrefixFree l) (h' : PrefixFree m) (hl : StartsIn l kind)
    (hm : StartsIn m kind') (hnil : [] ∉ l) (hnil' : [] ∉ m)
    (hdisjoint : ∀ c, kind c = true → kind' c = false) : PrefixFree (l + m) := by
  intro a b ha hab
  cases a with
  | nil => exact absurd ha (not_or_intro hnil hnil')
  | cons c cs =>
    rcases ha with ha | ha <;> rcases hab with hab | hab
    · exact h ha hab
    · have hc := hdisjoint c (hl ha)
      rw [hm hab] at hc
      cases hc
    · have hc := hdisjoint c (hl hab)
      rw [hm ha] at hc
      cases hc
    · exact h' ha hab

theorem PrefixFree.apart (h : PrefixFree l) : Apart l m := by
  intro a b w c ha hab _
  cases h ha hab

/-- What may be left out goes on only where it was left out. -/
theorem apart_opt (h : PrefixFree l) (hl : StartsIn l kind) (hm : StartsIn m kind')
    (hdisjoint : ∀ c, kind c = true → kind' c = false) : Apart (opt l) m := by
  intro a b w c ha hab hw
  rw [mem_opt] at ha hab
  rcases hab with hab | hab
  · exact List.cons_ne_nil c b (List.append_eq_nil_iff.1 hab).2
  · rcases ha with rfl | ha
    · have hc := hdisjoint c (hl hab)
      rw [hm hw] at hc
      cases hc
    · cases h ha hab

/-! ## Where a character of a word stands -/

/-- A character of two words in a row is one of the first word or of the second one. -/
theorem cons_of_append_cons_eq {a b : List Char} (h : w ++ c :: v = a ++ b) :
    (∃ x, v = x ++ b ∧ a = w ++ c :: x) ∨ ∃ y, w = a ++ y ∧ b = y ++ c :: v := by
  rcases List.append_eq_append_iff.1 h with ⟨x, rfl, hx⟩ | ⟨y, rfl, rfl⟩
  · cases x with
    | nil => exact Or.inr ⟨[], by rw [List.append_nil, List.append_nil], hx.symm⟩
    | cons d x =>
      obtain ⟨rfl, rfl⟩ := List.cons.inj hx
      exact Or.inl ⟨x, rfl, rfl⟩
  · exact Or.inr ⟨y, rfl, rfl⟩

/-- A character of a word of two parts stands in one of them. -/
theorem mem_mul_of_append_cons (h : w ++ c :: v ∈ l * m) :
    (∃ x y, v = x ++ y ∧ w ++ c :: x ∈ l ∧ y ∈ m) ∨
      ∃ x y, w = x ++ y ∧ x ∈ l ∧ y ++ c :: v ∈ m := by
  obtain ⟨a, ha, b, hb, hab⟩ := Language.mem_mul.1 h
  rcases cons_of_append_cons_eq hab.symm with ⟨x, rfl, rfl⟩ | ⟨y, rfl, rfl⟩
  · exact Or.inl ⟨x, b, rfl, ha, hb⟩
  · exact Or.inr ⟨a, y, rfl, ha, hb⟩

/-- One more part at the start. -/
theorem append_mem_kstar (hw : w ∈ l) (hv : v ∈ l∗) : w ++ v ∈ l∗ :=
  Set.mem_of_mem_of_subset (Language.append_mem_mul hw hv) (mul_kstar_le_kstar (a := l))

/-- One more part at the end. -/
theorem append_mem_kstar_of_mem (hw : w ∈ l∗) (hv : v ∈ l) : w ++ v ∈ l∗ :=
  Set.mem_of_mem_of_subset (Language.append_mem_mul hw hv) (kstar_mul_le_kstar (a := l))

/-- A character of a word of many parts stands in one of them. -/
theorem mem_kstar_of_append_cons (h : w ++ c :: v ∈ l∗) :
    ∃ x y x' y', w = x ++ y ∧ v = x' ++ y' ∧ x ∈ l∗ ∧ y ++ c :: x' ∈ l := by
  obtain ⟨parts, hword, hparts⟩ := Language.mem_kstar.1 h
  clear h
  induction parts generalizing w with
  | nil => exact absurd hword (List.append_ne_nil_of_right_ne_nil w (List.cons_ne_nil c v))
  | cons part parts ih =>
    obtain ⟨hpart, hparts⟩ := List.forall_mem_cons.1 hparts
    rw [List.flatten_cons] at hword
    rcases cons_of_append_cons_eq hword with ⟨x, rfl, rfl⟩ | ⟨y, rfl, hy⟩
    · exact ⟨[], w, x, _, rfl, rfl, Language.nil_mem_kstar l, hpart⟩
    · obtain ⟨x, z, x', y', rfl, rfl, hx, hz⟩ := ih hy.symm hparts
      refine ⟨part ++ x, z, x', y', (List.append_assoc _ _ _).symm, rfl, ?_, hz⟩
      exact append_mem_kstar hpart hx

/-! ## Longest prefixes -/

/-- **Longest parts make a longest whole.** -/
theorem IsLongest.mul (hl : IsLongest l cs n) (hm : IsLongest m (cs.drop n) k)
    (hapart : Apart l m) : IsLongest (l * m) cs (n + k) where
  le_length := by
    have hle := hl.le_length
    have hle' := hm.le_length
    rw [List.length_drop] at hle'
    omega
  take_mem := by
    rw [List.take_add]
    exact Language.append_mem_mul hl.take_mem hm.take_mem
  length_le := by
    intro w hpre hw
    obtain ⟨a, ha, b, hb, rfl⟩ := Language.mem_mul.1 hw
    have hapre : a <+: cs := (List.prefix_append a b).trans hpre
    obtain ⟨rest, hrest⟩ := hpre
    rw [List.append_assoc] at hrest
    have hle := hl.length_le hapre ha
    rw [List.length_append]
    rcases Nat.eq_or_lt_of_le hle with heq | hlt
    · -- The first part is as long as it can be, and the second one begins behind it.
      have hdrop : cs.drop n = b ++ rest := by
        rw [← heq, ← hrest, List.drop_left]
      have hle' := hm.length_le (hdrop ▸ List.prefix_append b rest) hb
      omega
    · -- The first part could have gone on, which leaves nothing for the second one.
      cases b with
      | nil => exact Nat.le_add_right_of_le hle
      | cons c b =>
        obtain ⟨d, hd⟩ : ∃ d, n = a.length + (d + 1) := ⟨n - a.length - 1, by omega⟩
        have htake : cs.take n = a ++ c :: (b ++ rest).take d := by
          rw [hd, ← hrest, List.take_length_add_append, List.cons_append, List.take_succ_cons]
        exact absurd hb (hapart ha (htake ▸ hl.take_mem))

/-- Of two kinds of words, the ones of the first kind count if none of the second is longer. -/
theorem IsLongest.add (h : IsLongest l cs n)
    (hm : ∀ {w : List Char}, w <+: cs → w ∈ m → w.length ≤ n) : IsLongest (l + m) cs n where
  le_length := h.le_length
  take_mem := Or.inl h.take_mem
  length_le hpre hw := hw.elim (h.length_le hpre) (hm hpre)

theorem isLongest_one {c : Char} (hc : kind c = true) : IsLongest (one kind) (c :: cs) 1 where
  le_length := Nat.succ_le_succ (Nat.zero_le _)
  take_mem := ⟨c, hc, rfl⟩
  length_le := by
    rintro w _ ⟨d, _, rfl⟩
    exact Nat.le_refl 1

/-- Words that may be left out: it is enough to know the longest one when there is one. -/
theorem isLongest_opt (hmem : n ≠ 0 → IsLongest l cs n)
    (hle : ∀ {w : List Char}, w <+: cs → w ∈ l → w.length ≤ n) : IsLongest (opt l) cs n where
  le_length := by
    rcases Nat.eq_zero_or_pos n with rfl | hpos
    · exact Nat.zero_le _
    · exact (hmem (Nat.ne_of_gt hpos)).le_length
  take_mem := by
    rcases Nat.eq_zero_or_pos n with rfl | hpos
    · exact mem_opt.2 (Or.inl List.take_zero)
    · exact mem_opt.2 (Or.inr (hmem (Nat.ne_of_gt hpos)).take_mem)
  length_le := by
    intro w hpre hw
    rcases mem_opt.1 hw with rfl | hw
    · exact Nat.zero_le n
    · exact hle hpre hw

theorem IsLongest.unique (h : IsLongest l cs n) (h' : IsLongest l cs k) : n = k := by
  have hle := h'.length_le (List.take_prefix n cs) h.take_mem
  have hle' := h.length_le (List.take_prefix k cs) h'.take_mem
  rw [List.length_take, Nat.min_eq_left h.le_length] at hle
  rw [List.length_take, Nat.min_eq_left h'.le_length] at hle'
  exact Nat.le_antisymm hle hle'

/-- A word is the longest one before a character when no word goes on with the character. -/
theorem isLongest_append_cons_iff : IsLongest l (w ++ c :: cs) w.length ↔
    w ∈ l ∧ ∀ v, v <+: cs → w ++ c :: v ∉ l := by
  constructor
  · intro h
    have hw := h.take_mem
    rw [List.take_left] at hw
    refine ⟨hw, fun v hv hmem => ?_⟩
    have hle := h.length_le ((List.prefix_append_right_inj w).2 (List.cons_prefix_cons.2 ⟨rfl, hv⟩))
      hmem
    rw [List.length_append, List.length_cons] at hle
    omega
  · rintro ⟨hw, hgo⟩
    refine ⟨?_, ?_, ?_⟩
    · rw [List.length_append]
      exact Nat.le_add_right _ _
    · rwa [List.take_left]
    · intro v hpre hv
      by_contra hlt
      obtain ⟨x, rfl⟩ := List.prefix_of_prefix_length_le (List.prefix_append w (c :: cs)) hpre
        (Nat.le_of_not_le hlt)
      rw [List.prefix_append_right_inj] at hpre
      cases x with
      | nil => exact hlt (by rw [List.append_nil])
      | cons d x =>
        obtain ⟨rfl, hx⟩ := List.cons_prefix_cons.1 hpre
        exact hgo x hx hv

end Emoji
end EmojiLint
