import EmojiLint.Proofs.Emoji.Words

/-!
# The grammar of emoji

`tail?` follows no grammar, it takes as much as it can part by part; here it is shown to agree with
the grammar.

* `isLongest_grammar` — what `tail?` measures is the longest word at the start of a text.
* `notMem_grammar` — where it finds nothing, no word begins.
* `exists_of_mem_grammar` — behind its first character a word is never ASCII.
-/

set_option autoImplicit false

open Computability

namespace EmojiLint
namespace Emoji

variable {c : Char} {cs w : List Char} {n : Nat}

/-! ## Sequences -/

theorem joined_mul (l : Language Char) : joined * l = one (· == joiner) *
    (one isPictograph * (selector * (opt (one isModifier) * l))) := by
  rw [joined, mul_assoc, mul_assoc, mul_assoc]

/-- A joiner and a pictograph, perhaps with a selector and a skin tone. -/
theorem mem_joined : w ∈ joined ↔ ∃ p s t, isPictograph p = true ∧ s ∈ selector ∧
    t ∈ opt (one isModifier) ∧ w = joiner :: p :: (s ++ t) := by
  constructor
  · intro hw
    obtain ⟨_, hfront, t, ht, rfl⟩ := Language.mem_mul.1 hw
    obtain ⟨_, hpair, s, hs, rfl⟩ := Language.mem_mul.1 hfront
    obtain ⟨_, ⟨j, hj, rfl⟩, _, ⟨p, hp, rfl⟩, rfl⟩ := Language.mem_mul.1 hpair
    exact ⟨p, s, t, hp, hs, ht, by rw [beq_iff_eq.1 hj]; rfl⟩
  · rintro ⟨p, s, t, hp, hs, ht, rfl⟩
    have hpair : [joiner, p] ∈ one (· == joiner) * one isPictograph :=
      Language.append_mem_mul (a := [joiner]) ⟨joiner, beq_iff_eq.2 rfl, rfl⟩ ⟨p, hp, rfl⟩
    exact Language.append_mem_mul (Language.append_mem_mul hpair hs) ht

theorem nil_notMem_joined : [] ∉ joined :=
  nil_notMem_mul (nil_notMem_mul (nil_notMem_mul nil_notMem_one))

theorem startsIn_kstar_joined : StartsIn joined∗ (· == joiner) := by
  refine StartsIn.kstar ?_ nil_notMem_joined
  rw [← mul_one joined, joined_mul]
  exact startsIn_one.mul_of_nil_notMem nil_notMem_one

theorem apart_modifier : Apart (opt (one isModifier)) joined∗ :=
  apart_opt prefixFree_one startsIn_one startsIn_kstar_joined fun _ hc =>
    not_joiner_of_isDecoration (Bool.or_eq_true_iff.2 (Or.inl hc))

theorem apart_decoration : Apart (opt decoration) joined∗ :=
  apart_opt prefixFree_decoration startsIn_decoration startsIn_kstar_joined fun _ =>
    not_joiner_of_isDecoration

/-- What follows a variation selector begins with no variation selector. -/
theorem apart_selector {l : Language Char} (h : StartsIn l isAddition) : Apart selector l :=
  apart_opt prefixFree_one startsIn_one h fun _ => not_isAddition_of_variationSelector

theorem startsIn_addition {l : Language Char} (h : StartsIn l isDecoration) :
    StartsIn (opt l * joined∗) isAddition :=
  h.opt.mul startsIn_kstar_joined

/-- A joiner and a pictograph begin what is joined. -/
theorem exists_of_isPrefix_joined_mul {l : Language Char} (hpre : w <+: cs)
    (hw : w ∈ joined * l) : ∃ p rest, isPictograph p = true ∧ cs = joiner :: p :: rest := by
  rw [joined_mul] at hw
  obtain ⟨_, ⟨j, hj, rfl⟩, _, htail, rfl⟩ := Language.mem_mul.1 hw
  obtain ⟨_, ⟨p, hp, rfl⟩, v, _, rfl⟩ := Language.mem_mul.1 htail
  obtain ⟨rest, rfl⟩ := hpre
  exact ⟨p, v ++ rest, hp, by rw [beq_iff_eq.1 hj]; rfl⟩

/-- **Joining takes all the pictographs that are joined.** -/
theorem isLongest_kstar_joined (cs : List Char) : IsLongest joined∗ cs (joinedLength cs) := by
  have hstar : joined∗ = opt (joined * joined∗) :=
    (Language.one_add_self_mul_kstar_eq_kstar joined).symm
  fun_induction joinedLength cs with
  | case1 j p cs hjoined variation modifier ih =>
    have hstarts : StartsIn (opt (one isModifier) * joined∗) isAddition :=
      startsIn_addition (startsIn_one.mono fun _ hc => Bool.or_eq_true_iff.2 (Or.inl hc))
    have hmodifier : IsLongest (opt (one isModifier)) (cs.drop variation) modifier :=
      isLongest_opt_one isModifier _
    have hjoiner : IsLongest (one (· == joiner)) (j :: p :: cs) 1 :=
      isLongest_one (beq_iff_eq.2 hjoined.1)
    rw [← List.drop_drop] at ih
    have hrest := (isLongest_opt_one (· == variationSelector) cs).mul
      (hmodifier.mul ih apart_modifier) (apart_selector hstarts)
    have hlongest : IsLongest (joined * joined∗) (j :: p :: cs) (1 + (1 + (variation +
        (modifier + joinedLength ((cs.drop variation).drop modifier))))) := by
      rw [joined_mul]
      exact hjoiner.mul ((isLongest_one hjoined.2).mul hrest prefixFree_one.apart)
        prefixFree_one.apart
    rw [hstar]
    convert isLongest_opt (fun _ => hlongest) hlongest.length_le using 1
    rw [List.drop_drop]
    omega
  | case2 j p cs hnot =>
    rw [hstar]
    refine isLongest_opt (fun h => absurd rfl h) fun hpre hw => ?_
    obtain ⟨q, rest, hq, hcs⟩ := exists_of_isPrefix_joined_mul hpre hw
    rw [List.cons.injEq, List.cons.injEq] at hcs
    exact absurd ⟨hcs.1, hcs.2.1 ▸ hq⟩ hnot
  | case3 cs hshort =>
    rw [hstar]
    refine isLongest_opt (fun h => absurd rfl h) fun hpre hw => ?_
    obtain ⟨q, rest, _, hcs⟩ := exists_of_isPrefix_joined_mul hpre hw
    exact absurd hcs (hshort _ _ _)

/-- An emoji by itself, with everything that belongs to it. -/
theorem isLongest_sequence (hc : isBase c = true) (cs : List Char) :
    IsLongest sequence (c :: cs) (baseTail cs + 1) := by
  have hselector := isLongest_opt_one (· == variationSelector) cs
  have hdecoration := isLongest_decoration (cs.drop (variationLength cs))
  have hjoined := isLongest_kstar_joined
    ((cs.drop (variationLength cs)).drop (decorationLength (cs.drop (variationLength cs))))
  have hrest := hselector.mul (hdecoration.mul hjoined apart_decoration)
    (apart_selector (startsIn_addition startsIn_decoration))
  have hlength : baseTail cs + 1 = 1 + (variationLength cs +
      (decorationLength (cs.drop (variationLength cs)) + joinedLength ((cs.drop
        (variationLength cs)).drop (decorationLength (cs.drop (variationLength cs)))))) := by
    simp only [baseTail, List.drop_drop]
    omega
  rw [sequence, mul_assoc, mul_assoc, hlength]
  exact (isLongest_one hc).mul hrest prefixFree_one.apart

theorem startsIn_sequence : StartsIn sequence isBase := by
  rw [sequence, mul_assoc, mul_assoc]
  exact startsIn_one.mul_of_nil_notMem nil_notMem_one

/-! ## All emoji -/

theorem nil_notMem_sequence : [] ∉ sequence :=
  nil_notMem_mul (nil_notMem_mul (nil_notMem_mul nil_notMem_one))

theorem nil_notMem_grammar : [] ∉ grammar := by
  rintro ((hw | hw) | hw)
  · exact nil_notMem_mul nil_notMem_one hw
  · exact nil_notMem_mul (nil_notMem_mul nil_notMem_one) hw
  · exact nil_notMem_sequence hw

/-- In a sequence no regional indicator follows the first character. -/
theorem length_of_isPrefix_sequence (hcs : countFirst isRegionalIndicator cs = 1)
    (hpre : w <+: c :: cs) (hw : w ∈ sequence) : w.length = 1 := by
  have hstarts : StartsIn (selector * (opt decoration * joined∗)) fun d =>
      d == variationSelector || isAddition d :=
    startsIn_one.opt.mul (startsIn_addition startsIn_decoration)
  rw [sequence, mul_assoc, mul_assoc] at hw
  obtain ⟨_, ⟨b, _, rfl⟩, v, hv, rfl⟩ := Language.mem_mul.1 hw
  have hvpre : v <+: cs := (List.cons_prefix_cons.1 hpre).2
  rw [hstarts.eq_nil_of_isPrefix hv hvpre, List.append_nil, List.length_singleton]
  intro d hd
  obtain ⟨e, es, he, rfl⟩ := countFirst_eq_one.1 hcs
  obtain ⟨hselector, haddition⟩ := not_isAddition_of_isRegionalIndicator he
  rw [← Option.some_inj.1 hd, hselector, haddition]
  rfl

/-- An emoji by itself needs nothing around it. -/
theorem singleton_mem_grammar (hc : isBase c = true) : [c] ∈ grammar := by
  refine Or.inr ?_
  have h := (isLongest_sequence hc []).take_mem
  rw [List.take_of_length_le (Nat.succ_le_succ (Nat.zero_le _))] at h
  exact h

/-- **What `tail?` measures is the longest emoji that begins there.** -/
theorem isLongest_grammar (h : tail? c cs = some n) : IsLongest grammar (c :: cs) (n + 1) := by
  rw [tail?] at h
  split_ifs at h with hflag hkeycap hbase
  · -- A regional indicator frames no keycap, and a sequence would end before the second one.
    cases h
    have hnotKeycap : isKeycapBase c = false := by
      rw [Bool.eq_false_iff]
      intro hkeycap
      rw [not_isRegionalIndicator_of_isKeycapBase hkeycap] at hflag
      cases hflag.1
    refine ((isLongest_flag hflag.1 hflag.2).add fun hpre hw => ?_).add fun hpre hw => ?_
    · rw [(keycapTail?_of_isPrefix_keycap hpre hw).1] at hnotKeycap
      cases hnotKeycap
    · rw [length_of_isPrefix_sequence hflag.2 hpre hw]
      exact Nat.le_succ 1
  · rw [grammar, add_comm flag]
    refine ((isLongest_keycap hkeycap h).add fun hpre hw => ?_).add fun hpre hw => ?_
    · have hindicator := (countFirst_of_isPrefix_flag hpre hw).1
      rw [not_isRegionalIndicator_of_isKeycapBase hkeycap] at hindicator
      cases hindicator
    · have hnil := startsIn_sequence.eq_nil_of_isPrefix hw hpre fun d hd => ?_
      · rw [hnil]
        exact Nat.zero_le _
      · rw [← Option.some_inj.1 hd]
        exact not_isBase_of_isKeycapBase hkeycap
  · cases h
    rw [grammar, add_comm]
    refine (isLongest_sequence hbase cs).add ?_
    rintro w hpre (hw | hw)
    · obtain ⟨hindicator, hcount, _⟩ := countFirst_of_isPrefix_flag hpre hw
      exact absurd ⟨hindicator, hcount⟩ hflag
    · exact absurd (keycapTail?_of_isPrefix_keycap hpre hw).1 hkeycap

/-- **Where `tail?` finds nothing, no emoji begins.** -/
theorem notMem_grammar (h : tail? c cs = none) (hpre : w <+: c :: cs) : w ∉ grammar := by
  rw [tail?] at h
  rintro ((hw | hw) | hw)
  · obtain ⟨hindicator, hcount, _⟩ := countFirst_of_isPrefix_flag hpre hw
    rw [if_pos ⟨hindicator, hcount⟩] at h
    cases h
  · obtain ⟨hkeycap, n, hn, _⟩ := keycapTail?_of_isPrefix_keycap hpre hw
    rw [if_neg, if_pos hkeycap, hn] at h
    · cases h
    · rintro ⟨hindicator, _⟩
      rw [not_isRegionalIndicator_of_isKeycapBase hkeycap] at hindicator
      cases hindicator
  · have hbase : isBase c = true := by
      cases w with
      | nil => exact absurd hw nil_notMem_sequence
      | cons d v => exact (List.cons_prefix_cons.1 hpre).1 ▸ startsIn_sequence hw
    split_ifs at h with hflag hkeycap
    rw [not_isBase_of_isKeycapBase hkeycap] at hbase
    cases hbase

/-! ## Characters beyond ASCII -/

/-- A character beyond ASCII. -/
def isWide (c : Char) : Bool :=
  !Text.isAscii c

theorem isWide_eq_true : isWide c = true ↔ Text.isAscii c = false := by
  rw [isWide, Bool.not_eq_true']

theorem madeOf_flag : MadeOf flag isWide :=
  have hindicator : MadeOf (one isRegionalIndicator) isWide :=
    madeOf_one fun _ hc => isWide_eq_true.2 (isAscii_eq_false_of_isRegionalIndicator hc)
  hindicator.mul hindicator

theorem madeOf_selector : MadeOf selector isWide :=
  (madeOf_one fun _ hc => beq_iff_eq.1 hc ▸ rfl).opt

theorem madeOf_modifier : MadeOf (one isModifier) isWide :=
  madeOf_one fun _ hc => isWide_eq_true.2 (isAscii_eq_false_of_isModifier hc)

theorem madeOf_tagRun : MadeOf tagRun isWide :=
  have htag : MadeOf (one isTag) isWide :=
    madeOf_one fun _ hc => isWide_eq_true.2 (isAscii_eq_false_of_isTag hc)
  (htag.mul htag.kstar).mul (madeOf_one fun _ hc => beq_iff_eq.1 hc ▸ rfl)

theorem madeOf_joined : MadeOf joined isWide :=
  have hjoiner : MadeOf (one (· == joiner)) isWide := madeOf_one fun _ hc => beq_iff_eq.1 hc ▸ rfl
  have hpictograph : MadeOf (one isPictograph) isWide :=
    madeOf_one fun _ hc => isWide_eq_true.2 (isAscii_eq_false_of_isPictograph hc)
  ((hjoiner.mul hpictograph).mul madeOf_selector).mul madeOf_modifier.opt

theorem madeOf_sequence : MadeOf sequence isWide :=
  have hbase : MadeOf (one isBase) isWide :=
    madeOf_one fun _ hc => isWide_eq_true.2 (isAscii_eq_false_of_isBase hc)
  ((hbase.mul madeOf_selector).mul (madeOf_modifier.add madeOf_tagRun).opt).mul madeOf_joined.kstar

/-- **An emoji is ASCII at most in its first character**, and then it is a keycap. -/
theorem exists_of_mem_grammar (hw : w ∈ grammar) : ∃ d ds, w = d :: ds ∧
    (isWide d = true ∨ isKeycapBase d = true) ∧ ∀ e ∈ ds, isWide e = true := by
  obtain ⟨d, ds, rfl⟩ : ∃ d ds, w = d :: ds := by
    cases w with
    | nil => exact absurd hw nil_notMem_grammar
    | cons d ds => exact ⟨d, ds, rfl⟩
  refine ⟨d, ds, rfl, ?_⟩
  rcases hw with (hw | hw) | hw
  · obtain ⟨hd, hds⟩ := List.forall_mem_cons.1 (madeOf_flag hw)
    exact ⟨Or.inl hd, hds⟩
  · obtain ⟨k, s, hk, hs, hword⟩ := mem_keycap.1 hw
    rw [List.cons_append, List.cons.injEq] at hword
    obtain ⟨rfl, rfl⟩ := hword
    refine ⟨Or.inr hk, ?_⟩
    rcases hs with rfl | rfl <;> exact List.all_eq_true.1 rfl
  · obtain ⟨hd, hds⟩ := List.forall_mem_cons.1 (madeOf_sequence hw)
    exact ⟨Or.inl hd, hds⟩

end Emoji
end EmojiLint
