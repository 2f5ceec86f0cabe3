import EmojiLint.Proofs.Emoji.Longest
import EmojiLint.Proofs.Emoji.Properties
import Mathlib.Data.List.TakeWhile

/-!
# The words that are emoji

Which words are emoji, as a regular language: flags, keycaps, and sequences that begin with an emoji
by itself.

* `grammar` — the words that are one emoji.
* `mem_flag`, `mem_keycap`, `mem_tagRun` — which words these are.
* `isLongest_flag`, `isLongest_keycap`, `isLongest_decoration` — what is measured of each is the
  longest one.
-/

set_option autoImplicit false

open Computability

namespace EmojiLint
namespace Emoji

/-- Two regional indicators. -/
def flag : Language Char :=
  one isRegionalIndicator * one isRegionalIndicator

/-- A variation selector, or nothing. -/
def selector : Language Char :=
  opt (one (· == variationSelector))

def keycap : Language Char :=
  one isKeycapBase * selector * one (· == keycapFrame)

/-- At least one tag, and the tag that ends them. -/
def tagRun : Language Char :=
  one isTag * (one isTag)∗ * one (· == cancelTag)

/-- A joiner and the pictograph that it joins. -/
def joined : Language Char :=
  one (· == joiner) * one isPictograph * selector * opt (one isModifier)

/-- What may decorate an emoji: a skin tone or a run of tags. -/
def decoration : Language Char :=
  one isModifier + tagRun

/-- An emoji by itself, perhaps decorated, with what is joined to it. -/
def sequence : Language Char :=
  one isBase * selector * opt decoration * joined∗

/-- **The words that are one emoji.** -/
def grammar : Language Char :=
  flag + keycap + sequence

variable {c : Char} {cs w : List Char} {n : Nat}

/-! ## Flags and keycaps -/

theorem mem_flag : w ∈ flag ↔
    ∃ a b, isRegionalIndicator a = true ∧ isRegionalIndicator b = true ∧ w = [a, b] := by
  refine ⟨?_, ?_⟩
  · intro hw
    obtain ⟨_, ⟨a, ha, rfl⟩, _, ⟨b, hb, rfl⟩, rfl⟩ := Language.mem_mul.1 hw
    exact ⟨a, b, ha, hb, rfl⟩
  · rintro ⟨a, b, ha, hb, rfl⟩
    exact Language.mem_mul.2 ⟨[a], ⟨a, ha, rfl⟩, [b], ⟨b, hb, rfl⟩, rfl⟩

theorem mem_selector : w ∈ selector ↔ w = [] ∨ w = [variationSelector] := by
  simp only [selector, mem_opt, mem_one, beq_iff_eq, exists_eq_left]

theorem mem_keycap : w ∈ keycap ↔
    ∃ k s, isKeycapBase k = true ∧ (s = [] ∨ s = [variationSelector]) ∧
      w = k :: s ++ [keycapFrame] := by
  refine ⟨?_, ?_⟩
  · intro hw
    obtain ⟨_, hks, _, ⟨f, hf, rfl⟩, rfl⟩ := Language.mem_mul.1 hw
    obtain ⟨_, ⟨k, hk, rfl⟩, s, hs, rfl⟩ := Language.mem_mul.1 hks
    rw [beq_iff_eq.1 hf]
    exact ⟨k, s, hk, mem_selector.1 hs, rfl⟩
  · rintro ⟨k, s, hk, hs, rfl⟩
    refine Language.mem_mul.2 ⟨k :: s, ?_, [keycapFrame], ⟨_, beq_iff_eq.2 rfl, rfl⟩, rfl⟩
    exact Language.mem_mul.2 ⟨[k], ⟨k, hk, rfl⟩, s, mem_selector.2 hs, rfl⟩

/-- A flag at the start of a text is two regional indicators. -/
theorem countFirst_of_isPrefix_flag (hpre : w <+: c :: cs) (hw : w ∈ flag) :
    isRegionalIndicator c = true ∧ countFirst isRegionalIndicator cs = 1 ∧ w.length = 2 := by
  obtain ⟨a, b, ha, hb, rfl⟩ := mem_flag.1 hw
  obtain ⟨rest, hrest⟩ := hpre
  rw [List.cons_append, List.cons_append, List.cons.injEq] at hrest
  obtain ⟨rfl, rfl⟩ := hrest
  exact ⟨ha, if_pos hb, rfl⟩

theorem isLongest_flag (hc : isRegionalIndicator c = true)
    (hcs : countFirst isRegionalIndicator cs = 1) : IsLongest flag (c :: cs) 2 := by
  have hle : ∀ {w : List Char}, w <+: c :: cs → w ∈ flag → w.length ≤ 2 := fun hpre hw =>
    Nat.le_of_eq (countFirst_of_isPrefix_flag hpre hw).2.2
  obtain ⟨d, ds, hd, rfl⟩ := countFirst_eq_one.1 hcs
  exact ⟨Nat.le_add_left 2 _, mem_flag.2 ⟨c, d, hc, hd, rfl⟩, hle⟩

/-- A keycap at the start of a text is what `keycapTail?` finds. -/
theorem keycapTail?_of_isPrefix_keycap (hpre : w <+: c :: cs) (hw : w ∈ keycap) :
    isKeycapBase c = true ∧ ∃ n, keycapTail? cs = some n ∧ w.length = n + 1 := by
  obtain ⟨k, s, hk, hs, rfl⟩ := mem_keycap.1 hw
  obtain ⟨rest, hrest⟩ := hpre
  rw [List.cons_append, List.cons_append, List.cons.injEq] at hrest
  obtain ⟨rfl, rfl⟩ := hrest
  refine ⟨hk, ?_⟩
  rcases hs with rfl | rfl
  · exact ⟨1, rfl, rfl⟩
  · exact ⟨2, rfl, rfl⟩

theorem isLongest_keycap (hc : isKeycapBase c = true) (hcs : keycapTail? cs = some n) :
    IsLongest keycap (c :: cs) (n + 1) := by
  have hle : ∀ {w : List Char}, w <+: c :: cs → w ∈ keycap → w.length ≤ n + 1 := by
    intro w hpre hw
    obtain ⟨_, m, hm, hlen⟩ := keycapTail?_of_isPrefix_keycap hpre hw
    rw [hcs, Option.some_inj] at hm
    rw [hlen, hm]
  cases cs with
  | nil => cases hcs
  | cons d ds =>
    rw [keycapTail?] at hcs
    split at hcs
    · next hd =>
      cases hcs
      exact ⟨Nat.le_add_left 2 _, mem_keycap.2 ⟨c, [], hc, Or.inl rfl, by rw [hd]; rfl⟩, hle⟩
    · split at hcs
      · next hd =>
        cases hcs
        obtain ⟨es, rfl⟩ : ∃ es, ds = keycapFrame :: es := by
          cases ds with
          | nil => cases hd.2
          | cons e es => exact ⟨es, by rw [Option.some_inj.1 hd.2]⟩
        exact ⟨Nat.le_add_left 3 _, mem_keycap.2 ⟨c, _, hc, Or.inr rfl, by rw [hd.1]; rfl⟩, hle⟩
      · cases hcs

/-! ## Tags and skin tones -/

theorem mem_tagRun : w ∈ tagRun ↔
    ∃ tags, tags ≠ [] ∧ (∀ t ∈ tags, isTag t = true) ∧ w = tags ++ [cancelTag] := by
  refine ⟨?_, ?_⟩
  · intro hw
    obtain ⟨_, htags, _, ⟨f, hf, rfl⟩, rfl⟩ := Language.mem_mul.1 hw
    obtain ⟨_, ⟨t, ht, rfl⟩, _, hts, rfl⟩ := Language.mem_mul.1 htags
    obtain ⟨parts, rfl, hparts⟩ := Language.mem_kstar.1 hts
    refine ⟨[t] ++ parts.flatten, List.cons_ne_nil _ _, ?_, by rw [beq_iff_eq.1 hf]⟩
    intro d hd
    rcases List.mem_append.1 hd with hd | hd
    · rw [List.mem_singleton.1 hd]
      exact ht
    · obtain ⟨part, hpart, hd⟩ := List.mem_flatten.1 hd
      obtain ⟨e, he, rfl⟩ := hparts part hpart
      rw [List.mem_singleton.1 hd]
      exact he
  · rintro ⟨tags, hne, htags, rfl⟩
    obtain ⟨t, ts, rfl⟩ := List.exists_cons_of_ne_nil hne
    refine Language.mem_mul.2 ⟨t :: ts, ?_, _, ⟨_, beq_iff_eq.2 rfl, rfl⟩, rfl⟩
    refine Language.mem_mul.2 ⟨[t], ⟨t, htags t List.mem_cons_self, rfl⟩, ts, ?_, rfl⟩
    have hflatten : ts = (ts.map fun d => [d]).flatten := by
      rw [← List.flatMap_def, List.flatMap_singleton']
    rw [hflatten]
    refine Language.join_mem_kstar fun y hy => ?_
    obtain ⟨d, hd, rfl⟩ := List.mem_map.1 hy
    exact ⟨d, htags d (List.mem_cons_of_mem t hd), rfl⟩

/-- A run of tags at the start of a text takes all its tags: what ends them is none. -/
theorem length_of_isPrefix_tagRun (hpre : w <+: cs) (hw : w ∈ tagRun) :
    w.length = tagLength cs := by
  obtain ⟨tags, hne, htags, rfl⟩ := mem_tagRun.1 hw
  obtain ⟨rest, rfl⟩ := hpre
  have htake : (tags ++ [cancelTag] ++ rest).takeWhile isTag = tags := by
    rw [List.append_assoc, List.takeWhile_append_of_pos htags, List.singleton_append,
      List.takeWhile_cons_of_neg (by rw [not_isTag_cancelTag]; exact Bool.false_ne_true),
      List.append_nil]
  have hhead : ((tags ++ [cancelTag] ++ rest).drop tags.length).head? = some cancelTag := by
    rw [List.append_assoc, List.drop_left]
    rfl
  simp only [tagLength, htake, hhead, List.isEmpty_eq_false_iff.2 hne, beq_self_eq_true,
    Bool.not_false, Bool.and_self, if_true, List.length_append, List.length_singleton]

theorem isLongest_tagRun (h : tagLength cs ≠ 0) : IsLongest tagRun cs (tagLength cs) := by
  simp only [tagLength] at h
  split at h
  · next hrun =>
    rw [Bool.and_eq_true, Bool.not_eq_true', List.isEmpty_eq_false_iff, beq_iff_eq] at hrun
    obtain ⟨hne, hhead⟩ := hrun
    have hlen : tagLength cs = (cs.takeWhile isTag).length + 1 := by
      rw [tagLength]
      simp only [hhead, List.isEmpty_eq_false_iff.2 hne, beq_self_eq_true, Bool.not_false,
        Bool.and_self, if_true]
    have hdrop : cs.drop (cs.takeWhile isTag).length = cancelTag ::
        (cs.drop (cs.takeWhile isTag).length).tail := by
      cases hrest : cs.drop (cs.takeWhile isTag).length with
      | nil =>
        rw [hrest] at hhead
        cases hhead
      | cons d ds =>
        rw [hrest] at hhead
        rw [Option.some_inj.1 hhead, List.tail_cons]
    have htake : cs.take (tagLength cs) = cs.takeWhile isTag ++ [cancelTag] := by
      rw [hlen, List.take_add, hdrop, List.take_succ_cons, List.take_zero,
        ← List.prefix_iff_eq_take.1 (List.takeWhile_prefix isTag)]
    refine ⟨?_, ?_, fun hpre hw => Nat.le_of_eq (length_of_isPrefix_tagRun hpre hw)⟩
    · have hlt : cs.drop (cs.takeWhile isTag).length ≠ [] := by
        rw [hdrop]
        exact List.cons_ne_nil _ _
      rw [Ne, List.drop_eq_nil_iff, Nat.not_le] at hlt
      rw [hlen]
      exact hlt
    · rw [htake]
      exact mem_tagRun.2 ⟨_, hne, fun t ht => List.mem_takeWhile_imp ht, rfl⟩
  · exact absurd rfl h

theorem nil_notMem_tagRun : [] ∉ tagRun :=
  nil_notMem_mul (nil_notMem_mul nil_notMem_one)

theorem startsIn_tagRun : StartsIn tagRun isTag :=
  (startsIn_one.mul_of_nil_notMem nil_notMem_one).mul_of_nil_notMem (nil_notMem_mul nil_notMem_one)

theorem prefixFree_tagRun : PrefixFree tagRun := by
  intro a b ha hab
  have hlen := length_of_isPrefix_tagRun (List.prefix_append a b) ha
  rw [← length_of_isPrefix_tagRun (List.prefix_refl (a ++ b)) hab, List.length_append] at hlen
  exact List.length_eq_zero_iff.1 (by omega)

theorem startsIn_decoration : StartsIn decoration isDecoration :=
  startsIn_one.add startsIn_tagRun

theorem prefixFree_decoration : PrefixFree decoration :=
  prefixFree_one.add prefixFree_tagRun startsIn_one startsIn_tagRun nil_notMem_one
    nil_notMem_tagRun fun _ => not_isTag_of_isModifier

/-- A character of a kind, or nothing. -/
theorem isLongest_opt_one (kind : Char → Bool) (cs : List Char) :
    IsLongest (opt (one kind)) cs (countFirst kind cs) := by
  cases cs with
  | nil =>
    refine isLongest_opt (fun h => absurd rfl h) ?_
    rintro w hpre ⟨c, _, rfl⟩
    cases List.prefix_nil.1 hpre
  | cons c cs =>
    by_cases hc : kind c = true
    · rw [countFirst, if_pos hc]
      exact isLongest_opt (fun _ => isLongest_one hc) (isLongest_one hc).length_le
    · rw [countFirst, if_neg hc]
      refine isLongest_opt (fun h => absurd rfl h) fun hpre hw => ?_
      rw [startsIn_one.eq_nil_of_isPrefix hw hpre (by simpa using hc)]
      exact Nat.le_refl 0

theorem isLongest_decoration (cs : List Char) :
    IsLongest (opt decoration) cs (decorationLength cs) := by
  have hmodifier := isLongest_opt_one isModifier cs
  rw [decorationLength]
  split
  · next hnone =>
    -- Without a skin tone, only a run of tags is left.
    have hle : ∀ {w : List Char}, w <+: cs → w ∈ one isModifier → w.length ≤ tagLength cs := by
      intro w hpre hw
      have hle := hmodifier.length_le hpre (mem_opt.2 (Or.inr hw))
      rw [show countFirst isModifier cs = 0 from hnone] at hle
      exact Nat.le_trans hle (Nat.zero_le _)
    refine isLongest_opt (fun hne => ?_) ?_
    · rw [decoration, add_comm]
      exact (isLongest_tagRun hne).add hle
    · rintro w hpre (hw | hw)
      · exact hle hpre hw
      · exact Nat.le_of_eq (length_of_isPrefix_tagRun hpre hw)
  · next hsome =>
    cases cs with
    | nil => exact absurd rfl hsome
    | cons c cs =>
      have hc : isModifier c = true := by
        by_contra h
        exact hsome (if_neg h)
      have hlongest : IsLongest decoration (c :: cs) 1 := by
        refine (isLongest_one hc).add fun hpre hw => ?_
        rw [startsIn_tagRun.eq_nil_of_isPrefix hw hpre fun d hd => ?_]
        · exact Nat.zero_le 1
        · rw [← Option.some_inj.1 hd]
          exact not_isTag_of_isModifier hc
      exact isLongest_opt (fun _ => hlongest) hlongest.length_le

end Emoji
end EmojiLint
