import EmojiLint.Ignore.Ranges
import EmojiLint.Proofs.Search
import Mathlib.Tactic.SplitIfs

/-!
# What merging keeps

Fusing ranges changes how a set of offsets is cut into ranges, never the set.  The ranges that come
out are `Separated`, so that halving finds the one that holds an offset.

* `covers_merge` — the merged ranges hold the same offsets as the ranges they are made of.
* `separated_merge` — each merged range ends before the next one begins, with a gap between them.
* `contains_merge_iff` — an offset is looked up correctly.
* `exists_start_of_mem_merge`, `exists_stop_of_mem_merge` — merging makes no new ends.
-/

set_option autoImplicit false

namespace EmojiLint
namespace Ignore

/-- Some range of the list holds the offset. -/
def Covers (rs : List Range) (offset : Nat) : Prop :=
  ∃ r ∈ rs, r.contains offset = true

/-- No range ends before it begins. -/
def Forward (rs : List Range) : Prop :=
  ∀ r ∈ rs, r.start ≤ r.stop

/-- Each range ends before the next one begins, and does not touch it. -/
def Separated (rs : List Range) : Prop :=
  rs.Pairwise fun r s => r.stop < s.start

theorem not_covers_nil (offset : Nat) : ¬ Covers [] offset := by
  rintro ⟨r, hr, _⟩
  exact absurd hr List.not_mem_nil

theorem covers_cons {r : Range} {rs : List Range} {offset : Nat} :
    Covers (r :: rs) offset ↔ (r.start ≤ offset ∧ offset < r.stop) ∨ Covers rs offset := by
  simp only [Covers, List.mem_cons, exists_eq_or_imp, Range.contains_iff]

theorem covers_congr {rs ss : List Range} (h : ∀ r, r ∈ rs ↔ r ∈ ss) (offset : Nat) :
    Covers rs offset ↔ Covers ss offset := by
  simp only [Covers, h]

/-! ## Sorting -/

theorem mem_sort {r : Range} {rs : List Range} : r ∈ sort rs ↔ r ∈ rs := by
  rw [sort]
  exact (List.mergeSort_perm rs Range.le).mem_iff

theorem le_iff {r s : Range} :
    r.le s = true ↔ r.start < s.start ∨ (r.start = s.start ∧ r.stop ≤ s.stop) := by
  simp only [Range.le, Bool.or_eq_true, Bool.and_eq_true, decide_eq_true_eq, beq_iff_eq]

theorem pairwise_start_sort (rs : List Range) :
    (sort rs).Pairwise fun r s => r.start ≤ s.start := by
  have hsorted : (sort rs).Pairwise fun r s => r.le s = true := by
    refine List.pairwise_mergeSort (fun a b c hab hbc => ?_) (fun a b => ?_) rs
    · rw [le_iff] at hab hbc ⊢
      omega
    · rw [Bool.or_eq_true, le_iff, le_iff]
      omega
  refine hsorted.imp fun hle => ?_
  rw [le_iff] at hle
  omega

/-! ## Fusing -/

/-- What is known of the ranges still to be fused into `current`: they are sorted by their starts,
none begins before it, and none ends before it begins. -/
structure Fusible (current : Range) (rest : List Range) : Prop where
  sorted : rest.Pairwise fun r s => r.start ≤ s.start
  start_le : ∀ r ∈ rest, current.start ≤ r.start
  forward : Forward (current :: rest)

namespace Fusible

variable {current next : Range} {rest : List Range}

theorem of_cons (h : Fusible current (next :: rest)) : Fusible next rest where
  sorted := h.sorted.tail
  start_le _ hr := List.rel_of_pairwise_cons h.sorted hr
  forward r hr := h.forward r (List.mem_cons_of_mem current hr)

/-- The two ranges made one still come before the others. -/
theorem fused (h : Fusible current (next :: rest)) :
    Fusible ⟨current.start, max current.stop next.stop⟩ rest where
  sorted := h.sorted.tail
  start_le r hr := h.start_le r (List.mem_cons_of_mem next hr)
  forward r hr := by
    rcases List.mem_cons.1 hr with rfl | hr
    · have := h.forward current List.mem_cons_self
      show current.start ≤ max current.stop next.stop
      omega
    · exact h.forward r (List.mem_cons_of_mem _ (List.mem_cons_of_mem _ hr))

end Fusible

theorem start_le_of_mem_fuse {current : Range} {rest : List Range} (h : Fusible current rest)
    {r : Range} (hr : r ∈ fuse current rest) : current.start ≤ r.start := by
  fun_induction fuse current rest with
  | case1 current =>
    rw [List.mem_singleton] at hr
    exact Nat.le_of_eq (by rw [hr])
  | case2 current next rest hle ih => exact ih h.fused hr
  | case3 current next rest hle ih =>
    rcases List.mem_cons.1 hr with rfl | hr
    · exact Nat.le_refl _
    · exact Nat.le_trans (h.start_le next List.mem_cons_self) (ih h.of_cons hr)

/-- Fusing does not change which offsets are held. -/
theorem covers_fuse {current : Range} {rest : List Range} (h : Fusible current rest)
    (offset : Nat) : Covers (fuse current rest) offset ↔ Covers (current :: rest) offset := by
  fun_induction fuse current rest with
  | case1 current => exact Iff.rfl
  | case2 current next rest hle ih =>
    have hstart := h.start_le next List.mem_cons_self
    have hcurrent := h.forward current List.mem_cons_self
    have hnext := h.forward next (List.mem_cons_of_mem _ List.mem_cons_self)
    rw [ih h.fused, covers_cons, covers_cons, covers_cons, ← or_assoc]
    refine or_congr_left ?_
    show current.start ≤ offset ∧ offset < max current.stop next.stop ↔ _
    omega
  | case3 current next rest hle ih => rw [covers_cons, ih h.of_cons, ← covers_cons]

theorem separated_fuse {current : Range} {rest : List Range} (h : Fusible current rest) :
    Separated (fuse current rest) := by
  fun_induction fuse current rest with
  | case1 current => exact List.pairwise_singleton _ _
  | case2 current next rest hle ih => exact ih h.fused
  | case3 current next rest hle ih =>
    refine List.Pairwise.cons (fun r hr => ?_) (ih h.of_cons)
    have := start_le_of_mem_fuse h.of_cons hr
    omega

theorem forward_fuse {current : Range} {rest : List Range} (h : Fusible current rest) :
    Forward (fuse current rest) := by
  fun_induction fuse current rest with
  | case1 current => exact h.forward
  | case2 current next rest hle ih => exact ih h.fused
  | case3 current next rest hle ih =>
    intro r hr
    rcases List.mem_cons.1 hr with rfl | hr
    · exact h.forward r List.mem_cons_self
    · exact ih h.of_cons r hr

/-- Every end of a fused range was an end before. -/
theorem ends_of_mem_fuse {current : Range} {rest : List Range} {r : Range}
    (hr : r ∈ fuse current rest) :
    (∃ s ∈ current :: rest, s.start = r.start) ∧ ∃ s ∈ current :: rest, s.stop = r.stop := by
  fun_induction fuse current rest with
  | case1 current => exact ⟨⟨r, hr, rfl⟩, r, hr, rfl⟩
  | case2 current next rest hle ih =>
    obtain ⟨⟨s, hs, hstart⟩, t, ht, hstop⟩ := ih hr
    refine ⟨?_, ?_⟩
    · rcases List.mem_cons.1 hs with rfl | hs
      · exact ⟨current, List.mem_cons_self, hstart⟩
      · exact ⟨s, List.mem_cons_of_mem _ (List.mem_cons_of_mem _ hs), hstart⟩
    · rcases List.mem_cons.1 ht with rfl | ht
      · rcases Nat.le_total current.stop next.stop with hmax | hmax
        · exact ⟨next, by simp, by rw [← hstop]; exact (Nat.max_eq_right hmax).symm⟩
        · exact ⟨current, by simp, by rw [← hstop]; exact (Nat.max_eq_left hmax).symm⟩
      · exact ⟨t, List.mem_cons_of_mem _ (List.mem_cons_of_mem _ ht), hstop⟩
  | case3 current next rest hle ih =>
    rcases List.mem_cons.1 hr with rfl | hr
    · exact ⟨⟨r, List.mem_cons_self, rfl⟩, r, List.mem_cons_self, rfl⟩
    · obtain ⟨⟨s, hs, hstart⟩, t, ht, hstop⟩ := ih hr
      exact ⟨⟨s, List.mem_cons_of_mem _ hs, hstart⟩, t, List.mem_cons_of_mem _ ht, hstop⟩

/-! ## Merging -/

theorem merge_nil : merge [] = .empty := by
  rw [merge, sort, List.mergeSort_nil]

/-- Sorted ranges are ready to be fused. -/
theorem fusible_of_sort_eq {rs rest : List Range} {first : Range} (h : Forward rs)
    (hsort : sort rs = first :: rest) : Fusible first rest := by
  have hpairwise := pairwise_start_sort rs
  rw [hsort] at hpairwise
  refine ⟨hpairwise.tail, fun r hr => List.rel_of_pairwise_cons hpairwise hr, fun r hr => ?_⟩
  rw [← hsort, mem_sort] at hr
  exact h r hr

/-- **The merged ranges hold the same offsets.** -/
theorem covers_merge {rs : List Range} (h : Forward rs) (offset : Nat) :
    Covers (merge rs).toList offset ↔ Covers rs offset := by
  have hmem : Covers (sort rs) offset ↔ Covers rs offset := covers_congr (fun _ => mem_sort) offset
  rw [← hmem, merge]
  cases hsort : sort rs with
  | nil => exact Iff.rfl
  | cons first rest => exact covers_fuse (fusible_of_sort_eq h hsort) offset

/-- **Between two merged ranges there is a gap.** -/
theorem separated_merge {rs : List Range} (h : Forward rs) : Separated (merge rs).toList := by
  rw [merge]
  cases hsort : sort rs with
  | nil => exact List.Pairwise.nil
  | cons first rest => exact separated_fuse (fusible_of_sort_eq h hsort)

theorem forward_merge {rs : List Range} (h : Forward rs) : Forward (merge rs).toList := by
  rw [merge]
  cases hsort : sort rs with
  | nil => exact fun r hr => absurd hr List.not_mem_nil
  | cons first rest => exact forward_fuse (fusible_of_sort_eq h hsort)

theorem ends_of_mem_merge {rs : List Range} {r : Range} (hr : r ∈ (merge rs).toList) :
    (∃ s ∈ rs, s.start = r.start) ∧ ∃ s ∈ rs, s.stop = r.stop := by
  rw [merge] at hr
  cases hsort : sort rs with
  | nil =>
    rw [hsort] at hr
    exact absurd hr List.not_mem_nil
  | cons first rest =>
    rw [hsort] at hr
    obtain ⟨⟨s, hs, hstart⟩, t, ht, hstop⟩ := ends_of_mem_fuse hr
    rw [← hsort, mem_sort] at hs ht
    exact ⟨⟨s, hs, hstart⟩, t, ht, hstop⟩

theorem exists_start_of_mem_merge {rs : List Range} {r : Range} (hr : r ∈ (merge rs).toList) :
    ∃ s ∈ rs, s.start = r.start :=
  (ends_of_mem_merge hr).1

theorem exists_stop_of_mem_merge {rs : List Range} {r : Range} (hr : r ∈ (merge rs).toList) :
    ∃ s ∈ rs, s.stop = r.stop :=
  (ends_of_mem_merge hr).2

/-! ## Looking up an offset -/

namespace Merged

theorem locate_eq_eq {offset : Nat} {r : Range} :
    locate offset r = .eq ↔ r.contains offset = true := by
  rw [Range.contains_iff, locate]
  split_ifs with hgt hlt
  · simpa using fun h => absurd hgt (Nat.not_lt_of_le h)
  · simpa using fun _ => hlt
  · simpa using ⟨Nat.le_of_not_lt hgt, Nat.lt_of_not_le hlt⟩

theorem locate_eq_gt {offset : Nat} {r : Range} : locate offset r = .gt ↔ offset < r.start := by
  rw [locate]
  split_ifs with hgt hlt
  · simpa using hgt
  · simpa using hgt
  · simpa using hgt

theorem locate_eq_lt {offset : Nat} {r : Range} :
    locate offset r = .lt ↔ r.start ≤ offset ∧ r.stop ≤ offset := by
  rw [locate]
  split_ifs with hgt hlt
  · simpa using fun h => absurd hgt (Nat.not_lt_of_le h)
  · simpa using ⟨Nat.le_of_not_lt hgt, hlt⟩
  · simpa using fun _ => Nat.lt_of_not_le hlt

variable {m : Merged}

/-- Along separated ranges an offset is located without stepping back. -/
theorem sorted_locate (hforward : Forward m.toList) (hsep : Separated m.toList) (offset : Nat) :
    Search.Sorted (locate offset) m.ranges := by
  have hmem : ∀ (i : Nat) (hi : i < m.ranges.size), m.ranges[i].start ≤ m.ranges[i].stop :=
    fun i hi => hforward _ (Array.getElem_mem_toList hi)
  have hgap : ∀ (i j : Nat) (hj : j < m.ranges.size) (hij : i < j),
      (m.ranges[i]).stop < m.ranges[j].start := by
    intro i j hj hij
    exact List.pairwise_iff_getElem.1 hsep i j (by simp [toList]; omega) (by simpa [toList]) hij
  refine ⟨fun i j hj hij h => ?_, fun i j hj hij h => ?_⟩
  · rcases Nat.eq_or_lt_of_le hij with rfl | hlt
    · exact h
    · have := hgap i j hj hlt
      have := hmem i (by omega)
      rw [locate_eq_lt] at h ⊢
      omega
  · rcases Nat.eq_or_lt_of_le hij with rfl | hlt
    · exact h
    · have := hgap i j hj hlt
      have := hmem i (by omega)
      rw [locate_eq_gt] at h ⊢
      omega

/-- **In separated ranges an offset is looked up correctly.** -/
theorem contains_iff_covers (hforward : Forward m.toList) (hsep : Separated m.toList)
    (offset : Nat) : m.contains offset = true ↔ Covers m.toList offset := by
  have hrun := Search.exists_run_eq_found_iff (sorted_locate hforward hsep offset)
  have hcovers : (∃ r ∈ m.ranges, locate offset r = .eq) ↔ Covers m.toList offset := by
    simp only [Covers, toList, Array.mem_toList_iff, locate_eq_eq]
  rw [← hcovers, ← hrun, contains]
  cases Search.run (locate offset) m.ranges with
  | found i => exact ⟨fun _ => ⟨i, rfl⟩, fun _ => rfl⟩
  | missing i =>
    refine ⟨fun h => absurd h (by simp), ?_⟩
    rintro ⟨_, h⟩
    cases h

theorem not_contains_empty (offset : Nat) : ¬ empty.contains offset = true := by
  have hforward : Forward empty.toList := fun _ hr => absurd hr List.not_mem_nil
  have hsep : Separated empty.toList := List.Pairwise.nil
  rw [contains_iff_covers hforward hsep]
  exact not_covers_nil offset

end Merged

/-- **After merging, an offset is looked up correctly.** -/
theorem contains_merge_iff {rs : List Range} (h : Forward rs) (offset : Nat) :
    (merge rs).contains offset = true ↔ Covers rs offset := by
  rw [Merged.contains_iff_covers (forward_merge h) (separated_merge h), covers_merge h]

end Ignore
end EmojiLint
