import EmojiLint.Proofs.Ignore.Ranges
import Mathlib.Tactic.ByContra

/-!
# One list of ranges for each set of offsets

A set of offsets can be cut into ranges in many ways, but only one of them is `Separated` and has no
empty range: the first range begins at the least offset of the set, it ends at the first offset that
is missing, and the others cover what lies behind (`eq_of_covers`).  Since merging leaves such a
list, its result depends on the set alone.

* `merge_toList` — merging again changes nothing.
* `countP_contains_of_covers` — separated ranges hold an offset at most once.
* `eq_of_covers`, `merge_eq_merge_iff` — lists that hold the same offsets are merged to the same
  list.
* `toList_merge_append`, `toList_merge_map_shift` — lists with a gap between them are merged one by
  one, wherever they lie.
* `merge_canonical` — all that merging guarantees.
-/

set_option autoImplicit false

namespace EmojiLint
namespace Ignore

/-- No range is empty. -/
def Solid (rs : List Range) : Prop :=
  ∀ r ∈ rs, r.start < r.stop

variable {r : Range} {rs ss : List Range} {offset : Nat}

theorem Solid.forward (h : Solid rs) : Forward rs :=
  fun r hr => Nat.le_of_lt (h r hr)

theorem Solid.tail (h : Solid (r :: rs)) : Solid rs :=
  fun s hs => h s (List.mem_cons_of_mem r hs)

/-- The first range that is not empty holds an offset. -/
theorem Solid.covers_start (h : Solid (r :: rs)) : Covers (r :: rs) r.start :=
  covers_cons.2 (Or.inl ⟨Nat.le_refl _, h r List.mem_cons_self⟩)

/-! ## Merging keeps ranges as they are -/

theorem solid_fuse {current : Range} {rest : List Range} (h : Solid (current :: rest)) :
    Solid (fuse current rest) := by
  fun_induction fuse current rest with
  | case1 current => exact h
  | case2 current next rest hle ih =>
    refine ih fun r hr => ?_
    rcases List.mem_cons.1 hr with rfl | hr
    · have := h current List.mem_cons_self
      show current.start < max current.stop next.stop
      omega
    · exact h.tail.tail r hr
  | case3 current next rest hle ih =>
    intro r hr
    rcases List.mem_cons.1 hr with rfl | hr
    · exact h r List.mem_cons_self
    · exact ih h.tail r hr

/-- Merging makes no empty ranges. -/
theorem solid_merge (h : Solid rs) : Solid (merge rs).toList := by
  rw [merge]
  cases hsort : sort rs with
  | nil => exact fun r hr => absurd hr List.not_mem_nil
  | cons first rest =>
    refine solid_fuse fun r hr => ?_
    rw [← hsort, mem_sort] at hr
    exact h r hr

theorem fuse_of_separated {current : Range} {rest : List Range}
    (h : Separated (current :: rest)) : fuse current rest = current :: rest := by
  induction rest generalizing current with
  | nil => rfl
  | cons next rest ih =>
    have hgap : current.stop < next.start := List.rel_of_pairwise_cons h List.mem_cons_self
    rw [fuse, if_neg (Nat.not_le_of_lt hgap), ih h.tail]

theorem sort_of_separated (hforward : Forward rs) (hsep : Separated rs) : sort rs = rs := by
  refine List.mergeSort_of_pairwise (hsep.imp_of_mem fun hr hs hgap => ?_)
  rw [le_iff]
  have := hforward _ hr
  omega

/-- Separated ranges have nothing to fuse. -/
theorem toList_merge_of_separated (hforward : Forward rs) (hsep : Separated rs) :
    (merge rs).toList = rs := by
  rw [merge, sort_of_separated hforward hsep]
  cases rs with
  | nil => rfl
  | cons first rest => exact fuse_of_separated hsep

theorem Merged.ext_toList {m n : Merged} (h : m.toList = n.toList) : m = n :=
  congrArg Merged.mk (Array.toList_inj.1 h)

/-- **Merging again changes nothing.** -/
theorem merge_toList (h : Forward rs) : merge (merge rs).toList = merge rs :=
  Merged.ext_toList (toList_merge_of_separated (forward_merge h) (separated_merge h))

/-! ## What separated ranges hold -/

theorem Separated.tail (h : Separated (r :: rs)) : Separated rs :=
  List.Pairwise.tail h

theorem Separated.stop_lt_of_covers (h : Separated (r :: rs)) (hcovers : Covers rs offset) :
    r.stop < offset := by
  obtain ⟨s, hs, hcontains⟩ := hcovers
  have hgap : r.stop < s.start := List.rel_of_pairwise_cons h hs
  rw [Range.contains_iff] at hcontains
  omega

/-- **Separated ranges hold an offset at most once.** -/
theorem countP_contains_of_covers (h : Separated rs) (hcovers : Covers rs offset) :
    rs.countP (·.contains offset) = 1 := by
  induction rs with
  | nil => exact absurd hcovers (not_covers_nil offset)
  | cons r rs ih =>
    by_cases hr : r.contains offset = true
    · have hnone : rs.countP (·.contains offset) = 0 := by
        rw [List.countP_eq_zero]
        intro s hs hcontains
        have := h.stop_lt_of_covers ⟨s, hs, hcontains⟩
        rw [Range.contains_iff] at hr
        omega
      rw [List.countP_cons, hnone, if_pos hr]
    · rw [List.countP_cons, if_neg hr]
      refine ih h.tail ?_
      rw [covers_cons, ← Range.contains_iff] at hcovers
      exact hcovers.resolve_left hr

/-- No offset lies before the first range. -/
theorem Separated.start_le_of_covers (h : Separated (r :: rs)) (hsolid : Solid (r :: rs))
    (hcovers : Covers (r :: rs) offset) : r.start ≤ offset := by
  rcases covers_cons.1 hcovers with ⟨hle, _⟩ | hrest
  · exact hle
  · have := h.stop_lt_of_covers hrest
    have := hsolid r List.mem_cons_self
    omega

/-- The end of the first range is in none of the ranges. -/
theorem Separated.not_covers_stop (h : Separated (r :: rs)) : ¬ Covers (r :: rs) r.stop := by
  intro hcovers
  rcases covers_cons.1 hcovers with ⟨_, hlt⟩ | hrest
  · exact Nat.lt_irrefl _ hlt
  · exact Nat.lt_irrefl _ (h.stop_lt_of_covers hrest)

/-- What the other ranges hold lies behind the end of the first one. -/
theorem Separated.covers_tail_iff (h : Separated (r :: rs)) :
    Covers rs offset ↔ Covers (r :: rs) offset ∧ r.stop < offset := by
  refine ⟨fun hrest => ⟨covers_cons.2 (Or.inr hrest), h.stop_lt_of_covers hrest⟩, ?_⟩
  rintro ⟨hcovers, hlt⟩
  refine (covers_cons.1 hcovers).resolve_left ?_
  rintro ⟨_, hlt'⟩
  omega

/-- The first range ends no later than that of another list with the same start and the same
offsets. -/
theorem stop_le_of_covers {s : Range} (hr : Separated (r :: rs)) (hsolid : Solid (r :: rs))
    (hstart : r.start = s.start) (h : Covers (s :: ss) r.stop → Covers (r :: rs) r.stop) :
    s.stop ≤ r.stop := by
  by_contra hlt
  refine hr.not_covers_stop (h (covers_cons.2 (Or.inl ⟨?_, by omega⟩)))
  have := hsolid r List.mem_cons_self
  omega

/-- **A set of offsets is cut in one way only** into separated ranges that are not empty. -/
theorem eq_of_covers (hr : Separated rs) (hs : Separated ss) (hrs : Solid rs) (hss : Solid ss)
    (h : ∀ offset, Covers rs offset ↔ Covers ss offset) : rs = ss := by
  induction rs generalizing ss with
  | nil =>
    cases ss with
    | nil => rfl
    | cons s ss => exact absurd ((h s.start).2 hss.covers_start) (not_covers_nil _)
  | cons r rs ih =>
    cases ss with
    | nil => exact absurd ((h r.start).1 hrs.covers_start) (not_covers_nil _)
    | cons s ss =>
      have hstart : r.start = s.start :=
        Nat.le_antisymm (hr.start_le_of_covers hrs ((h s.start).2 hss.covers_start))
          (hs.start_le_of_covers hss ((h r.start).1 hrs.covers_start))
      have hstop : r.stop = s.stop :=
        Nat.le_antisymm (stop_le_of_covers hs hss hstart.symm (h s.stop).1)
          (stop_le_of_covers hr hrs hstart (h r.stop).2)
      have htail : ∀ offset, Covers rs offset ↔ Covers ss offset := by
        intro offset
        rw [hr.covers_tail_iff, hs.covers_tail_iff, h offset, hstop]
      obtain rfl : r = s := by
        cases r
        cases s
        simp_all
      rw [ih hr.tail hs.tail hrs.tail hss.tail htail]

/-- **Merging depends on the offsets alone.** -/
theorem merge_eq_merge_iff (hrs : Solid rs) (hss : Solid ss) :
    merge rs = merge ss ↔ ∀ offset, Covers rs offset ↔ Covers ss offset := by
  refine ⟨fun h offset => ?_, fun h => Merged.ext_toList ?_⟩
  · rw [← covers_merge hrs.forward, ← covers_merge hss.forward, h]
  · refine eq_of_covers (separated_merge hrs.forward) (separated_merge hss.forward)
      (solid_merge hrs) (solid_merge hss) fun offset => ?_
    rw [covers_merge hrs.forward, covers_merge hss.forward, h]

/-! ## Merging parts -/

theorem covers_append : Covers (rs ++ ss) offset ↔ Covers rs offset ∨ Covers ss offset := by
  simp only [Covers, List.mem_append, or_and_right, exists_or]

theorem covers_map_shift {n : Nat} :
    Covers (rs.map (·.shift n)) offset ↔ n ≤ offset ∧ Covers rs (offset - n) := by
  constructor
  · rintro ⟨r, hr, hcontains⟩
    obtain ⟨s, hs, rfl⟩ := List.mem_map.1 hr
    simp only [Range.contains_iff, Range.shift] at hcontains
    refine ⟨by omega, s, hs, ?_⟩
    rw [Range.contains_iff]
    omega
  · rintro ⟨hle, s, hs, hcontains⟩
    refine ⟨_, List.mem_map_of_mem hs, ?_⟩
    simp only [Range.contains_iff, Range.shift] at hcontains ⊢
    omega

/-- **Two lists with a gap between them** can be merged one by one. -/
theorem toList_merge_append (hrs : Solid rs) (hss : Solid ss)
    (hgap : ∀ r ∈ rs, ∀ s ∈ ss, r.stop < s.start) :
    (merge (rs ++ ss)).toList = (merge rs).toList ++ (merge ss).toList := by
  have hboth : Solid (rs ++ ss) := fun r hr => (List.mem_append.1 hr).elim (hrs r) (hss r)
  refine eq_of_covers (separated_merge hboth.forward) ?_ (solid_merge hboth) ?_ fun offset => ?_
  · refine List.pairwise_append.2
      ⟨separated_merge hrs.forward, separated_merge hss.forward, fun r hr s hs => ?_⟩
    obtain ⟨r', hr', hstop⟩ := exists_stop_of_mem_merge hr
    obtain ⟨s', hs', hstart⟩ := exists_start_of_mem_merge hs
    rw [← hstop, ← hstart]
    exact hgap r' hr' s' hs'
  · exact fun r hr => (List.mem_append.1 hr).elim (solid_merge hrs r) (solid_merge hss r)
  · rw [covers_append, covers_merge hboth.forward, covers_merge hrs.forward,
      covers_merge hss.forward, covers_append]

/-- Merging does not depend on where the ranges lie. -/
theorem toList_merge_map_shift (hrs : Solid rs) (n : Nat) :
    (merge (rs.map (·.shift n))).toList = (merge rs).toList.map (·.shift n) := by
  have hshift : ∀ {ss : List Range}, Solid ss → Solid (ss.map (·.shift n)) := by
    intro ss hss r hr
    obtain ⟨s, hs, rfl⟩ := List.mem_map.1 hr
    exact Nat.add_lt_add_right (hss s hs) n
  refine eq_of_covers (separated_merge (hshift hrs).forward) ?_ (solid_merge (hshift hrs))
    (hshift (solid_merge hrs)) fun offset => ?_
  · exact List.pairwise_map.2 ((separated_merge hrs.forward).imp fun hgap =>
      Nat.add_lt_add_right hgap n)
  · rw [covers_map_shift, covers_merge (hshift hrs).forward, covers_merge hrs.forward,
      covers_map_shift]

/-! ## All that merging guarantees -/

/-- **Merged ranges are the canonical form of the offsets that they hold.**  An offset is found in
them exactly when some range held it before, and then it lies in exactly one of them; they are
separated; merging them again changes nothing; and lists without empty ranges are merged to the same
list exactly when they hold the same offsets. -/
theorem merge_canonical (h : Forward rs) :
    (∀ offset, ((merge rs).contains offset = true ↔ Covers rs offset) ∧
      (Covers rs offset → (merge rs).toList.countP (·.contains offset) = 1)) ∧
    Separated (merge rs).toList ∧ merge (merge rs).toList = merge rs ∧
    ∀ ss, Solid rs → Solid ss →
      (merge rs = merge ss ↔ ∀ offset, Covers rs offset ↔ Covers ss offset) := by
  refine ⟨fun offset => ⟨contains_merge_iff h offset, fun hcovers => ?_⟩, separated_merge h,
    merge_toList h, fun ss => merge_eq_merge_iff⟩
  rw [← covers_merge h] at hcovers
  exact countP_contains_of_covers (separated_merge h) hcovers

/-- Ranges that touch, one inside another, one twice and one empty; and, without the empty one, the
same offsets cut in another way. -/
theorem merge_canonical_touching :
    Forward [⟨4, 6⟩, ⟨9, 9⟩, ⟨0, 4⟩, ⟨2, 3⟩, ⟨0, 4⟩] ∧
    (merge [⟨4, 6⟩, ⟨9, 9⟩, ⟨0, 4⟩, ⟨2, 3⟩, ⟨0, 4⟩]).contains 4 = true ∧
    (merge [⟨4, 6⟩, ⟨9, 9⟩, ⟨0, 4⟩, ⟨2, 3⟩, ⟨0, 4⟩]).toList.countP (·.contains 4) = 1 ∧
    merge [⟨4, 6⟩, ⟨0, 4⟩, ⟨2, 3⟩] = merge [⟨0, 5⟩, ⟨3, 6⟩] := by
  have hforward : Forward [⟨4, 6⟩, ⟨9, 9⟩, ⟨0, 4⟩, ⟨2, 3⟩, ⟨0, 4⟩] := by simp [Forward]
  have hcovers : Covers [⟨4, 6⟩, ⟨9, 9⟩, ⟨0, 4⟩, ⟨2, 3⟩, ⟨0, 4⟩] 4 := ⟨⟨4, 6⟩, by decide⟩
  have hsolid : Solid [⟨4, 6⟩, ⟨0, 4⟩, ⟨2, 3⟩] := by simp [Solid]
  obtain ⟨hfound, _⟩ := merge_canonical hforward
  obtain ⟨_, _, _, hsame⟩ := merge_canonical hsolid.forward
  refine ⟨hforward, (hfound 4).1.2 hcovers, (hfound 4).2 hcovers, ?_⟩
  refine (hsame _ hsolid (by simp [Solid])).2 fun offset => ?_
  simp only [covers_cons, not_covers_nil, or_false]
  omega

end Ignore
end EmojiLint
