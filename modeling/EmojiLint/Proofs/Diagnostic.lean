import EmojiLint.Proofs.Emoji.Tokenization
import EmojiLint.Check
import Mathlib.Data.String.Basic

/-!
# Findings in order

The findings of one document stand one after the other.  Those of several files are sorted by file
and then by where they start.  Findings that differ in this are sorted in one way only, so that
nothing depends on the order in which they were found, and the findings of one file are found again
among the others.

* `inOrder_diagnose` — the findings of one document.
* `Diagnostic.le_iff` — the order of the findings of several files.
* `Findings.pairwise_sort` — sorted findings are in this order.
* `Findings.Apart` — no two findings are of the same file and start at the same place.
* `Findings.sort_eq_of_perm` — findings apart are sorted in one way only.
* `Findings.filter_sort` — of sorted findings, some are found in their own order.
-/

set_option autoImplicit false

open Std

namespace EmojiLint

/-! ## One document -/

theorem Span.start_lt_stop {s : Span} (h : s.isEmpty = false) : s.start < s.stop := by
  rw [isEmpty, beq_eq_false_iff_ne] at h
  rw [stop]
  omega

/-- The findings of one text, each behind the one before it and none of them empty. -/
structure Findings.InOrder (fs : Findings) : Prop where
  nonempty : ∀ d ∈ fs, d.span.isEmpty = false
  ordered : fs.Pairwise fun d e => d.span.stop ≤ e.span.start

/-- Any two findings share no byte, and both of them hold one. -/
theorem Findings.InOrder.pairwise {fs : Findings} (h : InOrder fs) : fs.Pairwise fun d e =>
    d.span.start < d.span.stop ∧ d.span.stop ≤ e.span.start ∧ e.span.start < e.span.stop :=
  h.ordered.imp_of_mem fun hd he hle =>
    ⟨Span.start_lt_stop (h.nonempty _ hd), hle, Span.start_lt_stop (h.nonempty _ he)⟩

/-- **The emoji of a document are reported one after the other.** -/
theorem inOrder_diagnose (settings : Settings) (file : Option String) (text language : String) :
    Findings.InOrder (diagnose settings file text language) := by
  have hfind := Emoji.isTokenization_spansFrom 0 text.toList
  constructor
  · intro d hd
    obtain ⟨s, hs, rfl⟩ := List.mem_map.1 hd
    have hpos := hfind.nonempty s (List.mem_filter.1 hs).1
    exact beq_eq_false_iff_ne.2 (Nat.pos_iff_ne_zero.1 hpos)
  · exact List.pairwise_map.2 ((hfind.ordered.filter _).imp fun hst => hst.2)

/-! ## Several files -/

namespace Diagnostic

variable {d e f : Diagnostic}

/-- The diagnostics have the same place: the same file, and there the same start. -/
def AtSamePlace (d e : Diagnostic) : Prop :=
  d.file = e.file ∧ d.span.start = e.span.start

theorem AtSamePlace.symm (h : AtSamePlace d e) : AtSamePlace e d :=
  ⟨h.1.symm, h.2.symm⟩

/-- By file and then by start. -/
theorem le_eq (d e : Diagnostic) :
    d.le e = (compareLex (compareOn file) (compareOn fun d => d.span.start) d e).isLE := by
  rw [le, compareLex, compareOn, compareOn]
  cases compare d.file e.file with
  | lt | gt => rfl
  | eq => rw [Ordering.then, Bool.eq_iff_iff, decide_eq_true_eq, Nat.isLE_compare]

theorem le_trans (hde : d.le e = true) (hef : e.le f = true) : d.le f = true := by
  rw [le_eq] at *
  exact TransCmp.isLE_trans hde hef

theorem le_total (d e : Diagnostic) : (d.le e || e.le d) = true := by
  have hswap : compareLex (compareOn file) (compareOn fun d => d.span.start) e d =
      (compareLex (compareOn file) (compareOn fun d => d.span.start) d e).swap :=
    OrientedCmp.eq_swap
  rw [le_eq, le_eq, hswap]
  cases compareLex (compareOn file) (compareOn fun d => d.span.start) d e with
  | lt | eq | gt => rfl

/-- **Diagnostics are ordered by file, and those of one file by start.** -/
theorem le_iff : d.le e = true ↔
    compare d.file e.file = .lt ∨ d.file = e.file ∧ d.span.start ≤ e.span.start := by
  rw [le]
  cases hfile : compare d.file e.file with
  | lt => simp
  | gt =>
    refine iff_of_false Bool.false_ne_true ?_
    rintro (h | ⟨heq, -⟩)
    · cases h
    · rw [heq, compare_self] at hfile
      cases hfile
  | eq =>
    have heq := LawfulEqCmp.eq_of_compare hfile
    simp [heq]

theorem atSamePlace_of_le (hde : d.le e = true) (hed : e.le d = true) : AtSamePlace d e := by
  rw [le_iff] at hde hed
  rcases hde with hlt | ⟨hfile, hle⟩
  · rcases hed with hgt | ⟨hfile, -⟩
    · have hswap : compare d.file e.file = (compare e.file d.file).swap := OrientedCmp.eq_swap
      rw [hswap, hgt] at hlt
      cases hlt
    · rw [hfile, compare_self] at hlt
      cases hlt
  · rcases hed with hgt | ⟨-, hge⟩
    · rw [hfile, compare_self] at hgt
      cases hgt
    · exact ⟨hfile, Nat.le_antisymm hle hge⟩

end Diagnostic

namespace Findings

open Diagnostic (AtSamePlace)

variable {fs others : Findings} {d : Diagnostic}

theorem perm_sort (fs : Findings) : fs.sort.Perm fs :=
  List.mergeSort_perm _ _

theorem mem_sort : d ∈ fs.sort ↔ d ∈ fs :=
  fs.perm_sort.mem_iff

theorem pairwise_sort (fs : Findings) : fs.sort.Pairwise fun d e => d.le e = true :=
  @List.pairwise_mergeSort _ Diagnostic.le (fun _ _ _ => Diagnostic.le_trans) Diagnostic.le_total fs

/-- No two findings have the same place. -/
def Apart (fs : Findings) : Prop :=
  fs.Pairwise fun d e => ¬ AtSamePlace d e

theorem Apart.perm (h : Apart fs) (hperm : others.Perm fs) : Apart others :=
  (hperm.pairwise_iff fun hde hed => hde hed.symm).2 h

theorem Apart.of_sublist (h : Apart fs) (hsublist : others.Sublist fs) : Apart others :=
  List.Pairwise.sublist hsublist h

/-- Findings apart are told by their places. -/
theorem Apart.eq_of_atSamePlace (h : Apart fs) {e : Diagnostic} (hd : d ∈ fs) (he : e ∈ fs)
    (hplace : AtSamePlace d e) : d = e := by
  have hsymm : Std.Symm fun d e : Diagnostic => ¬ AtSamePlace d e :=
    ⟨fun _ _ hde hed => hde hed.symm⟩
  by_contra hne
  exact h.forall hd he hne hplace

/-- **Findings apart are in order in one way only.** -/
theorem Apart.eq_of_perm (h : Apart fs) (hfs : fs.Pairwise fun d e => d.le e = true)
    (hothers : others.Pairwise fun d e => d.le e = true) (hperm : others.Perm fs) : others = fs :=
  List.Perm.eq_of_pairwise
    (fun _ _ hd he hde hed => h.eq_of_atSamePlace (hperm.mem_iff.1 hd) he
      (Diagnostic.atSamePlace_of_le hde hed)) hothers hfs hperm

/-- **Findings apart are sorted in one way only**, in whatever order they were found. -/
theorem sort_eq_of_perm (h : Apart fs) (hperm : others.Perm fs) : others.sort = fs.sort :=
  (h.perm fs.perm_sort).eq_of_perm fs.pairwise_sort others.pairwise_sort
    (others.perm_sort.trans (hperm.trans fs.perm_sort.symm))

/-- **Of sorted findings, some are found in their own order.** -/
theorem filter_sort (h : Apart fs) (p : Diagnostic → Bool)
    (hsorted : (fs.filter p).Pairwise fun d e => d.le e = true) :
    fs.sort.filter p = fs.filter p :=
  (h.of_sublist List.filter_sublist).eq_of_perm hsorted (fs.pairwise_sort.filter p)
    (fs.perm_sort.filter p)

end Findings

end EmojiLint
