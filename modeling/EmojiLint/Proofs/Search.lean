import EmojiLint.Search

/-!
# Binary search finds what is there

A search by halving is right when the comparison is `Sorted` along the array: what stands before an
element that is too small is too small, and what stands behind one that is too large is too large.

* `exists_of_between_eq_found` — an element that is found compares equal.
* `compare_of_run_eq_missing` — when nothing is found, all elements before the place are too small
  and all others too large.
* `exists_run_eq_found_iff` — a search finds something exactly when some element compares equal.
-/

set_option autoImplicit false

namespace EmojiLint
namespace Search

variable {α : Type} {cmp : α → Ordering} {xs : Array α}

/-- The comparison does not step back along the array. -/
structure Sorted (cmp : α → Ordering) (xs : Array α) : Prop where
  lt : ∀ (i j : Nat) (hj : j < xs.size) (hij : i ≤ j), cmp xs[j] = .lt → cmp (xs[i]) = .lt
  gt : ∀ (i j : Nat) (hj : j < xs.size) (hij : i ≤ j), cmp (xs[i]) = .gt → cmp xs[j] = .gt

/-- **What is found compares equal.** -/
theorem exists_of_between_eq_found {lo hi i : Nat} {h : hi ≤ xs.size}
    (hfound : between cmp xs lo hi h = .found i) : ∃ hsize : i < xs.size, cmp xs[i] = .eq := by
  fun_induction between cmp xs lo hi h with
  | case1 lo hi h hlt mid hmid hsize heq =>
    rw [Search.found.injEq] at hfound
    exact hfound ▸ ⟨hsize, heq⟩
  | case2 lo hi h hlt mid hmid hsize heq ih => exact ih hfound
  | case3 lo hi h hlt mid hmid hsize heq ih => exact ih hfound
  | case4 lo hi h hlt => cases hfound

/-- What is known while the search narrows: everything before `lo` is too small, and everything from
`hi` on too large. -/
theorem compare_of_between_eq_missing (hsorted : Sorted cmp xs) {lo hi i : Nat} {h : hi ≤ xs.size}
    (hlo : lo ≤ hi) (hbefore : ∀ (j : Nat) (hj : j < xs.size), j < lo → cmp xs[j] = .lt)
    (hafter : ∀ (j : Nat) (hj : j < xs.size), hi ≤ j → cmp xs[j] = .gt)
    (hmissing : between cmp xs lo hi h = .missing i) :
    (∀ (j : Nat) (hj : j < xs.size), j < i → cmp xs[j] = .lt) ∧
      ∀ (j : Nat) (hj : j < xs.size), i ≤ j → cmp xs[j] = .gt := by
  fun_induction between cmp xs lo hi h with
  | case1 => cases hmissing
  | case2 lo hi h hlt mid hmid hsize heq ih =>
    refine ih (by omega) (fun j hj hjmid => ?_) hafter hmissing
    exact hsorted.lt j mid hsize (by omega) heq
  | case3 lo hi h hlt mid hmid hsize heq ih =>
    refine ih (by omega) hbefore (fun j hj hmidj => ?_) hmissing
    exact hsorted.gt mid j hj hmidj heq
  | case4 lo hi h hlt =>
    cases hmissing
    exact ⟨hbefore, fun j hj hij => hafter j hj (by omega)⟩

/-- **When nothing is found, the place where it would be divides the array.** -/
theorem compare_of_run_eq_missing (hsorted : Sorted cmp xs) {i : Nat}
    (hmissing : run cmp xs = .missing i) :
    (∀ (j : Nat) (hj : j < xs.size), j < i → cmp xs[j] = .lt) ∧
      ∀ (j : Nat) (hj : j < xs.size), i ≤ j → cmp xs[j] = .gt :=
  compare_of_between_eq_missing hsorted (Nat.zero_le _) (fun j _ hj => absurd hj j.not_lt_zero)
    (fun _ hj hsize => absurd hj (Nat.not_lt_of_le hsize)) hmissing

theorem le_of_between_eq_missing {lo hi i : Nat} {h : hi ≤ xs.size} (hlo : lo ≤ hi)
    (hmissing : between cmp xs lo hi h = .missing i) : i ≤ hi := by
  fun_induction between cmp xs lo hi h with
  | case1 => cases hmissing
  | case2 lo hi h hlt mid hmid hsize heq ih => exact ih hmid hmissing
  | case3 lo hi h hlt mid hmid hsize heq ih =>
    exact Nat.le_trans (ih (Nat.le_add_right _ _) hmissing) (Nat.le_of_lt hmid)
  | case4 lo hi h hlt =>
    cases hmissing
    exact hlo

/-- The place where nothing is found lies in the array or right behind it. -/
theorem le_size_of_run_eq_missing {i : Nat} (hmissing : run cmp xs = .missing i) : i ≤ xs.size :=
  le_of_between_eq_missing (Nat.zero_le _) hmissing

/-- **A search succeeds exactly when some element compares equal.** -/
theorem exists_run_eq_found_iff (hsorted : Sorted cmp xs) :
    (∃ i, run cmp xs = .found i) ↔ ∃ x ∈ xs, cmp x = .eq := by
  constructor
  · rintro ⟨i, hi⟩
    obtain ⟨hsize, heq⟩ := exists_of_between_eq_found hi
    exact ⟨xs[i], Array.getElem_mem hsize, heq⟩
  · rintro ⟨x, hx, heq⟩
    obtain ⟨j, hj, rfl⟩ := Array.mem_iff_getElem.1 hx
    cases hrun : run cmp xs with
    | found i => exact ⟨i, rfl⟩
    | missing i =>
      obtain ⟨hbefore, hafter⟩ := compare_of_run_eq_missing hsorted hrun
      rcases Nat.lt_or_ge j i with hji | hji
      · rw [hbefore j hj hji] at heq
        cases heq
      · rw [hafter j hj hji] at heq
        cases heq

end Search
end EmojiLint
