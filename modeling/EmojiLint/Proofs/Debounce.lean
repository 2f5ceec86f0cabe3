import EmojiLint.Debounce
import Mathlib.Tactic.SplitIfs

/-!
# What is pending

A debouncer is seen from outside through the keys under which work is still to come.

* `isPending_schedule`, `isPending_cancel` — which keys are pending after a change.
* `isPending_iff_advance` — while time passes, no work is lost and none is made up.
* `advance_schedule` — what comes of a single job.
-/

set_option autoImplicit false

namespace EmojiLint
namespace Debouncer

variable {κ α : Type}

/-- The keys under which work is to come. -/
def keys (jobs : List (κ × Job α)) : List κ :=
  jobs.map Prod.fst

theorem keys_cons (entry : κ × Job α) (jobs : List (κ × Job α)) :
    keys (entry :: jobs) = entry.1 :: keys jobs :=
  rfl

/-! ## Letting time pass -/

/-- The keys after one event: at most its own is gone. -/
theorem mem_keys_of_popAt? {time : Nat} {jobs rest : List (κ × Job α)} {event : κ × α}
    (h : popAt? time jobs = some (event, rest)) (key : κ) :
    key ∈ keys jobs ↔ key ∈ keys rest ∨ key = event.1 := by
  induction jobs generalizing rest with
  | nil => cases h
  | cons entry jobs ih =>
    obtain ⟨k, job⟩ := entry
    rw [popAt?] at h
    split_ifs at h with hdue
    · rw [Option.some_inj, Prod.mk.injEq] at h
      obtain ⟨rfl, rfl⟩ := h
      rw [keys_cons, List.mem_cons]
      cases job.next? with
      | none => exact or_comm
      | some next =>
        show _ ↔ key ∈ k :: keys jobs ∨ key = k
        rw [List.mem_cons]
        exact (or_iff_left_of_imp Or.inl).symm
    · obtain ⟨⟨event', rest'⟩, hpop, heq⟩ := Option.map_eq_some_iff.1 h
      rw [Prod.mk.injEq] at heq
      obtain ⟨rfl, rfl⟩ := heq
      rw [keys_cons, keys_cons, List.mem_cons, List.mem_cons, ih hpop, or_assoc]

/-- **No work is lost and none is made up**: a key is waiting before exactly when it is waiting
after or has had an event. -/
theorem mem_keys_runUntil (time : Nat) (jobs : List (κ × Job α)) (key : κ) :
    key ∈ keys jobs ↔
      key ∈ keys (runUntil time jobs).2 ∨ key ∈ (runUntil time jobs).1.map Prod.fst := by
  have hnothing : ∀ jobs : List (κ × Job α), key ∈ keys jobs ↔
      key ∈ keys jobs ∨ key ∈ ([] : List (κ × α)).map Prod.fst :=
    fun _ => (or_iff_left List.not_mem_nil).symm
  fun_induction runUntil time jobs with
  | case1 jobs hnext => exact hnothing jobs
  | case2 jobs due hnext hlt => exact hnothing jobs
  | case3 jobs due hnext hle hpop => exact hnothing jobs
  | case4 jobs due hnext hle event rest hpop events remaining hrun ih =>
    rw [hrun] at ih
    have hrest : key ∈ keys rest ↔ key ∈ keys remaining ∨ key ∈ events.map Prod.fst := ih
    rw [mem_keys_of_popAt? hpop, hrest, List.map_cons, List.mem_cons, or_assoc]
    exact or_congr_right or_comm

theorem runUntil_nil (time : Nat) : runUntil time ([] : List (κ × Job α)) = ([], []) := by
  rw [runUntil]
  rfl

/-- The next event comes first. -/
theorem runUntil_of_popAt? {time due : Nat} {jobs rest : List (κ × Job α)} {event : κ × α}
    (hnext : nextTime? jobs = some due) (hdue : due ≤ time)
    (hpop : popAt? due jobs = some (event, rest)) :
    runUntil time jobs = (event :: (runUntil time rest).1, (runUntil time rest).2) := by
  rw [runUntil, hnext]
  simp only [if_neg (Nat.not_lt.2 hdue)]
  split
  · next h =>
    rw [hpop] at h
    cases h
  · next h =>
    rw [hpop] at h
    cases h
    rfl

variable [DecidableEq κ] {d : Debouncer κ α} {key other : κ}

theorem isPending_iff : d.isPending key = true ↔ key ∈ keys d.jobs := by
  rw [isPending, List.any_eq_true, keys, List.mem_map]
  simp only [decide_eq_true_eq]

/-- **While time passes, no work is lost and none is made up.** -/
theorem isPending_iff_advance (milliseconds : Nat) : d.isPending key = true ↔
    (d.advance milliseconds).2.isPending key = true ∨
      key ∈ (d.advance milliseconds).1.map Prod.fst := by
  rw [isPending_iff, isPending_iff]
  exact mem_keys_runUntil _ _ _

/-! ## Scheduling -/

theorem mem_keys_erase {jobs : List (κ × Job α)} :
    other ∈ keys (Assoc.erase key jobs) ↔ other ∈ keys jobs ∧ other ≠ key := by
  simp only [keys, Assoc.erase, List.mem_map, List.mem_filter, decide_eq_true_eq]
  refine ⟨?_, ?_⟩
  · rintro ⟨entry, ⟨hentry, hne⟩, rfl⟩
    exact ⟨⟨entry, hentry, rfl⟩, hne⟩
  · rintro ⟨⟨entry, hentry, rfl⟩, hne⟩
    exact ⟨entry, ⟨hentry, hne⟩, rfl⟩

theorem isPending_schedule (delay : Nat) (event : α) (later : List (Nat × α)) :
    (d.schedule key delay event later).isPending other = true ↔
      d.isPending other = true ∨ other = key := by
  have hkeys : keys (d.schedule key delay event later).jobs =
      keys (Assoc.erase key d.jobs) ++ [key] := List.map_append
  rw [isPending_iff, isPending_iff, hkeys, List.mem_append, mem_keys_erase, List.mem_singleton]
  by_cases h : other = key
  · exact iff_of_true (Or.inr h) (Or.inr h)
  · rw [and_iff_left h]

theorem isPending_cancel :
    (d.cancel key).isPending other = true ↔ d.isPending other = true ∧ other ≠ key := by
  rw [isPending_iff, isPending_iff]
  exact mem_keys_erase

/-- The only job has its event once its time has come. -/
theorem advance_schedule (now delay : Nat) (key : κ) (event : α) :
    (schedule ⟨now, []⟩ key delay event []).advance delay =
      ([(key, event)], ⟨now + delay, []⟩) := by
  let jobs : List (κ × Job α) := [(key, ⟨now + delay, event, []⟩)]
  have hpop : popAt? (now + delay) jobs = some ((key, event), []) := if_pos rfl
  have hrun : runUntil (now + delay) jobs = ([(key, event)], []) := by
    rw [runUntil_of_popAt? rfl (Nat.le_refl _) hpop, runUntil_nil]
  show ((runUntil (now + delay) jobs).1, Debouncer.mk _ (runUntil (now + delay) jobs).2) = _
  rw [hrun]
  rfl

end Debouncer
end EmojiLint
