import EmojiLint.Proofs.Debounce.Course
import EmojiLint.Proofs.Debounce.Registry

/-!
# Tasks with entries do what their jobs do

Tasks that clear their own entries have the events that a list of jobs has, however late they clear
them: neither does the work depend on the entries, nor is a task aborted that a list would keep.

* `toDebouncer` — the jobs of the tasks, without the entries.
* `Step`, `history` — what happens to a registry, and the events that come of it.
* `agrees` — **whenever the tasks clear their entries, their jobs have the same events**.
-/

set_option autoImplicit false

namespace EmojiLint
namespace Registry

open Debouncer (rename Act)

variable {κ α : Type} [DecidableEq κ] {r : Registry κ α} {key : κ} {task : Ticket κ}

/-! ## The jobs of the tasks -/

/-- The jobs of the tasks, without the entries. -/
def toDebouncer (r : Registry κ α) : Debouncer κ α :=
  ⟨r.now, rename Ticket.key r.live⟩

theorem rename_filter_key_ne (key : κ) (live : List (Ticket κ × Job α)) :
    rename Ticket.key (live.filter fun entry => entry.1.key ≠ key) =
      Assoc.erase key (rename Ticket.key live) := by
  rw [Assoc.erase, rename, rename, List.filter_map]
  rfl

theorem toDebouncer_schedule (h : r.Consistent) (key : κ) (delay : Nat) (event : α)
    (later : List (Nat × α)) :
    (r.schedule key delay event later).toDebouncer =
      r.toDebouncer.schedule key delay event later := by
  rw [toDebouncer, schedule, h.abortHolder_eq, Debouncer.schedule, toDebouncer,
    ← rename_filter_key_ne]
  dsimp only
  rw [rename, List.map_append]
  rfl

theorem toDebouncer_cancel (h : r.Consistent) (key : κ) :
    (r.cancel key).2.toDebouncer = r.toDebouncer.cancel key := by
  rw [toDebouncer, cancel, h.abortHolder_eq, Debouncer.cancel, toDebouncer,
    ← rename_filter_key_ne]

theorem toDebouncer_cancelAll (h : r.Consistent) :
    r.cancelAll.toDebouncer = r.toDebouncer.cancelAll := by
  rw [toDebouncer, h.live_cancelAll]
  rfl

theorem advance_toDebouncer (r : Registry κ α) (milliseconds : Nat) :
    r.toDebouncer.advance milliseconds =
      ((r.advance milliseconds).1, (r.advance milliseconds).2.toDebouncer) := by
  rw [Debouncer.advance, toDebouncer, Debouncer.runUntil_rename]
  rfl

/-- Clearing an entry does nothing to the jobs. -/
theorem toDebouncer_leave (r : Registry κ α) (task : Ticket κ) :
    (r.leave task).toDebouncer = r.toDebouncer := by
  rw [leave]
  split <;> rfl

/-- A task that has an entry has not ended. -/
theorem isPending_eq (h : r.Consistent) : r.isPending key = (r.holder? key).isSome := by
  rw [isPending]
  cases hholder : r.holder? key with
  | none => rfl
  | some task =>
    rw [Option.any_some, Option.isSome_some, hasEnded, Bool.not_and, decide_not, decide_not,
      Bool.not_not, Bool.not_not, Bool.or_eq_true, decide_eq_true_eq, decide_eq_true_eq]
    exact h.accounted key task hholder

/-- A key is pending as long as there is work to come under it, and then until its entry is
cleared. -/
theorem isPending_iff (h : r.Consistent) : r.isPending key = true ↔
    r.toDebouncer.isPending key = true ∨ ∃ task ∈ r.leaving, r.holder? key = some task := by
  have hjobs : r.toDebouncer.isPending key = true ↔ ∃ task ∈ tickets r.live, task.key = key := by
    rw [Debouncer.isPending_iff, Debouncer.keys, toDebouncer, rename, tickets, List.map_map,
      List.mem_map]
    simp only [List.mem_map, exists_exists_and_eq_and, Function.comp_apply]
  rw [isPending_eq h, Option.isSome_iff_exists, hjobs]
  constructor
  · rintro ⟨task, hholder⟩
    refine (h.accounted key task hholder).imp (fun htask => ?_) fun htask => ?_
    · exact ⟨task, htask, key_of_holder? hholder⟩
    · exact ⟨task, htask, hholder⟩
  · rintro (⟨task, htask, rfl⟩ | ⟨task, -, hholder⟩)
    · exact ⟨task, h.registered task htask⟩
    · exact ⟨task, hholder⟩

/-! ## Steps -/

/-- The events of some time with the moments at which they come, in steps of a millisecond. -/
def timed (r : Registry κ α) : Nat → List (Nat × κ × α)
  | 0 => (r.advance 0).1.map fun event => (r.now, event)
  | ms + 1 =>
    r.timed ms ++ ((r.advance ms).2.advance 1).1.map fun event => (r.now + (ms + 1), event)

theorem timed_toDebouncer (r : Registry κ α) (milliseconds : Nat) :
    r.toDebouncer.timed milliseconds = r.timed milliseconds := by
  induction milliseconds with
  | zero => rw [Debouncer.timed, timed, advance_toDebouncer]; rfl
  | succ ms ih =>
    rw [Debouncer.timed, timed, ih, advance_toDebouncer, advance_toDebouncer]
    rfl

/-- What happens to a registry. -/
inductive Step (κ α : Type)
  | act (act : Act κ α)
  /-- A task that has done its work clears its entry. -/
  | leave (task : Ticket κ)

namespace Step

/-- The registry after a step. -/
def apply (r : Registry κ α) : Step κ α → Registry κ α
  | act (.schedule key delay event later) => r.schedule key delay event later
  | act (.cancel key) => (r.cancel key).2
  | act .cancelAll => r.cancelAll
  | act (.pause milliseconds) => (r.advance milliseconds).2
  | leave task => r.leave task

/-- The events of a step, with their times. -/
def events (r : Registry κ α) : Step κ α → List (Nat × κ × α)
  | act (.pause milliseconds) => r.timed milliseconds
  | act (.schedule _ _ _ _) | act (.cancel _) | act .cancelAll | leave _ => []

/-- What is done from outside, if a step is that. -/
def act? : Step κ α → Option (Act κ α)
  | act a => some a
  | leave _ => none

end Step

/-- The registry after some steps. -/
def after (r : Registry κ α) (steps : List (Step κ α)) : Registry κ α :=
  steps.foldl Step.apply r

/-- All events of some steps, with their times. -/
def history (r : Registry κ α) : List (Step κ α) → List (Nat × κ × α)
  | [] => []
  | step :: rest => step.events r ++ history (step.apply r) rest

/-- Every step keeps the entries in line with the tasks. -/
theorem Consistent.apply (h : r.Consistent) (step : Step κ α) : (step.apply r).Consistent := by
  cases step with
  | act a =>
    cases a with
    | schedule key delay event later => exact h.schedule key delay event later
    | cancel key => exact h.cancel key
    | cancelAll => exact h.cancelAll
    | pause milliseconds => exact h.advance milliseconds
  | leave task => exact h.leave task

theorem Consistent.after (h : r.Consistent) (steps : List (Step κ α)) :
    (r.after steps).Consistent := by
  induction steps generalizing r with
  | nil => exact h
  | cons step steps ih => exact ih (h.apply step)

/-- A step has the events of an act on the jobs, or none. -/
theorem apply_toDebouncer (h : r.Consistent) (step : Step κ α) :
    (step.apply r).toDebouncer = r.toDebouncer.after step.act?.toList ∧
      step.events r = r.toDebouncer.history step.act?.toList := by
  cases step with
  | act a =>
    have happly : ∀ d : Debouncer κ α, d.after [a] = a.apply d := fun _ => rfl
    have hevents : ∀ d : Debouncer κ α, d.history [a] = a.events d := fun _ => List.append_nil _
    rw [Step.act?, Option.toList_some, happly, hevents]
    cases a with
    | schedule key delay event later => exact ⟨toDebouncer_schedule h key delay event later, rfl⟩
    | cancel key => exact ⟨toDebouncer_cancel h key, rfl⟩
    | cancelAll => exact ⟨toDebouncer_cancelAll h, rfl⟩
    | pause milliseconds =>
      refine ⟨?_, (timed_toDebouncer r milliseconds).symm⟩
      rw [Debouncer.Act.apply, advance_toDebouncer]
      rfl
  | leave task => exact ⟨toDebouncer_leave r task, rfl⟩

/-- Steps have the events of the acts among them. -/
theorem after_toDebouncer (h : r.Consistent) (steps : List (Step κ α)) :
    (r.after steps).toDebouncer = r.toDebouncer.after (steps.filterMap Step.act?) ∧
      r.history steps = r.toDebouncer.history (steps.filterMap Step.act?) := by
  induction steps generalizing r with
  | nil => exact ⟨rfl, rfl⟩
  | cons step steps ih =>
    obtain ⟨happly, hevents⟩ := apply_toDebouncer h step
    obtain ⟨hafter, hhistory⟩ := ih (h.apply step)
    rw [happly] at hafter hhistory
    rw [history, hevents, hhistory]
    cases hact : step.act? with
    | none =>
      rw [hact] at hafter
      rw [List.filterMap_cons_none hact]
      exact ⟨hafter, rfl⟩
    | some a =>
      rw [hact] at hafter
      rw [List.filterMap_cons_some hact]
      exact ⟨hafter, congrArg (· ++ _) (List.append_nil _)⟩

/-- **Whenever the tasks clear their entries, their jobs have the same events**, and the same jobs
are still to come.  A key is pending as long as it has an entry, and it has one while there is work
to come under it, and then until its last task has cleared it. -/
theorem agrees (steps : List (Step κ α)) :
    let r : Registry κ α := after {} steps
    let acts := steps.filterMap Step.act?
    history {} steps = Debouncer.history {} acts ∧ r.toDebouncer = Debouncer.after {} acts ∧
      ∀ key, r.isPending key = (r.holder? key).isSome ∧
        (r.isPending key = true ↔ (Debouncer.after {} acts).isPending key = true ∨
          ∃ task ∈ r.leaving, r.holder? key = some task) := by
  obtain ⟨hafter, hhistory⟩ := after_toDebouncer consistent_empty steps
  have h := consistent_empty.after steps
  refine ⟨hhistory, hafter, fun key => ⟨isPending_eq h, ?_⟩⟩
  rw [isPending_iff h, hafter]
  rfl

/-- The events under a key are the moments of its tasks that are reached. -/
theorem eventsOf_history (key : κ) (steps : List (Step κ α)) :
    Debouncer.eventsOf key (history {} steps) =
      Debouncer.course key 0 (steps.filterMap Step.act?) := by
  rw [(agrees steps).1, Debouncer.eventsOf_history_eq_course]

end Registry
end EmojiLint
