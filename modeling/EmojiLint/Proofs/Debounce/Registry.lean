import EmojiLint.Debounce.Registry
import EmojiLint.Proofs.Debounce.Time

/-!
# Generations keep late tasks apart

A task that is waiting or running always has the entry of its key.  This rests on the generations: a
task that clears its entry late leaves the entry of another generation alone.

* `holder?_leave` — only its own entry is cleared by a task that leaves.
* `Consistent` — the entries fit the tasks, which everything that is done to them keeps.
-/

set_option autoImplicit false

namespace EmojiLint

namespace Registry

variable {κ α : Type} [DecidableEq κ] {r : Registry κ α} {key other : κ} {task : Ticket κ}

/-! ## Who has an entry -/

theorem holder?_eq_some_iff : r.holder? key = some task ↔
    task.key = key ∧ r.entries.lookup key = some task.generation := by
  obtain ⟨own, generation⟩ := task
  rw [holder?, Option.map_eq_some_iff]
  constructor
  · rintro ⟨_, hlookup, heq⟩
    cases heq
    exact ⟨rfl, hlookup⟩
  · rintro ⟨rfl, hlookup⟩
    exact ⟨generation, hlookup, rfl⟩

theorem key_of_holder? (h : r.holder? key = some task) : task.key = key :=
  (holder?_eq_some_iff.1 h).1

/-- A task has the entry of its key when that is of its generation. -/
theorem holder?_self_iff :
    r.holder? task.key = some task ↔ r.entries.lookup task.key = some task.generation := by
  rw [holder?_eq_some_iff, and_iff_right rfl]

theorem holder?_schedule (delay : Nat) (event : α) (later : List (Nat × α)) :
    (r.schedule key delay event later).holder? other =
      if other = key then some ⟨key, r.generation⟩ else r.holder? other := by
  rw [holder?, schedule, Assoc.lookup_set]
  split
  · next heq => rw [heq, Option.map_some]
  · rfl

theorem holder?_cancel :
    (r.cancel key).2.holder? other = if other = key then none else r.holder? other := by
  rw [holder?, cancel, Assoc.lookup_erase]
  split
  · rfl
  · rfl

/-- **Only its own entry is cleared by a task that leaves.** -/
theorem holder?_leave (htask : task ∈ r.leaving) : (r.leave task).holder? other =
    if r.holder? other = some task then none else r.holder? other := by
  rw [leave, if_pos htask, holder?]
  dsimp only
  by_cases hother : r.holder? other = some task
  · obtain rfl := key_of_holder? hother
    rw [if_pos hother, if_pos (holder?_self_iff.1 hother), Assoc.lookup_erase, if_pos rfl]
    rfl
  · rw [if_neg hother]
    split
    · next hown =>
      have hne : other ≠ task.key := by
        rintro rfl
        exact hother (holder?_self_iff.2 hown)
      rw [Assoc.lookup_erase, if_neg hne]
      rfl
    · rfl

/-! ## Entries and tasks -/

/-- The entries fit the tasks. -/
structure Consistent (r : Registry κ α) : Prop where
  /-- A task with events to come has the entry of its key. -/
  registered : ∀ task ∈ tickets r.live, r.holder? task.key = some task
  /-- An entry is of a task with events to come, or of one that is about to clear it. -/
  accounted : ∀ key task, r.holder? key = some task → task ∈ tickets r.live ∨ task ∈ r.leaving
  /-- No task has a generation that is still to be given. -/
  issued : ∀ task, task ∈ tickets r.live ∨ task ∈ r.leaving → task.generation < r.generation
  /-- A task that is about to clear its entry has no events to come. -/
  apart : ∀ task ∈ tickets r.live, task ∉ r.leaving

theorem consistent_empty : ({} : Registry κ α).Consistent where
  registered _ h := absurd h List.not_mem_nil
  accounted _ _ h := by cases h
  issued _ h := absurd h (by simp [tickets])
  apart _ h := absurd h List.not_mem_nil

/-- A task that leaves late does not clear the entry of the one that has taken its place. -/
example :
    let r : Registry Nat Unit := { generation := 1, entries := [(7, 0)], leaving := [⟨7, 0⟩] }
    ((r.schedule 7 50 () []).leave ⟨7, 0⟩).isPending 7 = true := by
  decide

namespace Consistent

variable (h : r.Consistent)
include h

/-- Once the holder of an entry is aborted, no task under its key has events to come. -/
theorem abortHolder_eq (key : κ) :
    r.abortHolder key = r.live.filter fun entry => entry.1.key ≠ key := by
  rw [abortHolder]
  cases hholder : r.holder? key with
  | none =>
    refine (List.filter_eq_self.2 fun entry hentry => decide_eq_true ?_).symm
    rintro rfl
    rw [h.registered _ (List.mem_map_of_mem hentry)] at hholder
    cases hholder
  | some task =>
    obtain rfl := key_of_holder? hholder
    refine List.filter_congr fun entry hentry => decide_eq_decide.2 (not_congr ?_)
    refine ⟨congrArg Ticket.key, fun hkey => ?_⟩
    have hentry' := h.registered _ (List.mem_map_of_mem hentry)
    rw [hkey, hholder] at hentry'
    exact (Option.some_inj.1 hentry').symm

theorem mem_tickets_abortHolder :
    task ∈ tickets (r.abortHolder key) ↔ task ∈ tickets r.live ∧ task.key ≠ key := by
  rw [h.abortHolder_eq, tickets, tickets, List.mem_map, List.mem_map]
  simp only [List.mem_filter, decide_eq_true_eq]
  constructor
  · rintro ⟨entry, ⟨hentry, hne⟩, rfl⟩
    exact ⟨⟨entry, hentry, rfl⟩, hne⟩
  · rintro ⟨⟨entry, hentry, rfl⟩, hne⟩
    exact ⟨entry, ⟨hentry, hne⟩, rfl⟩

theorem schedule (key : κ) (delay : Nat) (event : α) (later : List (Nat × α)) :
    (r.schedule key delay event later).Consistent := by
  have hlive : ∀ task, task ∈ tickets (r.schedule key delay event later).live ↔
      (task ∈ tickets r.live ∧ task.key ≠ key) ∨ task = ⟨key, r.generation⟩ := by
    intro task
    rw [← h.mem_tickets_abortHolder, Registry.schedule, tickets, List.map_append, List.mem_append,
      List.map_singleton, List.mem_singleton, tickets]
  refine ⟨fun task htask => ?_, fun other task hholder => ?_, fun task htask => ?_,
    fun task htask => ?_⟩
  · rw [holder?_schedule]
    rcases (hlive task).1 htask with ⟨htask, hne⟩ | rfl
    · rw [if_neg hne, h.registered task htask]
    · rw [if_pos rfl]
  · rw [holder?_schedule] at hholder
    rw [hlive]
    split at hholder
    · exact .inl (.inr (Option.some_inj.1 hholder).symm)
    · next hne =>
      refine (h.accounted other task hholder).imp_left fun htask => .inl ⟨htask, ?_⟩
      rwa [key_of_holder? hholder]
  · rw [hlive] at htask
    rcases htask with (⟨htask, -⟩ | rfl) | htask
    · exact Nat.lt_succ_of_lt (h.issued task (.inl htask))
    · exact Nat.lt_succ_self _
    · exact Nat.lt_succ_of_lt (h.issued task (.inr htask))
  · rcases (hlive task).1 htask with ⟨htask, -⟩ | rfl
    · exact h.apart task htask
    · exact fun hleaving => Nat.lt_irrefl _ (h.issued _ (.inr hleaving))

theorem cancel (key : κ) : (r.cancel key).2.Consistent := by
  have hlive : ∀ task, task ∈ tickets (r.cancel key).2.live ↔
      task ∈ tickets r.live ∧ task.key ≠ key := fun _ => h.mem_tickets_abortHolder
  refine ⟨fun task htask => ?_, fun other task hholder => ?_, fun task htask => ?_,
    fun task htask => h.apart task ((hlive task).1 htask).1⟩
  · obtain ⟨htask, hne⟩ := (hlive task).1 htask
    rw [holder?_cancel, if_neg hne, h.registered task htask]
  · rw [holder?_cancel] at hholder
    split at hholder
    · cases hholder
    · next hne =>
      refine (h.accounted other task hholder).imp_left fun htask => (hlive task).2 ⟨htask, ?_⟩
      rwa [key_of_holder? hholder]
  · exact h.issued task (htask.imp_left fun htask => ((hlive task).1 htask).1)

/-- Every task with events to come has an entry, so all of them are aborted. -/
theorem live_cancelAll : r.cancelAll.live = [] :=
  List.filter_eq_nil_iff.2 fun entry hentry => by
    simpa using h.registered _ (List.mem_map_of_mem hentry)

theorem cancelAll : r.cancelAll.Consistent := by
  have hlive : ∀ task, task ∉ tickets r.cancelAll.live := by
    intro task
    rw [h.live_cancelAll]
    exact List.not_mem_nil
  refine ⟨fun task htask => absurd htask (hlive task), fun key task hholder => ?_,
    fun task htask => ?_, fun task htask => absurd htask (hlive task)⟩
  · cases hholder
  · exact h.issued task (.inr (htask.resolve_left (hlive task)))

theorem advance (milliseconds : Nat) : (r.advance milliseconds).2.Consistent := by
  have hlive : ∀ task ∈ tickets (r.advance milliseconds).2.live, task ∈ tickets r.live :=
    fun task htask => (Debouncer.keys_runUntil_sublist _ _).subset htask
  have hleaving : ∀ task, task ∈ (r.advance milliseconds).2.leaving ↔ task ∈ r.leaving ∨
      (task ∈ tickets r.live ∧ task ∉ tickets (r.advance milliseconds).2.live) := by
    intro task
    rw [Registry.advance]
    simp only [List.mem_append, List.mem_filter, decide_eq_true_eq]
  refine ⟨fun task htask => h.registered task (hlive task htask), fun key task hholder => ?_,
    fun task htask => ?_, fun task htask => ?_⟩
  · rw [hleaving]
    by_cases htask : task ∈ tickets (r.advance milliseconds).2.live
    · exact .inl htask
    · exact .inr ((h.accounted key task hholder).symm.imp_right fun hold => ⟨hold, htask⟩)
  · rw [hleaving] at htask
    rcases htask with htask | htask | ⟨htask, -⟩
    · exact h.issued task (.inl (hlive task htask))
    · exact h.issued task (.inr htask)
    · exact h.issued task (.inl htask)
  · rw [hleaving]
    rintro (hold | ⟨-, hgone⟩)
    · exact h.apart task (hlive task htask) hold
    · exact hgone htask

/-- A task that leaves is not one with events to come, so that these keep their entries. -/
theorem leave (task : Ticket κ) : (r.leave task).Consistent := by
  by_cases htask : task ∈ r.leaving
  · have hlive : (r.leave task).live = r.live := by rw [Registry.leave, if_pos htask]
    have hgeneration : (r.leave task).generation = r.generation := by
      rw [Registry.leave, if_pos htask]
    have hleaving : ∀ other, other ∈ (r.leave task).leaving ↔
        other ∈ r.leaving ∧ other ≠ task := by
      intro other
      rw [Registry.leave, if_pos htask, List.mem_filter, decide_eq_true_eq]
    refine ⟨fun other hother => ?_, fun key other hholder => ?_, fun other hother => ?_,
      fun other hother hold => ?_⟩
    · rw [hlive] at hother
      rw [holder?_leave htask, h.registered other hother, if_neg]
      rintro ⟨⟩
      exact h.apart task hother htask
    · rw [holder?_leave htask] at hholder
      split at hholder
      · cases hholder
      · next hne =>
        rw [hlive, hleaving]
        refine (h.accounted key other hholder).imp_right fun hold => ⟨hold, ?_⟩
        rintro rfl
        exact hne hholder
    · rw [hlive, hleaving] at hother
      rw [hgeneration]
      exact h.issued other (hother.imp_right And.left)
    · exact h.apart other (hlive ▸ hother) ((hleaving other).1 hold).1
  · rwa [Registry.leave, if_neg htask]

end Consistent

end Registry
end EmojiLint
