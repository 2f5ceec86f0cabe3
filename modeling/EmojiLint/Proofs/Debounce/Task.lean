import EmojiLint.Proofs.Debounce.Course

/-!
# What becomes of a task

A task is begun once or never, and there is one of a key at most.

* `filter_eventsOf_history` — a task begins at its time when that is reached, and otherwise never.
* `nodup_keys_after` — one task of a key at most is pending.
* `course_filter_concerns` — what is done to other keys does not matter.
-/

set_option autoImplicit false

namespace EmojiLint
namespace Debouncer

variable {κ α : Type} [DecidableEq κ] {d : Debouncer κ α} {key : κ} {acts : List (Act κ α)}

/-! ## One task -/

/-- The tasks that an act schedules under a key, with what they go on with. -/
def Act.tasks (key : κ) : Act κ α → List α
  | schedule other _ event later => if other = key then event :: later.map Prod.snd else []
  | cancel _ | cancelAll | pause _ => []

/-- A task begins, and goes on with the events that come later. -/
theorem exists_momentsFrom_eq (due : Nat) (event : α) (later : List (Nat × α)) :
    ∃ moments, Job.momentsFrom due event later = (due, event) :: moments ∧
      ∀ m ∈ moments, m.2 ∈ later.map Prod.snd := by
  induction later generalizing due event with
  | nil => exact ⟨[], rfl, fun _ h => nomatch h⟩
  | cons next later ih =>
    obtain ⟨moments, heq, hmem⟩ := ih (due + next.1) next.2
    refine ⟨(due + next.1, next.2) :: moments, congrArg _ heq, fun m hm => ?_⟩
    rcases List.mem_cons.1 hm with rfl | hm
    · exact List.mem_cons_self
    · exact List.mem_cons_of_mem _ (hmem m hm)

theorem mem_tasks_of_mem_moments {act : Act κ α} {now : Nat} {moment : Nat × α}
    (h : moment ∈ act.moments key now) : moment.2 ∈ act.tasks key := by
  cases act with
  | schedule other delay event later =>
    rw [Act.moments] at h
    rw [Act.tasks]
    obtain ⟨moments, heq, hmem⟩ := exists_momentsFrom_eq (now + delay) event later
    split_ifs at h ⊢
    · rcases List.mem_cons.1 (heq ▸ h) with rfl | h
      · exact List.mem_cons_self
      · exact List.mem_cons_of_mem _ (hmem moment h)
    · cases h
  | pause | cancel | cancelAll => cases h

theorem mem_tasks_of_mem_course {now : Nat} {moment : Nat × α}
    (h : moment ∈ course key now acts) : moment.2 ∈ acts.flatMap (Act.tasks key) := by
  induction acts generalizing now with
  | nil => cases h
  | cons act acts ih =>
    rw [List.flatMap_cons, List.mem_append]
    rcases List.mem_append.1 h with h | h
    · exact Or.inl (mem_tasks_of_mem_moments (List.mem_filter.1 h).1)
    · exact Or.inr (ih h)

/-- The tasks of some acts come before those of the acts that follow. -/
theorem exists_course_append (key : κ) (now : Nat) (before rest : List (Act κ α)) :
    ∃ moments, course key now (before ++ rest) =
        moments ++ course key (now + (before.map Act.elapsed).sum) rest ∧
      ∀ m ∈ moments, m.2 ∈ before.flatMap (Act.tasks key) := by
  induction before generalizing now with
  | nil => exact ⟨[], rfl, fun _ h => nomatch h⟩
  | cons act before ih =>
    obtain ⟨moments, heq, hmem⟩ := ih (now + act.elapsed)
    refine ⟨(act.moments key now).filter
      (fun m => reaches key m.1 (now + act.elapsed) (before ++ rest)) ++ moments, ?_, ?_⟩
    · rw [List.cons_append, course, heq, List.map_cons, List.sum_cons, Nat.add_assoc,
        List.append_assoc]
    · intro m hm
      rw [List.flatMap_cons, List.mem_append]
      rcases List.mem_append.1 hm with hm | hm
      · exact Or.inl (mem_tasks_of_mem_moments (List.mem_filter.1 hm).1)
      · exact Or.inr (hmem m hm)

/-- **A task begins at its time when that is reached, and otherwise never.** -/
theorem filter_eventsOf_history [DecidableEq α] {before rest : List (Act κ α)} {task : α}
    {later : List (Nat × α)} (hbefore : task ∉ before.flatMap (Act.tasks key))
    (hlater : task ∉ later.map Prod.snd) (hrest : task ∉ rest.flatMap (Act.tasks key))
    (delay : Nat) :
    (eventsOf key (history {} (before ++ .schedule key delay task later :: rest))).filter
        (fun e => e.2 = task) =
      if reaches key ((before.map Act.elapsed).sum + delay) (before.map Act.elapsed).sum rest then
        [((before.map Act.elapsed).sum + delay, task)]
      else [] := by
  have hnone : ∀ {moments : List (Nat × α)} {tasks : List α}, (∀ m ∈ moments, m.2 ∈ tasks) →
      task ∉ tasks → (moments.filter fun m => m.2 = task) = [] := by
    refine fun hmem htask => List.filter_eq_nil_iff.2 fun m hm => ?_
    rw [decide_eq_true_eq]
    rintro rfl
    exact htask (hmem m hm)
  obtain ⟨early, hcourse, hearly⟩ :=
    exists_course_append key 0 before (.schedule key delay task later :: rest)
  rw [Nat.zero_add] at hcourse
  generalize (before.map Act.elapsed).sum = now at hcourse ⊢
  obtain ⟨moments, hmoments, hmem⟩ := exists_momentsFrom_eq (now + delay) task later
  have htask : (Act.schedule key delay task later).moments key now =
      (now + delay, task) :: moments := (if_pos rfl).trans hmoments
  have hleft : ∀ m ∈ moments.filter (fun m => reaches key m.1 now rest), m.2 ∈ later.map Prod.snd :=
    fun m hm => hmem m (List.mem_filter.1 hm).1
  rw [eventsOf_history_eq_course, hcourse, course, htask, List.filter_append, List.filter_append,
    hnone hearly hbefore, hnone (fun m => mem_tasks_of_mem_course) hrest, List.append_nil,
    List.nil_append]
  show List.filter _ (List.filter (fun m : Nat × α => reaches key m.1 now rest) _) = _
  rw [List.filter_cons]
  split_ifs with hreached
  · rw [List.filter_cons_of_pos (by simp), hnone hleft hlater]
  · rw [hnone hleft hlater]

/-! ## The pending tasks -/

theorem nodup_keys_schedule (h : (keys d.jobs).Nodup) (key : κ) (delay : Nat) (event : α)
    (later : List (Nat × α)) : (keys (d.schedule key delay event later).jobs).Nodup := by
  have hkeys : keys (d.schedule key delay event later).jobs =
      keys (Assoc.erase key d.jobs) ++ [key] := List.map_append
  rw [hkeys, List.nodup_append]
  refine ⟨h.sublist (List.filter_sublist.map _), by simp, fun a ha b hb => ?_⟩
  rw [List.mem_singleton.1 hb]
  exact (mem_keys_erase.1 ha).2

/-- **One task of a key at most is pending.** -/
theorem nodup_keys_after (h : (keys d.jobs).Nodup) (acts : List (Act κ α)) :
    (keys (d.after acts).jobs).Nodup := by
  induction acts generalizing d with
  | nil => exact h
  | cons act acts ih =>
    refine ih ?_
    cases act with
    | schedule key delay event later => exact nodup_keys_schedule h key delay event later
    | cancel key => exact h.sublist (List.filter_sublist.map _)
    | cancelAll => exact List.nodup_nil
    | pause milliseconds => exact h.sublist (keys_runUntil_sublist _ _)

/-! ## Other keys -/

/-- An act on another key does nothing to the tasks of a key. -/
theorem act_of_not_concerns {act : Act κ α} (h : act.concerns key = false) :
    act.ends key = false ∧ act.isPause = false ∧ act.elapsed = 0 ∧
      ∀ now, act.moments key now = [] := by
  cases act with
  | schedule other delay event later =>
    exact ⟨h, rfl, rfl, fun now => if_neg (of_decide_eq_false h)⟩
  | cancel other => exact ⟨h, rfl, rfl, fun now => rfl⟩
  | cancelAll | pause => cases h

theorem reaches_filter_concerns (key : κ) (time now : Nat) (acts : List (Act κ α)) :
    reaches key time now (acts.filter (Act.concerns key)) = reaches key time now acts := by
  induction acts generalizing now with
  | nil => rfl
  | cons act acts ih =>
    cases hact : act.concerns key with
    | true => rw [List.filter_cons_of_pos hact, reaches, reaches, ih]
    | false =>
      obtain ⟨hends, hpause, helapsed, -⟩ := act_of_not_concerns hact
      rw [List.filter_cons_of_neg (by simp [hact]), ih, reaches, hends, hpause, helapsed]
      rfl

/-- **Other keys do not matter.** -/
theorem course_filter_concerns (key : κ) (now : Nat) (acts : List (Act κ α)) :
    course key now (acts.filter (Act.concerns key)) = course key now acts := by
  induction acts generalizing now with
  | nil => rfl
  | cons act acts ih =>
    cases hact : act.concerns key with
    | true =>
      rw [List.filter_cons_of_pos hact, course, course, ih]
      simp only [reaches_filter_concerns]
    | false =>
      obtain ⟨-, -, helapsed, hmoments⟩ := act_of_not_concerns hact
      rw [List.filter_cons_of_neg (by simp [hact]), ih, course, helapsed, hmoments]
      rfl

end Debouncer
end EmojiLint
