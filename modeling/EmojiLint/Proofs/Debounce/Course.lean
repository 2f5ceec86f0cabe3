import EmojiLint.Proofs.Debounce.Moments

/-!
# What comes of a course of acts

A debouncer goes through any number of acts: tasks are scheduled and canceled, and time passes.  The
clock gets to the moment of a task, or another act ends the task before, which only an act on the
same key can do.

* `Act`, `history` — what happens to a debouncer, and the events that come of it.
* `reaches_iff` — the clock gets to a time before an act ends the task of a key.
* `eventsOf_history` — **the events of a key are those moments of its tasks that are reached**.
-/

set_option autoImplicit false

namespace EmojiLint

/-- What happens to a debouncer. -/
inductive Debouncer.Act (κ α : Type)
  /-- A task is scheduled, which may go on after it has begun. -/
  | schedule (key : κ) (delay : Nat) (event : α) (later : List (Nat × α))
  | cancel (key : κ)
  | cancelAll
  /-- Time passes. -/
  | pause (milliseconds : Nat)

namespace Debouncer

open Job (momentsOf)

variable {κ α : Type} [DecidableEq κ] {d : Debouncer κ α} {key : κ} {time : Nat}
  {acts : List (Act κ α)}

/-! ## Acts -/

namespace Act

/-- The debouncer after an act. -/
def apply (d : Debouncer κ α) : Act κ α → Debouncer κ α
  | schedule key delay event later => d.schedule key delay event later
  | cancel key => d.cancel key
  | cancelAll => d.cancelAll
  | pause milliseconds => (d.advance milliseconds).2

/-- The events of an act, with their times. -/
def events (d : Debouncer κ α) : Act κ α → List (Nat × κ × α)
  | pause milliseconds => d.timed milliseconds
  | schedule _ _ _ _ | cancel _ | cancelAll => []

/-- The time that passes. -/
def elapsed : Act κ α → Nat
  | pause milliseconds => milliseconds
  | schedule _ _ _ _ | cancel _ | cancelAll => 0

/-- Whether an act ends the task under a key: another task takes its place, or it is canceled. -/
def ends (key : κ) : Act κ α → Bool
  | schedule other _ _ _ => other = key
  | cancel other => other = key
  | cancelAll => true
  | pause _ => false

/-- Whether time passes, perhaps none. -/
def isPause : Act κ α → Bool
  | pause _ => true
  | schedule _ _ _ _ | cancel _ | cancelAll => false

/-- The moments of the task that an act schedules under a key. -/
def moments (key : κ) (now : Nat) : Act κ α → List (Nat × α)
  | schedule other delay event later =>
    if other = key then Job.momentsFrom (now + delay) event later else []
  | cancel _ | cancelAll | pause _ => []

/-- Whether an act names no other key. -/
def concerns (key : κ) : Act κ α → Bool
  | schedule other _ _ _ => other = key
  | cancel other => other = key
  | cancelAll | pause _ => true

end Act

/-- The debouncer after some acts. -/
def after (d : Debouncer κ α) (acts : List (Act κ α)) : Debouncer κ α :=
  acts.foldl Act.apply d

/-- All events of some acts, with their times. -/
def history (d : Debouncer κ α) : List (Act κ α) → List (Nat × κ × α)
  | [] => []
  | act :: rest => act.events d ++ history (act.apply d) rest

/-- The events under a key, with their times. -/
def eventsOf (key : κ) (events : List (Nat × κ × α)) : List (Nat × α) :=
  (events.filter fun e => e.2.1 = key).map fun e => (e.1, e.2.2)

/-- Whether the clock, which shows `now`, gets to a time before an act ends the task under a key. -/
def reaches (key : κ) (time now : Nat) : List (Act κ α) → Bool
  | [] => false
  | act :: rest =>
    !act.ends key &&
      (act.isPause && time ≤ now + act.elapsed || reaches key time (now + act.elapsed) rest)

/-- The moments of the tasks under a key that are reached. -/
def course (key : κ) (now : Nat) : List (Act κ α) → List (Nat × α)
  | [] => []
  | act :: rest =>
    ((act.moments key now).filter fun m => reaches key m.1 (now + act.elapsed) rest) ++
      course key (now + act.elapsed) rest

/-- The clock, which shows `now`, gets to a time in a pause that comes before all acts that end the
task under a key. -/
def Reached (key : κ) (time now : Nat) (acts : List (Act κ α)) : Prop :=
  ∃ before milliseconds rest, acts = before ++ .pause milliseconds :: rest ∧
    (∀ act ∈ before, act.ends key = false) ∧
    time ≤ now + (before.map Act.elapsed).sum + milliseconds

theorem reaches_iff {now : Nat} : reaches key time now acts = true ↔ Reached key time now acts := by
  induction acts generalizing now with
  | nil =>
    refine iff_of_false Bool.false_ne_true ?_
    rintro ⟨before, milliseconds, rest, heq, -⟩
    cases before <;> cases heq
  | cons act acts ih =>
    simp only [reaches, Bool.and_eq_true, Bool.not_eq_true', Bool.or_eq_true, decide_eq_true_eq, ih,
      Reached]
    constructor
    · rintro ⟨hends, ⟨hpause, htime⟩ | ⟨before, milliseconds, rest, rfl, hbefore, htime⟩⟩
      · cases act with
        | pause milliseconds =>
          exact ⟨[], milliseconds, acts, rfl, (fun _ h => nomatch h), htime⟩
        | schedule | cancel | cancelAll => cases hpause
      · refine ⟨act :: before, milliseconds, rest, rfl, List.forall_mem_cons.2 ⟨hends, hbefore⟩, ?_⟩
        rw [List.map_cons, List.sum_cons, ← Nat.add_assoc]
        exact htime
    · rintro ⟨before, milliseconds, rest, heq, hbefore, htime⟩
      cases before with
      | nil =>
        obtain ⟨rfl, rfl⟩ := List.cons.inj heq
        exact ⟨rfl, Or.inl ⟨rfl, htime⟩⟩
      | cons first before =>
        obtain ⟨rfl, rfl⟩ := List.cons.inj heq
        obtain ⟨hends, hbefore⟩ := List.forall_mem_cons.1 hbefore
        rw [List.map_cons, List.sum_cons, ← Nat.add_assoc] at htime
        exact ⟨hends, Or.inr ⟨before, milliseconds, rest, rfl, hbefore, htime⟩⟩

/-! ## The events under a key -/

theorem eventsOf_append (key : κ) (events more : List (Nat × κ × α)) :
    eventsOf key (events ++ more) = eventsOf key events ++ eventsOf key more := by
  rw [eventsOf, List.filter_append, List.map_append]
  rfl

/-- What is under a key, is under it in the restriction. -/
theorem eventsOf_timed (key : κ) (d : Debouncer κ α) (milliseconds : Nat) :
    eventsOf key (d.timed milliseconds) =
      ((d.restrict fun k => k = key).timed milliseconds).map fun e => (e.1, e.2.2) := by
  rw [timed_restrict]
  rfl

/-- The moments of a task that an act does not reach. -/
theorem filter_not_reached (key : κ) {act : Act κ α} (hact : act.isPause = false) (now : Nat)
    (moments : List (Nat × α)) :
    (moments.filter fun m => !act.ends key && (act.isPause && m.1 ≤ now + act.elapsed)) = [] ∧
      (moments.filter fun m => !act.ends key && !(act.isPause && m.1 ≤ now + act.elapsed)) =
        if act.ends key then [] else moments := by
  rw [hact]
  cases act.ends key <;> simp

/-- What one act does to the task under a key: some of its moments come, those that are neither
reached nor ended are left, and a new task may be scheduled. -/
theorem exists_jobUnder_apply {pending : Option (Job α)} (hpending : d.JobUnder key pending)
    (hnow : ∀ m ∈ momentsOf pending, d.now ≤ m.1) (act : Act κ α) :
    (act.apply d).now = d.now + act.elapsed ∧
    eventsOf key (act.events d) = (momentsOf pending).filter
      (fun m => !act.ends key && (act.isPause && m.1 ≤ d.now + act.elapsed)) ∧
    ∃ pending', (act.apply d).JobUnder key pending' ∧
      momentsOf pending' = (momentsOf pending).filter
        (fun m => !act.ends key && !(act.isPause && m.1 ≤ d.now + act.elapsed)) ++
          act.moments key d.now := by
  cases act with
  | schedule other delay event later =>
    obtain ⟨hnone, hleft⟩ := filter_not_reached key
      (rfl : (Act.schedule other delay event later).isPause = false) d.now (momentsOf pending)
    rw [hnone, hleft]
    by_cases hother : other = key
    · subst hother
      refine ⟨rfl, rfl, some ⟨d.now + delay, event, later⟩, ?_, ?_⟩
      · exact jobUnder_schedule d other delay event later
      · simp [Act.ends, Act.moments, momentsOf, Job.moments]
    · refine ⟨rfl, rfl, pending, ?_, ?_⟩
      · rw [JobUnder, Act.apply, restrict_schedule_of_neg (by simpa using hother)]
        exact hpending
      · simp [Act.ends, Act.moments, hother]
  | cancel other =>
    obtain ⟨hnone, hleft⟩ := filter_not_reached key
      (rfl : (Act.cancel other : Act κ α).isPause = false) d.now (momentsOf pending)
    rw [hnone, hleft]
    by_cases hother : other = key
    · subst hother
      refine ⟨rfl, rfl, none, ?_, ?_⟩
      · rw [JobUnder, Act.apply, restrict_cancel_of_pos, cancel, restrict]
        exact erase_under_self other d.jobs
      · simp [Act.ends, Act.moments, momentsOf]
    · refine ⟨rfl, rfl, pending, ?_, ?_⟩
      · rw [JobUnder, Act.apply, restrict_cancel_of_neg (by simpa using hother)]
        exact hpending
      · simp [Act.ends, Act.moments, hother]
  | cancelAll =>
    obtain ⟨hnone, hleft⟩ := filter_not_reached key
      (rfl : (Act.cancelAll : Act κ α).isPause = false) d.now (momentsOf pending)
    rw [hnone, hleft]
    exact ⟨rfl, rfl, none, rfl, rfl⟩
  | pause milliseconds =>
    obtain ⟨htimed, pending', hadvance, hleft⟩ := timed_entriesOf hpending hnow milliseconds
    rw [advance_restrict] at hadvance
    refine ⟨rfl, ?_, pending', congrArg jobs hadvance, ?_⟩
    · rw [Act.events, eventsOf_timed, htimed, List.map_map]
      exact List.map_id _
    · rw [hleft, Act.moments, List.append_nil]
      refine List.filter_congr fun m _ => ?_
      show decide (d.now + milliseconds < m.1) = !decide (m.1 ≤ d.now + milliseconds)
      rw [← decide_not]
      exact decide_eq_decide.2 Nat.not_le.symm

/-- What is left under a key is still to come. -/
theorem now_le_of_mem {act : Act κ α} {moments : List (Nat × α)} {moment : Nat × α}
    (hnow : ∀ m ∈ moments, d.now ≤ m.1)
    (h : moment ∈ moments.filter
        (fun m => !act.ends key && !(act.isPause && m.1 ≤ d.now + act.elapsed)) ++
          act.moments key d.now) : d.now + act.elapsed ≤ moment.1 := by
  rcases List.mem_append.1 h with h | h
  · obtain ⟨hmem, hleft⟩ := List.mem_filter.1 h
    cases act with
    | pause milliseconds =>
      have hlate : (!decide (moment.1 ≤ d.now + milliseconds)) = true := hleft
      exact Nat.le_of_not_le (of_decide_eq_false (Bool.not_eq_true' _ ▸ hlate))
    | schedule | cancel | cancelAll => exact hnow moment hmem
  · cases act with
    | schedule other delay event later =>
      rw [Act.moments] at h
      split_ifs at h
      · exact Nat.le_trans (Nat.le_add_right d.now delay) (Job.due_le_of_mem_momentsFrom h)
      · cases h
    | pause | cancel | cancelAll => cases h

/-- The moments that an act reaches come before those that are reached later. -/
theorem filter_reaches_cons {moments : List (Nat × α)}
    (h : moments.Pairwise fun m m' => m.1 ≤ m'.1) (act : Act κ α) (now : Nat) :
    (moments.filter fun m => reaches key m.1 now (act :: acts)) =
      (moments.filter fun m => !act.ends key && (act.isPause && m.1 ≤ now + act.elapsed)) ++
        (moments.filter
          fun m => !act.ends key && !(act.isPause && m.1 ≤ now + act.elapsed)).filter
            fun m => reaches key m.1 (now + act.elapsed) acts := by
  simp only [reaches]
  cases act.ends key with
  | true => simp
  | false =>
    cases act.isPause with
    | false => simp
    | true =>
      have hlate : ∀ m : Nat × α, (!decide (m.1 ≤ now + act.elapsed)) =
          decide (now + act.elapsed < m.1) := fun m => by
        rw [← decide_not]
        exact decide_eq_decide.2 Nat.not_le
      simp only [Bool.not_false, Bool.true_and, hlate]
      exact filter_le_or h _ _

/-- **The events under a key are the moments of its tasks that are reached**, those of the task that
was pending before first. -/
theorem eventsOf_history {pending : Option (Job α)} (hpending : d.JobUnder key pending)
    (hnow : ∀ m ∈ momentsOf pending, d.now ≤ m.1) (acts : List (Act κ α)) :
    eventsOf key (d.history acts) =
      ((momentsOf pending).filter fun m => reaches key m.1 d.now acts) ++
        course key d.now acts := by
  induction acts generalizing d pending with
  | nil =>
    rw [course, List.append_nil]
    exact (List.filter_eq_nil_iff.2 fun _ _ => Bool.false_ne_true).symm
  | cons act acts ih =>
    obtain ⟨hclock, hevents, pending', hpending', hleft⟩ :=
      exists_jobUnder_apply hpending hnow act
    have hnow' : ∀ m ∈ momentsOf pending', (act.apply d).now ≤ m.1 := by
      rw [hclock, hleft]
      exact fun m => now_le_of_mem hnow
    rw [history, eventsOf_append, ih hpending' hnow', hevents, hleft, hclock, course,
      filter_reaches_cons (Job.pairwise_momentsOf pending), List.filter_append, List.append_assoc,
      List.append_assoc]

/-- The events under a key are the moments of its tasks that are reached, from the start. -/
theorem eventsOf_history_eq_course (key : κ) (acts : List (Act κ α)) :
    eventsOf key (history {} acts) = course key 0 acts := by
  have hnone : ({} : Debouncer κ α).JobUnder key none := rfl
  exact eventsOf_history hnone (fun _ h => nomatch h) acts

end Debouncer
end EmojiLint
