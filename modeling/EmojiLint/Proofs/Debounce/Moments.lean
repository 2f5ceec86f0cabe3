import EmojiLint.Proofs.Debounce.Time
import Mathlib.Algebra.GroupWithZero.Nat

/-!
# The moments of a job

A job has its events at times that are known when it is scheduled.  As long as nothing is scheduled
or canceled under its key, what comes of it can be read off these times.

* `Job.moments` — the events of a job with their times.
* `timed_entriesOf` — a single job has its moments, one after the other.
* `JobUnder` — the job under a key, among others.
* `under_advance_schedule` — what comes of the task that was scheduled last.
-/

set_option autoImplicit false

namespace EmojiLint

/-! ## Times -/

namespace Job

variable {α : Type} {job : Job α}

/-- The times of events, the first of which is given and the others come later. -/
def momentsFrom (due : Nat) (event : α) : List (Nat × α) → List (Nat × α)
  | [] => [(due, event)]
  | (wait, next) :: later => (due, event) :: momentsFrom (due + wait) next later

/-- The events of a job with their times. -/
def moments (job : Job α) : List (Nat × α) :=
  momentsFrom job.due job.event job.later

/-- The moments of the job under a key, if there is one. -/
def momentsOf (pending : Option (Job α)) : List (Nat × α) :=
  pending.elim [] moments

theorem moments_eq (job : Job α) : job.moments = (job.due, job.event) :: momentsOf job.next? := by
  obtain ⟨due, event, later⟩ := job
  cases later <;> rfl

theorem due_le_of_mem_momentsFrom {due : Nat} {event : α} {later : List (Nat × α)}
    {moment : Nat × α} (h : moment ∈ momentsFrom due event later) : due ≤ moment.1 := by
  induction later generalizing due event with
  | nil => exact Nat.le_of_eq (congrArg Prod.fst (List.mem_singleton.1 h)).symm
  | cons next later ih =>
    rcases List.mem_cons.1 h with rfl | h
    · exact Nat.le_refl _
    · exact Nat.le_trans (Nat.le_add_right _ _) (ih h)

/-- The moments of a job come in order. -/
theorem pairwise_momentsFrom (due : Nat) (event : α) (later : List (Nat × α)) :
    (momentsFrom due event later).Pairwise fun m m' => m.1 ≤ m'.1 := by
  induction later generalizing due event with
  | nil => exact List.pairwise_singleton _ _
  | cons next later ih =>
    refine List.pairwise_cons.2 ⟨fun moment h => ?_, ih _ _⟩
    exact Nat.le_trans (Nat.le_add_right _ _) (due_le_of_mem_momentsFrom h)

theorem pairwise_momentsOf (pending : Option (Job α)) :
    (momentsOf pending).Pairwise fun m m' => m.1 ≤ m'.1 := by
  cases pending with
  | none => exact List.Pairwise.nil
  | some job => exact pairwise_momentsFrom _ _ _

end Job

namespace Debouncer

open Job (momentsOf)

variable {κ α : Type} {key : κ} {time : Nat}

/-! ## Moments up to a time -/

/-- Moments in order are those up to a time, and then those after it. -/
theorem filter_append_filter {moments : List (Nat × α)}
    (h : moments.Pairwise fun m m' => m.1 ≤ m'.1) (time : Nat) :
    (moments.filter fun m => m.1 ≤ time) ++ (moments.filter fun m => time < m.1) = moments := by
  induction moments with
  | nil => rfl
  | cons m moments ih =>
    obtain ⟨hle, hrest⟩ := List.pairwise_cons.1 h
    by_cases hm : m.1 ≤ time
    · rw [List.filter_cons_of_pos (by simpa using hm),
        List.filter_cons_of_neg (by simpa using hm), List.cons_append, ih hrest]
    · have hall : ∀ m' ∈ m :: moments, time < m'.1 := by
        intro m' hm'
        rcases List.mem_cons.1 hm' with rfl | hm'
        · exact Nat.lt_of_not_le hm
        · exact Nat.lt_of_lt_of_le (Nat.lt_of_not_le hm) (hle m' hm')
      have hnone : (m :: moments).filter (fun m => decide (m.1 ≤ time)) = [] :=
        List.filter_eq_nil_iff.2 fun m' hm' => by
          simpa using hall m' hm'
      have hsome : (m :: moments).filter (fun m => decide (time < m.1)) = m :: moments :=
        List.filter_eq_self.2 fun m' hm' => decide_eq_true (hall m' hm')
      rw [hnone, hsome, List.nil_append]

/-- The moments up to the next time. -/
theorem filter_le_succ {moments : List (Nat × α)} (h : moments.Pairwise fun m m' => m.1 ≤ m'.1)
    (time : Nat) :
    (moments.filter fun m => m.1 ≤ time) ++
        (moments.filter fun m => time < m.1).filter (fun m => m.1 ≤ time + 1) =
      moments.filter fun m => m.1 ≤ time + 1 := by
  have hearly : (moments.filter fun m => m.1 ≤ time).filter (fun m => m.1 ≤ time + 1) =
      moments.filter fun m => m.1 ≤ time :=
    List.filter_eq_self.2 fun m hm =>
      decide_eq_true (Nat.le_succ_of_le (of_decide_eq_true (List.mem_filter.1 hm).2))
  rw [← hearly, ← List.filter_append, filter_append_filter h]

/-- The moments up to a time come before others that are chosen. -/
theorem filter_le_or {moments : List (Nat × α)} (h : moments.Pairwise fun m m' => m.1 ≤ m'.1)
    (time : Nat) (chosen : Nat × α → Bool) :
    (moments.filter fun m => m.1 ≤ time || chosen m) =
      (moments.filter fun m => m.1 ≤ time) ++
        (moments.filter fun m => time < m.1).filter chosen := by
  calc
    _ = ((moments.filter fun m => m.1 ≤ time) ++ (moments.filter fun m => time < m.1)).filter
          fun m => m.1 ≤ time || chosen m := by rw [filter_append_filter h]
    _ = _ := by
      rw [List.filter_append]
      congr 1
      · exact List.filter_eq_self.2 fun m hm => by rw [(List.mem_filter.1 hm).2, Bool.true_or]
      · refine List.filter_congr fun m hm => ?_
        rw [decide_eq_false (Nat.not_le.2 (of_decide_eq_true (List.mem_filter.1 hm).2)),
          Bool.false_or]

/-! ## A single job -/

/-- The jobs of a debouncer with one key at most. -/
def entriesOf (key : κ) (pending : Option (Job α)) : List (κ × Job α) :=
  (pending.map fun job => (key, job)).toList

/-- A single job that is due has its event, and goes on. -/
theorem runUntil_of_due {job : Job α} (hdue : job.due ≤ time) :
    runUntil time (entriesOf key (some job)) =
      ((key, job.event) :: (runUntil time (entriesOf key job.next?)).1,
        (runUntil time (entriesOf key job.next?)).2) := by
  have hnext : nextTime? (entriesOf key (some job)) = some job.due := rfl
  have hpop : popAt? job.due (entriesOf key (some job)) =
      some ((key, job.event), entriesOf key job.next?) := by
    refine (if_pos rfl).trans ?_
    rw [List.append_nil]
    rfl
  exact runUntil_of_popAt? hnext hdue hpop

theorem runUntil_of_not_due {job : Job α} (hdue : time < job.due) :
    runUntil time (entriesOf key (some job)) = ([], entriesOf key (some job)) :=
  runUntil_of_forall_lt fun entry hentry => by
    rw [List.mem_singleton.1 hentry]
    exact hdue

/-- A single job has its moments, one after the other. -/
theorem runUntil_entriesOf (key : κ) (pending : Option (Job α)) (time : Nat) :
    ∃ pending', runUntil time (entriesOf key pending) =
        (((momentsOf pending).filter fun m => m.1 ≤ time).map fun m => (key, m.2),
          entriesOf key pending') ∧
      momentsOf pending' = (momentsOf pending).filter fun m => time < m.1 := by
  -- the induction is on the number of moments that are left
  induction hsize : (momentsOf pending).length generalizing pending with
  | zero =>
    cases pending with
    | none => exact ⟨none, runUntil_nil time, rfl⟩
    | some job =>
      rw [momentsOf, Option.elim_some, Job.moments_eq, List.length_cons] at hsize
      cases hsize
  | succ n ih =>
    cases pending with
    | none => cases hsize
    | some job =>
      have hmoments : momentsOf (some job) = (job.due, job.event) :: momentsOf job.next? :=
        job.moments_eq
      by_cases hdue : job.due ≤ time
      · rw [hmoments, List.length_cons, Nat.add_right_cancel_iff] at hsize
        obtain ⟨pending', hrun, hleft⟩ := ih job.next? hsize
        refine ⟨pending', ?_, ?_⟩
        · rw [runUntil_of_due hdue, hrun, hmoments, List.filter_cons_of_pos (by simpa using hdue)]
          rfl
        · rw [hleft, hmoments, List.filter_cons_of_neg (by simpa using hdue)]
      · have hlate : ∀ m ∈ momentsOf (some job), time < m.1 := fun m hm =>
          Nat.lt_of_lt_of_le (Nat.lt_of_not_le hdue) (Job.due_le_of_mem_momentsFrom hm)
        refine ⟨some job, ?_, ?_⟩
        · have hnone : (momentsOf (some job)).filter (fun m => decide (m.1 ≤ time)) = [] :=
            List.filter_eq_nil_iff.2 fun m hm => by simpa using hlate m hm
          rw [runUntil_of_not_due (Nat.lt_of_not_le hdue), hnone, List.map_nil]
        · exact (List.filter_eq_self.2 fun m hm => decide_eq_true (hlate m hm)).symm

/-- A single job has its moments at their times. -/
theorem timed_entriesOf {d : Debouncer κ α} {pending : Option (Job α)}
    (hjobs : d.jobs = entriesOf key pending) (hnow : ∀ m ∈ momentsOf pending, d.now ≤ m.1)
    (milliseconds : Nat) :
    d.timed milliseconds =
        ((momentsOf pending).filter fun m => m.1 ≤ d.now + milliseconds).map
          (fun m => (m.1, key, m.2)) ∧
      ∃ pending', (d.advance milliseconds).2 = ⟨d.now + milliseconds, entriesOf key pending'⟩ ∧
        momentsOf pending' =
          (momentsOf pending).filter fun m => d.now + milliseconds < m.1 := by
  induction milliseconds with
  | zero =>
    obtain ⟨pending', hrun, hleft⟩ := runUntil_entriesOf key pending (d.now + 0)
    rw [← hjobs] at hrun
    refine ⟨?_, pending', by rw [advance, hrun], hleft⟩
    rw [timed, advance, hrun, List.map_map]
    refine List.map_congr_left fun m hm => ?_
    obtain ⟨hm, hle⟩ := List.mem_filter.1 hm
    have hat : d.now = m.1 := Nat.le_antisymm (hnow m hm) (of_decide_eq_true hle)
    rw [Function.comp_apply, hat]
  | succ ms ih =>
    obtain ⟨htimed, pending', hadvance, hleft⟩ := ih
    obtain ⟨pending'', hrun, hleft'⟩ := runUntil_entriesOf key pending' (d.now + ms + 1)
    rw [hleft] at hrun hleft'
    have hnext : advance ⟨d.now + ms, entriesOf key pending'⟩ 1 =
        (((((momentsOf pending).filter fun m => d.now + ms < m.1).filter
          fun m => m.1 ≤ d.now + ms + 1).map fun m => (key, m.2)),
          ⟨d.now + ms + 1, entriesOf key pending''⟩) := by
      rw [advance, hrun]
    rw [← Nat.add_assoc]
    refine ⟨?_, pending'', ?_, ?_⟩
    · rw [timed, htimed, hadvance, hnext, ← filter_le_succ (Job.pairwise_momentsOf pending),
        List.map_append, List.map_map]
      refine congrArg _ (List.map_congr_left fun m hm => ?_)
      obtain ⟨hm, hle⟩ := List.mem_filter.1 hm
      have hat : d.now + ms + 1 = m.1 :=
        Nat.le_antisymm (of_decide_eq_true (List.mem_filter.1 hm).2) (of_decide_eq_true hle)
      rw [Function.comp_apply, ← hat]
      rfl
    · rw [advance_add, hadvance, hnext]
    · rw [hleft', List.filter_filter]
      refine List.filter_congr fun m _ => ?_
      rw [← Bool.decide_and]
      exact decide_eq_decide.2 ⟨fun h => h.1, fun h => ⟨h, Nat.lt_of_succ_lt h⟩⟩

/-! ## The job under a key -/

variable [DecidableEq κ] {d : Debouncer κ α}

/-- The only job under a key, or none. -/
def JobUnder (d : Debouncer κ α) (key : κ) (pending : Option (Job α)) : Prop :=
  (d.restrict fun k => k = key).jobs = entriesOf key pending

theorem erase_under_self (key : κ) (jobs : List (κ × Job α)) :
    Assoc.erase key (under (fun k => k = key) jobs) = [] :=
  List.filter_eq_nil_iff.2 fun entry hentry => by simpa using (mem_under.1 hentry).2

/-- A task that was just scheduled is pending. -/
theorem jobUnder_schedule (d : Debouncer κ α) (key : κ) (delay : Nat) (event : α)
    (later : List (Nat × α)) :
    (d.schedule key delay event later).JobUnder key (some ⟨d.now + delay, event, later⟩) := by
  rw [JobUnder, restrict_schedule_of_pos (by simp), schedule, restrict]
  simp only [erase_under_self]
  rfl

/-- A key is waiting when there is a job under it, which has a moment to come. -/
theorem mem_keys_iff {pending : Option (Job α)} (h : d.JobUnder key pending) :
    key ∈ keys d.jobs ↔ momentsOf pending ≠ [] := by
  have hmem : key ∈ keys d.jobs ↔ under (fun k => k = key) d.jobs ≠ [] := by
    rw [← List.isEmpty_eq_false_iff, List.isEmpty_eq_false_iff_exists_mem, keys, List.mem_map]
    refine exists_congr fun entry => ?_
    rw [mem_under, decide_eq_true_eq]
  rw [hmem, show under (fun k => k = key) d.jobs = entriesOf key pending from h]
  cases pending with
  | none => exact iff_of_false (fun h => h rfl) (fun h => h rfl)
  | some job =>
    refine iff_of_true (List.cons_ne_nil _ _) ?_
    rw [momentsOf, Option.elim_some, Job.moments_eq]
    exact List.cons_ne_nil _ _

/-- **What comes of a task that was scheduled last**: it begins when its delay is over, and waits
until then. -/
theorem under_advance_schedule (d : Debouncer κ α) (key : κ) (delay : Nat) (event : α)
    (milliseconds : Nat) :
    under (fun k => k = key) ((d.schedule key delay event []).advance milliseconds).1 =
        (if delay ≤ milliseconds then [(key, event)] else []) ∧
      (((d.schedule key delay event []).advance milliseconds).2.isPending key = true ↔
        milliseconds < delay) := by
  let job : Job α := ⟨d.now + delay, event, []⟩
  have hmoments : momentsOf (some job) = [(d.now + delay, event)] := rfl
  obtain ⟨left, hrun, hleft⟩ := runUntil_entriesOf key (some job) (d.now + milliseconds)
  have hadvance := advance_restrict (d.schedule key delay event []) (fun k => k = key) milliseconds
  rw [advance, jobUnder_schedule] at hadvance
  have hnow : ((d.schedule key delay event []).restrict fun k => k = key).now = d.now := rfl
  rw [hnow, hrun, Prod.mk.injEq] at hadvance
  obtain ⟨hevents, hjobs⟩ := hadvance
  have hunder : ((d.schedule key delay event []).advance milliseconds).2.JobUnder key left :=
    (congrArg jobs hjobs).symm
  rw [isPending_iff, mem_keys_iff hunder, ← hevents, hleft, hmoments]
  by_cases hdue : delay ≤ milliseconds
  · rw [if_pos hdue, List.filter_cons_of_pos (by simpa using hdue),
      List.filter_cons_of_neg (by simpa using hdue)]
    exact ⟨rfl, iff_of_false (fun h => h rfl) (Nat.not_lt.2 hdue)⟩
  · rw [if_neg hdue, List.filter_cons_of_neg (by simpa using hdue),
      List.filter_cons_of_pos (by simpa using hdue)]
    exact ⟨rfl, iff_of_true (List.cons_ne_nil _ _) (Nat.lt_of_not_le hdue)⟩

end Debouncer
end EmojiLint
