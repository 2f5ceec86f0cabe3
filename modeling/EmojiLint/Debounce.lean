import EmojiLint.Assoc

/-!
# Debouncing

Work that should wait until things have calmed down is scheduled under a key.  Scheduling again
under the same key replaces whatever of the earlier work is still to come, so the last call wins.

A `Job` is a list of events with the times between them, so that work may begin at one moment and
end at a later one.  A `Debouncer` has a clock of its own, which counts milliseconds and moves only
in `Debouncer.advance`; the events that become due on the way are reported in the order of their
times, those of one moment in the order in which they were scheduled.

How tasks keep track of which of them is pending under a key, `Registry` says.
-/

set_option autoImplicit false

namespace EmojiLint

/-- Work with events that are still to come. -/
structure Job (α : Type) where
  /-- When the next event comes. -/
  due : Nat
  event : α
  /-- The events after it, each with the time since the one before. -/
  later : List (Nat × α) := []
deriving DecidableEq, Repr

/-- The job once its next event has come, unless that was the last one. -/
def Job.next? {α : Type} (job : Job α) : Option (Job α) :=
  match job.later with
  | [] => none
  | (wait, event) :: later => some ⟨job.due + wait, event, later⟩

structure Debouncer (κ α : Type) where
  /-- The time now. -/
  now : Nat := 0
  /-- The jobs with events to come, in the order in which they were scheduled. -/
  jobs : List (κ × Job α) := []
deriving DecidableEq, Repr

namespace Debouncer

variable {κ α : Type}

/-! ## Letting time pass -/

/-- The number of events to come. -/
def eventCount (jobs : List (κ × Job α)) : Nat :=
  jobs.foldr (fun entry n => entry.2.later.length + 1 + n) 0

/-- Let the first job whose next event comes at a time have that event. -/
def popAt? (time : Nat) : List (κ × Job α) → Option ((κ × α) × List (κ × Job α))
  | [] => none
  | (key, job) :: rest =>
    if job.due = time then
      some ((key, job.event), (job.next?.map fun next => (key, next)).toList ++ rest)
    else (popAt? time rest).map fun (event, rest) => (event, (key, job) :: rest)

/-- The time of the next event. -/
def nextTime? (jobs : List (κ × Job α)) : Option Nat :=
  (jobs.map fun entry => entry.2.due).min?

theorem eventCount_popAt? {time : Nat} {jobs rest : List (κ × Job α)} {event : κ × α}
    (h : popAt? time jobs = some (event, rest)) : eventCount rest + 1 = eventCount jobs := by
  induction jobs generalizing event rest with
  | nil => simp [popAt?] at h
  | cons entry jobs ih =>
    obtain ⟨key, job⟩ := entry
    unfold popAt? at h
    split at h
    · simp only [Option.some.injEq, Prod.mk.injEq] at h
      rw [← h.2]
      unfold Job.next?
      cases hlater : job.later with
      | nil => simp [eventCount, hlater, Nat.add_comm]
      | cons wait later => simp [eventCount, hlater]; omega
    · obtain ⟨⟨event', rest'⟩, hpop, heq⟩ := Option.map_eq_some_iff.1 h
      simp only [Prod.mk.injEq] at heq
      have := ih hpop
      rw [← heq.2]
      simp only [eventCount, List.foldr_cons] at this ⊢
      omega

/-- The events up to a time, and the jobs that remain. -/
def runUntil (time : Nat) (jobs : List (κ × Job α)) : List (κ × α) × List (κ × Job α) :=
  match nextTime? jobs with
  | none => ([], jobs)
  | some due =>
    if time < due then ([], jobs)
    else
      match _hpop : popAt? due jobs with
      | none => ([], jobs)
      | some (event, rest) =>
        let (events, remaining) := runUntil time rest
        (event :: events, remaining)
termination_by eventCount jobs
decreasing_by
  have := eventCount_popAt? _hpop
  omega

/-- Let time pass.  The events that become due come with their keys; an event that is due exactly at
the end has come. -/
def advance (d : Debouncer κ α) (milliseconds : Nat) : List (κ × α) × Debouncer κ α :=
  let time := d.now + milliseconds
  let (events, jobs) := runUntil time d.jobs
  (events, ⟨time, jobs⟩)

/-! ## Scheduling -/

variable [DecidableEq κ]

/-- Begin a job after a delay, in place of the one under the same key. -/
def schedule (d : Debouncer κ α) (key : κ) (delay : Nat) (event : α) (later : List (Nat × α)) :
    Debouncer κ α :=
  { d with jobs := Assoc.erase key d.jobs ++ [(key, ⟨d.now + delay, event, later⟩)] }

/-- Whether the job under a key still has an event to come. -/
def isPending (d : Debouncer κ α) (key : κ) : Bool :=
  d.jobs.any fun entry => entry.1 = key

/-- Drop the job under a key. -/
def cancel (d : Debouncer κ α) (key : κ) : Debouncer κ α :=
  { d with jobs := Assoc.erase key d.jobs }

/-- Drop all jobs. -/
def cancelAll (d : Debouncer κ α) : Debouncer κ α :=
  { d with jobs := [] }

end Debouncer
end EmojiLint
