import EmojiLint.Proofs.Debounce

/-!
# Keys do not see each other

What happens under some keys can be told from the jobs under these keys, and time may pass in any
number of steps.

* `runUntil_runUntil` — time passes in two steps or in one.
* `lt_due_of_mem_runUntil` — nothing that is due is left behind.
* `runUntil_under` — the events under some keys come from the jobs under these keys.
* `runUntil_rename` — how the keys are named does not matter.
* `timed` — the events with the times at which they come.
-/

set_option autoImplicit false

namespace EmojiLint
namespace Debouncer

variable {κ α : Type} {time due early late : Nat} {jobs rest : List (κ × Job α)} {event : κ × α}
  {entry : κ × Job α}

/-! ## The next event -/

theorem nextTime?_eq_some_iff : nextTime? jobs = some due ↔
    (∃ entry ∈ jobs, entry.2.due = due) ∧ ∀ entry ∈ jobs, due ≤ entry.2.due := by
  rw [nextTime?, List.min?_eq_some_iff]
  simp only [List.mem_map, forall_exists_index, and_imp, forall_apply_eq_imp_iff₂]

theorem nextTime?_eq_none_iff : nextTime? jobs = none ↔ jobs = [] := by
  rw [nextTime?, List.min?_eq_none_iff, List.map_eq_nil_iff]

/-- A job whose next event comes at a time can have it. -/
theorem exists_popAt? (hentry : entry ∈ jobs) :
    ∃ event rest, popAt? entry.2.due jobs = some (event, rest) := by
  induction jobs with
  | nil => cases hentry
  | cons first jobs ih =>
    rw [popAt?]
    split_ifs with hdue
    · exact ⟨_, _, rfl⟩
    · rcases List.mem_cons.1 hentry with rfl | hentry
      · exact absurd rfl hdue
      · obtain ⟨event, rest, hpop⟩ := ih hentry
        exact ⟨event, first :: rest, by rw [hpop]; rfl⟩

/-- A job that has an event was there, and the event was due. -/
theorem exists_mem_of_popAt? (hpop : popAt? due jobs = some (event, rest)) :
    ∃ job, (event.1, job) ∈ jobs ∧ job.due = due ∧ job.event = event.2 := by
  induction jobs generalizing rest with
  | nil => cases hpop
  | cons first jobs ih =>
    rw [popAt?] at hpop
    split_ifs at hpop with hdue
    · rw [Option.some_inj, Prod.mk.injEq] at hpop
      exact ⟨first.2, hpop.1 ▸ List.mem_cons_self, hdue, by rw [← hpop.1]⟩
    · obtain ⟨⟨event', rest'⟩, hpop', heq⟩ := Option.map_eq_some_iff.1 hpop
      rw [Prod.mk.injEq] at heq
      obtain ⟨rfl, rfl⟩ := heq
      obtain ⟨job, hjob, hjobdue⟩ := ih hpop'
      exact ⟨job, List.mem_cons_of_mem _ hjob, hjobdue⟩

/-- At most the key of the event is gone after it. -/
theorem keys_popAt?_sublist (hpop : popAt? due jobs = some (event, rest)) :
    (keys rest).Sublist (keys jobs) := by
  induction jobs generalizing rest with
  | nil => cases hpop
  | cons first jobs ih =>
    rw [popAt?] at hpop
    split_ifs at hpop with hdue
    · rw [Option.some_inj, Prod.mk.injEq] at hpop
      rw [← hpop.2, keys_cons]
      cases first.2.next? with
      | none => exact List.sublist_cons_self _ _
      | some next => exact List.Sublist.refl _
    · obtain ⟨⟨event', rest'⟩, hpop', heq⟩ := Option.map_eq_some_iff.1 hpop
      rw [Prod.mk.injEq] at heq
      obtain ⟨rfl, rfl⟩ := heq
      exact (ih hpop').cons_cons first.1

/-! ## Time passes -/

theorem runUntil_of_forall_lt (h : ∀ entry ∈ jobs, time < entry.2.due) :
    runUntil time jobs = ([], jobs) := by
  rw [runUntil]
  cases hnext : nextTime? jobs with
  | none => rfl
  | some due =>
    obtain ⟨⟨entry, hentry, rfl⟩, -⟩ := nextTime?_eq_some_iff.1 hnext
    exact if_pos (h entry hentry)

/-- Nothing that is due is left behind. -/
theorem lt_due_of_mem_runUntil (hentry : entry ∈ (runUntil time jobs).2) : time < entry.2.due := by
  fun_induction runUntil time jobs with
  | case1 jobs hnext =>
    rw [nextTime?_eq_none_iff.1 hnext] at hentry
    cases hentry
  | case2 jobs due hnext hlt =>
    exact Nat.lt_of_lt_of_le hlt ((nextTime?_eq_some_iff.1 hnext).2 entry hentry)
  | case3 jobs due hnext hle hpop =>
    obtain ⟨⟨next, hmem, rfl⟩, -⟩ := nextTime?_eq_some_iff.1 hnext
    obtain ⟨event, rest, hpop'⟩ := exists_popAt? hmem
    rw [hpop] at hpop'
    cases hpop'
  | case4 jobs due hnext hle event rest hpop events remaining hrun ih =>
    rw [hrun] at ih
    exact ih hentry

theorem keys_runUntil_sublist (time : Nat) (jobs : List (κ × Job α)) :
    (keys (runUntil time jobs).2).Sublist (keys jobs) := by
  fun_induction runUntil time jobs with
  | case1 | case2 | case3 => exact List.Sublist.refl _
  | case4 jobs due hnext hle event rest hpop events remaining hrun ih =>
    rw [hrun] at ih
    exact ih.trans (keys_popAt?_sublist hpop)

/-- **Time passes in two steps or in one.** -/
theorem runUntil_runUntil (h : early ≤ late) (jobs : List (κ × Job α)) :
    runUntil late jobs =
      ((runUntil early jobs).1 ++ (runUntil late (runUntil early jobs).2).1,
        (runUntil late (runUntil early jobs).2).2) := by
  fun_induction runUntil early jobs with
  | case1 | case2 | case3 => rfl
  | case4 jobs due hnext hle event rest hpop events remaining hrun ih =>
    rw [hrun] at ih
    rw [runUntil_of_popAt? hnext (Nat.le_trans (Nat.le_of_not_lt hle) h) hpop, ih]
    rfl

/-! ## Some of the keys -/

/-- The entries under some keys. -/
def under {β : Type} (p : κ → Bool) (entries : List (κ × β)) : List (κ × β) :=
  entries.filter fun entry => p entry.1

section Under

variable {β : Type} {p : κ → Bool} {k : κ} {value : β} {entries others : List (κ × β)}

theorem mem_under {entry : κ × β} :
    entry ∈ under p entries ↔ entry ∈ entries ∧ p entry.1 = true :=
  List.mem_filter

theorem under_cons_of_pos (h : p k = true) :
    under p ((k, value) :: entries) = (k, value) :: under p entries :=
  List.filter_cons_of_pos h

theorem under_cons_of_neg (h : p k = false) :
    under p ((k, value) :: entries) = under p entries :=
  List.filter_cons_of_neg (Bool.eq_false_iff.1 h)

theorem under_append : under p (entries ++ others) = under p entries ++ under p others :=
  List.filter_append entries others

end Under

variable {p : κ → Bool}

theorem popAt?_under_of_pos (hpop : popAt? due jobs = some (event, rest))
    (hkey : p event.1 = true) : popAt? due (under p jobs) = some (event, under p rest) := by
  induction jobs generalizing rest with
  | nil => cases hpop
  | cons first jobs ih =>
    obtain ⟨k, job⟩ := first
    rw [popAt?] at hpop
    split_ifs at hpop with hdue
    · rw [Option.some_inj, Prod.mk.injEq] at hpop
      obtain ⟨rfl, rfl⟩ := hpop
      rw [under_cons_of_pos hkey, popAt?, if_pos hdue, under_append]
      cases job.next? with
      | none => rfl
      | some next => rw [Option.map_some, Option.toList_some, under_cons_of_pos hkey]; rfl
    · obtain ⟨⟨event', rest'⟩, hpop', heq⟩ := Option.map_eq_some_iff.1 hpop
      rw [Prod.mk.injEq] at heq
      obtain ⟨rfl, rfl⟩ := heq
      cases hfirst : p k with
      | true =>
        rw [under_cons_of_pos hfirst, under_cons_of_pos hfirst, popAt?, if_neg hdue,
          ih hpop']
        rfl
      | false =>
        rw [under_cons_of_neg hfirst, under_cons_of_neg hfirst]
        exact ih hpop'

theorem under_of_popAt?_of_neg (hpop : popAt? due jobs = some (event, rest))
    (hkey : p event.1 = false) : under p rest = under p jobs := by
  induction jobs generalizing rest with
  | nil => cases hpop
  | cons first jobs ih =>
    obtain ⟨k, job⟩ := first
    rw [popAt?] at hpop
    split_ifs at hpop with hdue
    · rw [Option.some_inj, Prod.mk.injEq] at hpop
      obtain ⟨rfl, rfl⟩ := hpop
      rw [under_cons_of_neg hkey, under_append]
      cases job.next? with
      | none => rfl
      | some next => rw [Option.map_some, Option.toList_some, under_cons_of_neg hkey]; rfl
    · obtain ⟨⟨event', rest'⟩, hpop', heq⟩ := Option.map_eq_some_iff.1 hpop
      rw [Prod.mk.injEq] at heq
      obtain ⟨rfl, rfl⟩ := heq
      cases hfirst : p k with
      | true => rw [under_cons_of_pos hfirst, under_cons_of_pos hfirst, ih hpop']
      | false => rw [under_cons_of_neg hfirst, under_cons_of_neg hfirst, ih hpop']

/-- **The events under some keys come from the jobs under these keys.** -/
theorem runUntil_under (p : κ → Bool) (time : Nat) (jobs : List (κ × Job α)) :
    runUntil time (under p jobs) =
      (under p (runUntil time jobs).1, under p (runUntil time jobs).2) := by
  fun_induction runUntil time jobs with
  | case1 jobs hnext =>
    rw [nextTime?_eq_none_iff.1 hnext]
    exact runUntil_nil time
  | case2 jobs due hnext hlt =>
    refine runUntil_of_forall_lt fun entry hentry => ?_
    exact Nat.lt_of_lt_of_le hlt ((nextTime?_eq_some_iff.1 hnext).2 entry (mem_under.1 hentry).1)
  | case3 jobs due hnext hle hpop =>
    obtain ⟨⟨next, hmem, rfl⟩, -⟩ := nextTime?_eq_some_iff.1 hnext
    obtain ⟨event, rest, hpop'⟩ := exists_popAt? hmem
    rw [hpop] at hpop'
    cases hpop'
  | case4 jobs due hnext hle event rest hpop events remaining hrun ih =>
    rw [hrun] at ih
    obtain ⟨k, value⟩ := event
    cases hkey : p k with
    | true =>
      obtain ⟨job, hjob, hdue, -⟩ := exists_mem_of_popAt? hpop
      have hnext' : nextTime? (under p jobs) = some due :=
        nextTime?_eq_some_iff.2 ⟨⟨_, mem_under.2 ⟨hjob, hkey⟩, hdue⟩, fun entry hentry =>
          (nextTime?_eq_some_iff.1 hnext).2 entry (mem_under.1 hentry).1⟩
      rw [runUntil_of_popAt? hnext' (Nat.le_of_not_lt hle) (popAt?_under_of_pos hpop hkey), ih,
        under_cons_of_pos hkey]
    | false => rw [← under_of_popAt?_of_neg hpop hkey, ih, under_cons_of_neg hkey]

/-! ## Other names for the keys -/

/-- Entries under other names. -/
def rename {ι β : Type} (f : κ → ι) (entries : List (κ × β)) : List (ι × β) :=
  entries.map fun entry => (f entry.1, entry.2)

variable {ι : Type}

theorem nextTime?_rename (f : κ → ι) (jobs : List (κ × Job α)) :
    nextTime? (rename f jobs) = nextTime? jobs := by
  rw [nextTime?, nextTime?, rename, List.map_map]
  rfl

theorem popAt?_rename (f : κ → ι) (time : Nat) (jobs : List (κ × Job α)) :
    popAt? time (rename f jobs) =
      (popAt? time jobs).map fun popped => ((f popped.1.1, popped.1.2), rename f popped.2) := by
  induction jobs with
  | nil => rfl
  | cons entry jobs ih =>
    obtain ⟨key, job⟩ := entry
    rw [rename, List.map_cons, popAt?, popAt?]
    split
    · rw [Option.map_some]
      cases job.next? <;> rfl
    · rw [← rename, ih, Option.map_map, Option.map_map]
      rfl

/-- **The events do not depend on how the keys are named.** -/
theorem runUntil_rename (f : κ → ι) (time : Nat) (jobs : List (κ × Job α)) :
    runUntil time (rename f jobs) =
      (rename f (runUntil time jobs).1, rename f (runUntil time jobs).2) := by
  fun_induction runUntil time jobs with
  | case1 jobs hnext =>
    rw [nextTime?_eq_none_iff.1 hnext]
    exact runUntil_nil time
  | case2 jobs due hnext hlt =>
    refine runUntil_of_forall_lt fun entry hentry => ?_
    obtain ⟨entry', hentry', rfl⟩ := List.mem_map.1 hentry
    exact Nat.lt_of_lt_of_le hlt ((nextTime?_eq_some_iff.1 hnext).2 entry' hentry')
  | case3 jobs due hnext hle hpop =>
    obtain ⟨⟨next, hmem, rfl⟩, -⟩ := nextTime?_eq_some_iff.1 hnext
    obtain ⟨event, rest, hpop'⟩ := exists_popAt? hmem
    rw [hpop] at hpop'
    cases hpop'
  | case4 jobs due hnext hle event rest hpop events remaining hrun ih =>
    rw [hrun] at ih
    have hpop' : popAt? due (rename f jobs) = some ((f event.1, event.2), rename f rest) := by
      rw [popAt?_rename, hpop]
      rfl
    rw [runUntil_of_popAt? ((nextTime?_rename f jobs).trans hnext) (Nat.le_of_not_lt hle) hpop', ih]
    rfl

/-! ## A debouncer -/

/-- The debouncer with the jobs under some keys only. -/
def restrict (p : κ → Bool) (d : Debouncer κ α) : Debouncer κ α :=
  { d with jobs := under p d.jobs }

variable (d : Debouncer κ α)

theorem advance_restrict (p : κ → Bool) (milliseconds : Nat) :
    (d.restrict p).advance milliseconds =
      (under p (d.advance milliseconds).1, (d.advance milliseconds).2.restrict p) := by
  rw [advance, restrict, runUntil_under]
  rfl

/-- Time passes in two steps or in one. -/
theorem advance_add (early late : Nat) :
    d.advance (early + late) =
      ((d.advance early).1 ++ ((d.advance early).2.advance late).1,
        ((d.advance early).2.advance late).2) := by
  have hrun := runUntil_runUntil (Nat.le_add_right (d.now + early) late) d.jobs
  rw [advance, ← Nat.add_assoc, hrun]
  rfl

/-- The events of some time with the moments at which they come, in steps of a millisecond. -/
def timed : Nat → List (Nat × κ × α)
  | 0 => (d.advance 0).1.map fun event => (d.now, event)
  | ms + 1 =>
    timed ms ++ ((d.advance ms).2.advance 1).1.map fun event => (d.now + (ms + 1), event)

/-- The events with their times are the events. -/
theorem map_snd_timed (milliseconds : Nat) :
    (d.timed milliseconds).map Prod.snd = (d.advance milliseconds).1 := by
  induction milliseconds with
  | zero =>
    rw [timed, List.map_map]
    exact List.map_id _
  | succ ms ih =>
    rw [timed, List.map_append, ih, List.map_map, advance_add]
    exact congrArg _ (List.map_id _)

theorem timed_restrict (p : κ → Bool) (milliseconds : Nat) :
    (d.restrict p).timed milliseconds = (d.timed milliseconds).filter fun entry => p entry.2.1 := by
  have hstamp : ∀ (time : Nat) (events : List (κ × α)),
      (under p events).map (fun event => (time, event)) =
        (events.map fun event => (time, event)).filter fun entry => p entry.2.1 := by
    intro time events
    rw [List.filter_map]
    rfl
  induction milliseconds with
  | zero =>
    rw [timed, timed, advance_restrict, hstamp]
    rfl
  | succ ms ih =>
    rw [timed, timed, ih, advance_restrict, advance_restrict, hstamp, List.filter_append]
    rfl

/-! ## Scheduling -/

variable [DecidableEq κ] {d : Debouncer κ α} {key : κ}

theorem under_erase (entries : List (κ × Job α)) :
    under p (Assoc.erase key entries) = Assoc.erase key (under p entries) := by
  simp only [under, Assoc.erase, List.filter_filter, Bool.and_comm]

theorem erase_under_of_neg (hkey : p key = false) (entries : List (κ × Job α)) :
    Assoc.erase key (under p entries) = under p entries := by
  refine List.filter_eq_self.2 fun entry hentry => decide_eq_true ?_
  rintro rfl
  exact absurd ((mem_under.1 hentry).2.symm.trans hkey) (by decide)

theorem restrict_schedule_of_pos (hkey : p key = true) (delay : Nat) (event : α)
    (later : List (Nat × α)) :
    (d.schedule key delay event later).restrict p =
      (d.restrict p).schedule key delay event later := by
  rw [restrict, schedule, schedule, restrict]
  simp only [under_append, under_erase, under_cons_of_pos hkey]
  rfl

theorem restrict_schedule_of_neg (hkey : p key = false) (delay : Nat) (event : α)
    (later : List (Nat × α)) :
    (d.schedule key delay event later).restrict p = d.restrict p := by
  rw [restrict, schedule, restrict]
  simp only [under_append, under_erase, under_cons_of_neg hkey, erase_under_of_neg hkey]
  rw [show under p ([] : List (κ × Job α)) = [] from rfl, List.append_nil]

theorem restrict_cancel_of_pos (d : Debouncer κ α) (key : κ) :
    (d.cancel key).restrict p = (d.restrict p).cancel key := by
  rw [restrict, cancel, cancel, restrict]
  simp only [under_erase]

theorem restrict_cancel_of_neg (hkey : p key = false) :
    (d.cancel key).restrict p = d.restrict p := by
  rw [restrict_cancel_of_pos, cancel, restrict]
  simp only [erase_under_of_neg hkey]

end Debouncer
end EmojiLint
