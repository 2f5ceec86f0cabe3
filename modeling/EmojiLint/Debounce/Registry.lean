import EmojiLint.Debounce

/-!
# Tasks and the entries they clear

A debouncer can be kept as tasks that run on their own and a map with an entry for each key.  A task
clears its entry itself when its work is done, and this may come late: by then another task may have
taken the place.  So each task is given a **generation**, which no other task has, and it clears an
entry only if the entry is still of its generation.

What becomes of the work is what `Debouncer` says; only the map is seen as well.
-/

set_option autoImplicit false

namespace EmojiLint

/-- A task, told by the key it was scheduled under and by its generation. -/
structure Ticket (κ : Type) where
  key : κ
  generation : Nat
deriving DecidableEq, Repr

structure Registry (κ α : Type) where
  /-- The time now. -/
  now : Nat := 0
  /-- The generation of the next task.  It is not expected to run out. -/
  generation : Nat := 0
  /-- For each key, the generation of the task that was scheduled last. -/
  entries : List (κ × Nat) := []
  /-- The tasks with events to come, in the order in which they were scheduled. -/
  live : List (Ticket κ × Job α) := []
  /-- The tasks that have had their last event and are about to clear their entries. -/
  leaving : List (Ticket κ) := []
deriving DecidableEq, Repr

namespace Registry

variable {κ α : Type} [DecidableEq κ]

/-- The task that has the entry under a key. -/
def holder? (r : Registry κ α) (key : κ) : Option (Ticket κ) :=
  (r.entries.lookup key).map fun generation => ⟨key, generation⟩

/-! ## Tasks -/

/-- The tasks with events to come. -/
def tickets (live : List (Ticket κ × Job α)) : List (Ticket κ) :=
  live.map Prod.fst

/-- Whether a task has ended: it was aborted, or it has cleared its entry. -/
def hasEnded (r : Registry κ α) (task : Ticket κ) : Bool :=
  task ∉ tickets r.live && task ∉ r.leaving

/-- Let time pass.  The events that become due come with the keys of their tasks, and the tasks that
have none left are about to clear their entries. -/
def advance (r : Registry κ α) (milliseconds : Nat) : List (κ × α) × Registry κ α :=
  let time := r.now + milliseconds
  let (events, live) := Debouncer.runUntil time r.live
  let through := (tickets r.live).filter fun task => task ∉ tickets live
  (events.map fun event => (event.1.key, event.2),
    { r with now := time, live := live, leaving := r.leaving ++ through })

/-- A task that has done its work clears its entry, unless a task of another generation has taken
the place. -/
def leave (r : Registry κ α) (task : Ticket κ) : Registry κ α :=
  if task ∈ r.leaving then
    { r with
      entries :=
        if r.entries.lookup task.key = some task.generation then Assoc.erase task.key r.entries
        else r.entries
      leaving := r.leaving.filter fun other => other ≠ task }
  else r

/-- The tasks with events to come once the holder of an entry is aborted.  A task that is about to
clear its entry waits for nothing, so that it cannot be aborted. -/
def abortHolder (r : Registry κ α) (key : κ) : List (Ticket κ × Job α) :=
  match r.holder? key with
  | none => r.live
  | some task => Assoc.erase task r.live

/-! ## Scheduling -/

/-- Begin a task after a delay, in place of the one that has the entry.  The task begins only after
it has its entry. -/
def schedule (r : Registry κ α) (key : κ) (delay : Nat) (event : α) (later : List (Nat × α)) :
    Registry κ α :=
  { r with
    generation := r.generation + 1
    entries := Assoc.set key r.generation r.entries
    live := r.abortHolder key ++ [(⟨key, r.generation⟩, ⟨r.now + delay, event, later⟩)] }

/-- Whether the task that has the entry under a key is waiting or running. -/
def isPending (r : Registry κ α) (key : κ) : Bool :=
  (r.holder? key).any fun task => !r.hasEnded task

/-- Abort the task that has the entry under a key.  The answer is whether one was pending. -/
def cancel (r : Registry κ α) (key : κ) : Bool × Registry κ α :=
  (r.isPending key, { r with entries := Assoc.erase key r.entries, live := r.abortHolder key })

/-- Abort all tasks that have an entry. -/
def cancelAll (r : Registry κ α) : Registry κ α :=
  { r with entries := [], live := r.live.filter fun entry => r.holder? entry.1.key ≠ some entry.1 }

end Registry
end EmojiLint
