import EmojiLint.Project.Discovery
import EmojiLint.Proofs.Disk.Follow
import EmojiLint.Proofs.Path.Seen

/-!
# How deep a disk is

Every name on the way to something either leads one folder down or follows a link.  Between two
links a way is no longer than the disk is deep, and only so many links are followed, so there is a
bound for the names that can follow one another in a path that leads to anything.

* `hops_descend` — the hops of a path that goes down.
* `length_add_room_le` — what is left of the bound after some names.
* `length_lt_walkDepth` — the depth to which folders are walked is never reached.
-/

set_option autoImplicit false

namespace EmojiLint
namespace Disk

open EmojiLint.Path (IsName)

variable {disk : Disk} {links l : Nat} {loc x : Location} {p : Path} {name : String}
  {names : List String} {node : Node}

/-! ## The hops of a path that goes down -/

/-- The hops of a path but for a slash at its end. -/
def steps (p : Path) : List Hop :=
  (p.trunk.filter fun segment => !segment.isEmpty).map (Hop.ofSegment p.isText)

/-- The hop to an entry. -/
def entryHop (isText : Bool) (name : String) : Hop :=
  Hop.ofSegment isText name.toList

theorem entryHop_eq_or (h : IsName name) (isText : Bool) :
    entryHop isText name = .name name ∨ entryHop isText name = .stray := by
  rw [entryHop, Hop.ofSegment, Path.Component.ofSegment?_toList h, Path.Component.ofName]
  cases !isText && name.toList.contains '\uFFFD' with
  | false => exact Or.inl (congrArg Hop.name String.ofList_toList)
  | true => exact Or.inr rfl

theorem filter_body_child (h : IsName name) :
    ((p.child name).body.filter fun segment => !segment.isEmpty) =
      (p.trunk.filter fun segment => !segment.isEmpty) ++ [name.toList] := by
  have hname : (fun segment : List Char => !segment.isEmpty) name.toList = true := by
    rw [Bool.not_eq_true', List.isEmpty_eq_false_iff]
    exact h.ne_empty
  rw [Path.body_child h, List.filter_append, List.filter_cons, if_pos hname, List.filter_nil]

theorem steps_child (h : IsName name) :
    steps (p.child name) = steps p ++ [entryHop p.isText name] := by
  rw [steps, Path.trunk_child h, ← Path.body_child h, filter_body_child h, Path.isText_child h,
    List.map_append]
  rfl

/-- The path of an entry ends with its name. -/
theorem hops_child (h : IsName name) :
    hops (p.child name) = steps p ++ [entryHop p.isText name] := by
  have hlast : (p.child name).body.getLast? ≠ some [] := by
    rw [Path.body_child h, List.getLast?_concat]
    exact fun heq => h.ne_empty (Option.some_inj.1 heq)
  rw [hops, if_neg hlast, List.append_nil, filter_body_child h, Path.isText_child h,
    List.map_append]
  rfl

/-- **A path that goes down has the hops of the folder and one for each name.** -/
theorem hops_descend (h : ∀ name ∈ names, IsName name) (hnames : names ≠ []) :
    hops (p.descend names) = steps p ++ names.map (entryHop p.isText) := by
  induction names generalizing p with
  | nil => exact absurd rfl hnames
  | cons name names ih =>
    have hname := h name List.mem_cons_self
    rw [Path.descend_cons, List.map_cons]
    by_cases hlast : names = []
    · rw [hlast]
      exact hops_child hname
    · rw [ih (fun other hother => h other (List.mem_cons_of_mem _ hother)) hlast,
        steps_child hname, Path.isText_child hname, List.append_assoc, List.singleton_append]

/-! ## How many names can follow one another -/

/-- A fold that never goes down ends above its start. -/
theorem le_foldl {β : Type} {step : Nat → β → Nat} (hstep : ∀ n x, n ≤ step n x) (xs : List β)
    (n : Nat) : n ≤ xs.foldl step n := by
  induction xs generalizing n with
  | nil => exact Nat.le_refl n
  | cons x xs ih => exact Nat.le_trans (hstep n x) (ih (step n x))

/-- A fold that never goes down ends above what each of its steps reaches. -/
theorem le_foldl_of_mem {β : Type} {step : Nat → β → Nat} (hstep : ∀ n x, n ≤ step n x)
    {xs : List β} {x : β} (hx : x ∈ xs) {k : Nat} (hk : ∀ n, k ≤ step n x) (n : Nat) :
    k ≤ xs.foldl step n := by
  obtain ⟨front, rest, rfl⟩ := List.append_of_mem hx
  rw [List.foldl_append, List.foldl_cons]
  exact Nat.le_trans (hk _) (le_foldl hstep rest _)

theorem length_le_depth_of_mem (h : (loc, node) ∈ disk.entries) : loc.length ≤ disk.depth := by
  rw [depth]
  refine le_foldl_of_mem (fun n entry => ?_) h (fun n => ?_) 0
  · exact Nat.le_max_left _ _
  · exact Nat.le_max_right _ _

theorem length_le_depth (h : disk.node? loc = some node) : loc.length ≤ disk.depth := by
  rw [node?] at h
  split at h
  · next hroot =>
    rw [hroot]
    exact Nat.zero_le _
  · obtain ⟨front, rest, hentries, -⟩ := List.lookup_eq_some_iff.1 h
    exact length_le_depth_of_mem (hentries ▸ List.mem_append_right _ List.mem_cons_self)

/-- How many names can follow at most: each link leads to a way as long as the disk is deep. -/
def room (disk : Disk) (links : Nat) (loc : Location) : Nat :=
  links * (disk.depth + 1) + (disk.depth - loc.length)

/-- An entry takes room. -/
theorem room_lt_of_leads (h : Leads disk links loc [.name name] l x) :
    disk.room l x < disk.room links loc := by
  cases h with
  | name hfolder hlength hnode hlink hrest =>
    cases hrest
    have := length_le_depth hnode
    rw [List.length_append, List.length_singleton] at this
    rw [room, room, List.length_append, List.length_singleton]
    omega
  | @link links _ _ _ _ _ _ target hfolder hlength hnode htarget hrest =>
    have := Nat.mul_le_mul_right (disk.depth + 1) hrest.links_le
    rw [room, room, Nat.succ_mul]
    omega

/-- **What is left of the room after some names.** -/
theorem length_add_room_le {isText : Bool} (h : ∀ name ∈ names, IsName name)
    (hleads : Leads disk links loc (names.map (entryHop isText)) l x) :
    names.length + disk.room l x ≤ disk.room links loc := by
  induction names generalizing links loc with
  | nil =>
    cases hleads
    exact Nat.le_of_eq (Nat.zero_add _)
  | cons name names ih =>
    rw [List.map_cons, ← List.singleton_append] at hleads
    obtain ⟨l', y, hfirst, hrest⟩ := hleads.split
    have hlater := ih (fun other hother => h other (List.mem_cons_of_mem _ hother)) hrest
    have hname : disk.room l' y < disk.room links loc := by
      rcases entryHop_eq_or (h name List.mem_cons_self) isText with heq | heq <;>
        rw [heq] at hfirst
      · exact room_lt_of_leads hfirst
      · cases hfirst
    rw [List.length_cons]
    omega

theorem leads_of_find (h : disk.find p = .ok (loc, node)) :
    ∃ left, Leads disk linkLimit [] (hops p) left loc := by
  rw [find, spot] at h
  cases hfault : pathFault? p with
  | some e => rw [hfault] at h; cases h
  | none =>
    rw [hfault] at h
    dsimp only at h
    cases hfollow : disk.follow false linkLimit [] (hops p) with
    | error e => rw [hfollow] at h; cases h
    | ok spot =>
      rw [hfollow] at h
      cases spot with
      | free other => cases h
      | found other =>
        dsimp only at h
        obtain rfl : other = loc := by
          split at h
          · exact congrArg Prod.fst (Except.ok.inj h)
          · cases h
        exact leads_of_follow (.refl disk) hfollow (Or.inl rfl)

/-- **No path to anything goes down further than folders are walked.** -/
theorem length_lt_walkDepth (h : ∀ name ∈ names, IsName name)
    (hfind : disk.find (p.descend names) = .ok (loc, node)) :
    names.length < Discovery.walkDepth disk := by
  by_cases hnames : names = []
  · rw [hnames, Discovery.walkDepth]
    exact Nat.mul_pos (Nat.succ_pos _) (Nat.succ_pos _)
  · obtain ⟨left, hleads⟩ := leads_of_find hfind
    rw [hops_descend h hnames] at hleads
    obtain ⟨l, y, hfolder, hrest⟩ := hleads.split
    have hroom := length_add_room_le h hrest
    have hlinks := Nat.mul_le_mul_right (disk.depth + 1) hfolder.links_le
    rw [room, room] at hroom
    rw [Discovery.walkDepth, Nat.succ_mul]
    omega

end Disk
end EmojiLint
