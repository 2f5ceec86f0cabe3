import EmojiLint.Disk.Replace
import EmojiLint.Proofs.Disk.Write

/-!
# Disks that differ in what their files hold

Where a path leads does not depend on the contents of files, and neither does the place under which
a file would be replaced.

* `Alike` — two disks store the same in the same places, but for the contents of files.
* `Alike.spot`, `Alike.find`, `Alike.slot` — paths lead to the same places.
* `alike_set` — a file with another content makes a disk that is alike.
-/

set_option autoImplicit false

namespace EmojiLint

/-- What is stored, but for the content of a file. -/
def Node.shape : Node → Node
  | file _ permissions => file .empty permissions
  | folder permissions => folder permissions
  | link target => link target

namespace Disk

/-- The length of the longest name on the way to some locations. -/
def longest (locations : List Location) : Nat :=
  locations.foldl (fun n loc => loc.foldl (fun n s => max n s.length) n) 0

/-- The new name depends on the names that there are. -/
theorem freshName_eq (disk : Disk) : disk.freshName =
    String.ofList (".tmp".toList ++ List.replicate (longest (disk.entries.map Prod.fst)) 'x') := by
  delta freshName longest
  rw [List.foldl_map]

/-- Two disks store the same in the same places, but for the contents of files. -/
structure Alike (disk disk' : Disk) : Prop where
  locations : disk'.entries.map Prod.fst = disk.entries.map Prod.fst
  shape : ∀ loc, (disk'.node? loc).map Node.shape = (disk.node? loc).map Node.shape

variable {disk disk' disk'' : Disk} {loc : Location} {p : Path} {content : ByteArray}
  {permissions : Permissions} {node : Node}

namespace Alike

theorem refl (disk : Disk) : Alike disk disk :=
  ⟨rfl, fun _ => rfl⟩

theorem trans (h : Alike disk disk') (h' : Alike disk' disk'') : Alike disk disk'' :=
  ⟨h'.locations.trans h.locations, fun loc => (h'.shape loc).trans (h.shape loc)⟩

variable (h : Alike disk disk')
include h

theorem eq_none (hnode : disk.node? loc = none) : disk'.node? loc = none := by
  have hshape := h.shape loc
  rw [hnode] at hshape
  exact Option.map_eq_none_iff.1 hshape

theorem eq_some (hnode : disk.node? loc = some node) :
    ∃ node', disk'.node? loc = some node' ∧ node'.shape = node.shape := by
  have hshape := h.shape loc
  rw [hnode] at hshape
  exact Option.map_eq_some_iff.1 hshape

theorem file (hnode : disk.node? loc = some (.file content permissions)) :
    ∃ content', disk'.node? loc = some (.file content' permissions) := by
  obtain ⟨node, hnode', hshape⟩ := h.eq_some hnode
  cases node with
  | file content' permissions' =>
    rw [Node.shape, Node.shape, Node.file.injEq] at hshape
    exact ⟨content', hshape.2 ▸ hnode'⟩
  | folder | link => cases hshape

theorem folder (hnode : disk.node? loc = some (.folder permissions)) :
    disk'.node? loc = some (.folder permissions) := by
  obtain ⟨node, hnode', hshape⟩ := h.eq_some hnode
  cases node with
  | folder permissions' => rw [hnode', Node.folder.inj hshape]
  | file | link => cases hshape

theorem link {target : Path} (hnode : disk.node? loc = some (.link target)) :
    disk'.node? loc = some (.link target) := by
  obtain ⟨node, hnode', hshape⟩ := h.eq_some hnode
  cases node with
  | link target' => rw [hnode', Node.link.inj hshape]
  | file | folder => cases hshape

/-! ## Where paths lead -/

/-- Hops lead to the same place. -/
theorem follow (creating : Bool) (links : Nat) (loc : Location) (way : List Hop) :
    disk'.follow creating links loc way = disk.follow creating links loc way := by
  fun_induction Disk.follow disk creating links loc way with
  | case1 => rw [Disk.follow]
  | case2 links loc hop rest hnode =>
    rw [Disk.follow.eq_def]
    simp only [h.eq_none hnode]
  | case3 links loc hop rest content permissions hnode =>
    obtain ⟨content', hnode'⟩ := h.file hnode
    rw [Disk.follow.eq_def]
    simp only [hnode']
  | case4 links loc hop rest target hnode =>
    rw [Disk.follow.eq_def]
    simp only [h.link hnode]
  | case5 links loc rest permissions hnode => rw [Disk.follow, h.folder hnode]
  | case6 links loc rest permissions hnode ih => rw [Disk.follow, h.folder hnode]; exact ih
  | case7 links loc rest permissions hnode ih => rw [Disk.follow, h.folder hnode]; exact ih
  | case8 links loc rest permissions hnode ih => rw [Disk.follow, h.folder hnode]; exact ih
  | case9 links loc rest permissions hnode s hslash =>
    rw [Disk.follow, h.folder hnode]; exact if_pos hslash
  | case10 links loc rest permissions hnode s hslash hlength =>
    rw [Disk.follow, h.folder hnode]
    simp only [if_neg hslash, if_pos hlength]
  | case11 links loc rest permissions hnode s hslash hlength hentry hlast =>
    rw [Disk.follow, h.folder hnode]
    simp only [if_neg hslash, if_neg hlength, h.eq_none hentry, if_pos hlast]
  | case12 links loc rest permissions hnode s hslash hlength hentry hlast =>
    rw [Disk.follow, h.folder hnode]
    simp only [if_neg hslash, if_neg hlength, h.eq_none hentry, if_neg hlast]
  | case13 loc rest permissions hnode s hslash hlength target hentry =>
    rw [Disk.follow, h.folder hnode]
    simp only [if_neg hslash, if_neg hlength, h.link hentry]
  | case14 loc rest permissions hnode s hslash hlength target hentry links htarget =>
    rw [Disk.follow, h.folder hnode]
    simp only [if_neg hslash, if_neg hlength, h.link hentry, if_pos htarget]
  | case15 loc rest permissions hnode s hslash hlength target hentry links htarget ih =>
    rw [Disk.follow, h.folder hnode]
    simp only [if_neg hslash, if_neg hlength, h.link hentry, if_neg htarget]
    exact ih
  | case16 links loc rest permissions hnode s hslash hlength node hlink hentry ih =>
    rw [Disk.follow, h.folder hnode]
    obtain ⟨node', hentry', hshape⟩ := h.eq_some hentry
    simp only [if_neg hslash, if_neg hlength, hentry']
    cases node with
    | link target => exact absurd rfl (hlink target)
    | file content permissions =>
      cases node' with
      | file => exact ih
      | folder | link => cases hshape
    | folder permissions =>
      cases node' with
      | folder => exact ih
      | file | link => cases hshape

theorem spot (creating : Bool) (p : Path) : disk'.spot creating p = disk.spot creating p := by
  rw [Disk.spot, Disk.spot, h.follow]

/-- What a path leads to is stored at the same location. -/
theorem find_ok (hfind : disk.find p = .ok (loc, node)) :
    ∃ node', disk'.find p = .ok (loc, node') ∧ disk'.node? loc = some node' ∧
      node'.shape = node.shape := by
  rw [Disk.find] at hfind ⊢
  rw [h.spot]
  split at hfind
  · cases hfind
  · cases hfind
  · next loc' hspot =>
    split at hfind
    · next node' hnode =>
      rw [Except.ok.injEq, Prod.mk.injEq] at hfind
      obtain ⟨rfl, rfl⟩ := hfind
      obtain ⟨node'', hnode', hshape⟩ := h.eq_some hnode
      exact ⟨node'', by simp only [hnode'], hnode', hshape⟩
    · cases hfind

theorem find_error {e : OsError} (hfind : disk.find p = .error e) : disk'.find p = .error e := by
  rw [Disk.find] at hfind ⊢
  rw [h.spot]
  split at hfind
  · exact hfind
  · exact hfind
  · next loc' hspot =>
    split at hfind
    · cases hfind
    · next hnode =>
      simp only [h.eq_none hnode]
      exact hfind

/-- A file would be replaced at the same place. -/
theorem slot (p : Path) : disk'.slot p = disk.slot p := by
  unfold Disk.slot
  cases hfind : disk.find (holder p) with
  | error e => rw [h.find_error hfind]
  | ok found =>
    obtain ⟨loc, node⟩ := found
    obtain ⟨node', hfind', -, hshape⟩ := h.find_ok hfind
    rw [hfind']
    cases node with
    | folder permissions =>
      cases node' with
      | folder permissions' => rw [Node.folder.inj hshape]
      | file | link => cases hshape
    | file content permissions =>
      cases node' with
      | file => rfl
      | folder | link => cases hshape
    | link target =>
      cases node' with
      | link => rfl
      | file | folder => cases hshape

theorem permissions? (p : Path) : disk'.permissions? p = disk.permissions? p := by
  rw [Disk.permissions?, Disk.permissions?]
  cases hfind : disk.find p with
  | error e => rw [h.find_error hfind]
  | ok found =>
    obtain ⟨loc, node⟩ := found
    obtain ⟨node', hfind', -, hshape⟩ := h.find_ok hfind
    rw [hfind']
    cases node with
    | folder permissions =>
      cases node' with
      | folder permissions' => rw [Node.folder.inj hshape]
      | file | link => cases hshape
    | file content permissions =>
      cases node' with
      | file content' permissions' =>
        rw [Node.shape, Node.shape, Node.file.injEq] at hshape
        simp only [hshape.2]
      | folder | link => cases hshape
    | link target =>
      cases node' with
      | link => rfl
      | file | folder => cases hshape

/-- The same name is new. -/
theorem freshName : disk'.freshName = disk.freshName := by
  rw [freshName_eq, freshName_eq, h.locations]

end Alike

theorem node?_of_find (hfind : disk.find p = .ok (loc, node)) : disk.node? loc = some node := by
  obtain ⟨node', hfind', hnode', -⟩ := (Alike.refl disk).find_ok hfind
  rw [hfind, Except.ok.injEq, Prod.mk.injEq] at hfind'
  rw [hfind'.2, hnode']

/-- A file is not at the root of the disk. -/
theorem ne_nil_of_file (hnode : disk.node? loc = some (.file content permissions)) : loc ≠ [] :=
  ne_nil_of_node? fun _ h => by rw [hnode] at h; cases h

/-- **A file with another content makes a disk that is alike.** -/
theorem alike_set {old : ByteArray} (hnode : disk.node? loc = some (.file old permissions)) :
    Alike disk (disk.set loc (.file content permissions)) where
  locations := by
    have hlookup : (disk.entries.lookup loc).isSome = true := by
      rw [node?, if_neg (ne_nil_of_file hnode)] at hnode
      rw [hnode, Option.isSome_some]
    rw [List.lookup_isSome_iff] at hlookup
    simp only [beq_iff_eq] at hlookup
    obtain ⟨entry, hentry, rfl⟩ := hlookup
    exact Assoc.map_fst_set (List.mem_map_of_mem hentry) _
  shape other := by
    have hloc := ne_nil_of_file hnode
    rw [node?_set hloc]
    split
    · next h =>
      rw [h, hnode]
      rfl
    · rfl

end Disk
end EmojiLint
