import EmojiLint.Proofs.Disk.Alike
import EmojiLint.Proofs.Disk.Depth

/-!
# A file is replaced in whole or not at all

Replacing a file takes several steps, each of which the system can refuse.  The file of its own that
holds the new content meanwhile has a name that no other file has, so that nothing is left of it
when it is removed again.

* `fresh_notMem` — the name of the file of its own is new.
* `obstacle?` — what stands in the way of replacing a file: the first refusal.
* `replaceAt_eq`, `replace_eq` — a file is replaced when nothing stands in the way, and otherwise
  the disk is what it was.
-/

set_option autoImplicit false

namespace EmojiLint
namespace Disk

variable {disk disk' : Disk} {loc folder temp target : Location} {s name : String}
  {node other : Node} {p : Path} {permissions : Option Permissions} {content : ByteArray}
  {locations : List Location}

/-! ## A new name -/

theorem length_le_longest (hloc : loc ∈ locations) (hs : s ∈ loc) :
    s.length ≤ longest locations := by
  rw [longest]
  refine le_foldl_of_mem (fun n loc => ?_) hloc (fun n => ?_) 0
  · exact le_foldl (fun _ _ => Nat.le_max_left _ _) loc n
  · refine le_foldl_of_mem (fun n s => ?_) hs (fun n => ?_) n
    · exact Nat.le_max_left _ _
    · exact Nat.le_max_right _ _

/-- **The name is new in every folder.** -/
theorem fresh_notMem (disk : Disk) (folder : Location) :
    folder ++ [disk.freshName] ∉ disk.entries.map Prod.fst := by
  intro hmem
  have hlength := length_le_longest hmem (List.mem_append_right folder List.mem_cons_self)
  rw [freshName_eq, String.length_ofList, List.length_append, List.length_replicate] at hlength
  have hpositive : 0 < ".tmp".toList.length := by decide
  omega

theorem set_set (disk : Disk) (loc : Location) (node other : Node) :
    (disk.set loc other).set loc node = disk.set loc node := by
  rw [set, set, set, Assoc.set_set]

/-- What was not there before is gone when it is removed. -/
theorem erase_set (h : loc ∉ disk.entries.map Prod.fst) (node : Node) :
    (disk.set loc node).erase loc = disk := by
  rw [erase, set, Assoc.erase_set h]

/-! ## What stands in the way -/

/-- What stands in the way of replacing the file `target` by way of `temp`: the first refusal, or a
folder. -/
def obstacle? (disk : Disk) (temp target : Location) (permissions : Option Permissions) :
    Option OsError :=
  (disk.refusal .createFile temp).or <| (disk.refusal .writeFile temp).or <|
    (disk.refusal .flushFile temp).or <|
      (permissions.bind fun _ => disk.refusal .setPermissions temp).or <|
        match disk.node? target with
        | some (.folder _) => some .isAFolder
        | _ => disk.refusal .renameFile target

/-- **A file is replaced in whole when nothing stands in the way, and otherwise the disk is what it
was.** -/
theorem replaceAt_eq (disk : Disk) (folder : Location) (name : String)
    (permissions : Option Permissions) (content : ByteArray) :
    match disk.obstacle? (folder ++ [disk.freshName]) (folder ++ [name]) permissions with
    | some e => (disk.replaceAt folder name permissions content).result = .error e ∧
        (disk.replaceAt folder name permissions content).last = disk
    | none => (disk.replaceAt folder name permissions content).result = .ok () ∧
        (disk.replaceAt folder name permissions content).last =
          disk.set (folder ++ [name]) (.file content (permissions.getD privatePermissions)) := by
  have hgone := erase_set (disk.fresh_notMem folder)
  unfold replaceAt obstacle?
  generalize folder ++ [disk.freshName] = temp at hgone ⊢
  generalize folder ++ [name] = target
  dsimp only
  cases disk.refusal .createFile temp with
  | some e => exact ⟨rfl, rfl⟩
  | none =>
  cases disk.refusal .writeFile temp with
  | some e => exact ⟨rfl, hgone _⟩
  | none =>
  cases disk.refusal .flushFile temp with
  | some e => exact ⟨rfl, by simp only [set_set, hgone]⟩
  | none =>
  cases permissions with
  | none =>
    cases disk.node? target with
    | none => cases disk.refusal .renameFile target <;> simp [set_set, hgone]
    | some node => cases node <;> cases disk.refusal .renameFile target <;> simp [set_set, hgone]
  | some kept =>
    cases disk.refusal .setPermissions temp with
    | some e => simp [set_set, hgone]
    | none =>
      cases disk.node? target with
      | none => cases disk.refusal .renameFile target <;> simp [set_set, hgone]
      | some node => cases node <;> cases disk.refusal .renameFile target <;> simp [set_set, hgone]

/-- What stands in the way of replacing the file that a path names. -/
def fault? (disk : Disk) (p : Path) : Option OsError :=
  match disk.slot p with
  | .error e => some e
  | .ok (folder, name) =>
    disk.obstacle? (folder ++ [disk.freshName]) (folder ++ [name]) (disk.permissions? p)

/-- The file that a path leads to is the one that would be replaced: no link stands at the end of
the path. -/
def IsPlain (disk : Disk) (p : Path) (loc : Location) : Prop :=
  (∃ content permissions, disk.find p = .ok (loc, .file content permissions)) ∧
    ∀ folder name, disk.slot p = .ok (folder, name) → folder ++ [name] = loc

/-- **Replacing a file changes the content of that file alone, and only if nothing stands in the
way.** -/
theorem replace_eq {old : ByteArray} {permissions : Permissions}
    (hfind : disk.find p = .ok (loc, .file old permissions)) (hplain : disk.IsPlain p loc)
    (content : ByteArray) :
    disk.replace p content =
      match disk.fault? p with
      | some e => (.error e, disk)
      | none => (.ok (), disk.set loc (.file content permissions)) := by
  delta replace replaceSteps fault?
  cases hslot : disk.slot p with
  | error e => rfl
  | ok slot =>
    obtain ⟨folder, name⟩ := slot
    have hpermissions : disk.permissions? p = some permissions := by
      rw [permissions?, hfind]
    have hreplace := replaceAt_eq disk folder name (disk.permissions? p) content
    dsimp only
    revert hreplace
    generalize disk.obstacle? _ _ _ = fault
    generalize disk.replaceAt _ _ _ _ = replacement
    rw [hpermissions, hplain.2 folder name hslot]
    rintro hreplace
    cases fault with
    | some e => exact Prod.ext hreplace.1 hreplace.2
    | none => exact Prod.ext hreplace.1 hreplace.2

namespace Alike

variable (h : Alike disk disk') (hrefusal : disk'.refusal = disk.refusal)
include h hrefusal

theorem obstacle? (temp target : Location) (permissions : Option Permissions) :
    disk'.obstacle? temp target permissions = disk.obstacle? temp target permissions := by
  rw [Disk.obstacle?, Disk.obstacle?, hrefusal]
  cases hnode : disk.node? target with
  | none => rw [h.eq_none hnode]
  | some node =>
    obtain ⟨node', hnode', hshape⟩ := h.eq_some hnode
    rw [hnode']
    cases node <;> cases node' <;> first | rfl | cases hshape

/-- The same stands in the way on disks that are alike. -/
theorem fault? (p : Path) : disk'.fault? p = disk.fault? p := by
  delta Disk.fault?
  rw [h.slot, h.permissions?, h.freshName]
  simp only [h.obstacle? hrefusal]

end Alike

end Disk
end EmojiLint
