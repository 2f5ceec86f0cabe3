import EmojiLint.Proofs.Disk.Replace
import EmojiLint.Proofs.Disk.Tree
import EmojiLint.Proofs.Path.Parent

/-!
# The place under which a file is replaced

A file is replaced under the name with which its path ends, in the folder that the path before the
name leads to.  When no link is stored there, this is where the path leads, and when nothing is
stored there, the path leads nowhere.

* `slot_eq_ok_iff` — when a path has a place to be replaced at.
* `toOption_find_of_slot` — what a path leads to is what is stored at its place.
* `slot_of_extends` — a disk that holds something more has the same place for it.
-/

set_option autoImplicit false

namespace EmojiLint
namespace Disk

variable {disk disk' : Disk} {loc folder : Location} {name : String} {p : Path} {node : Node}

/-! ## The hops of a path that ends in a name -/

theorem filterMap_components (p : Path) :
    p.components.filterMap Hop.ofComponent? = p.named.filterMap Hop.ofComponent? := by
  rw [Path.components_eq_named, List.filterMap_append, filterMap_anchor, List.nil_append]

/-- What a path names in its folder, when that is spelled as the folder to start from. -/
theorem named_holder (hends : p.endsInName = true) (hname : p.name? = some name) :
    p.named = (holder p).named ++ [.name name.toList] := by
  obtain ⟨q, hparent, hnamed⟩ := Path.exists_parent?_of_name? hends hname
  rw [holder, hparent]
  dsimp only
  split
  · next hempty =>
    have hnone : q.named = (Path.ofText ".").named := by
      rw [Path.named_eq_filterMap_segments, String.isEmpty_iff.1 hempty]
      rfl
    rw [hnamed, hnone]
  · exact hnamed

/-- **The hops of a path that ends in a name** are those of its folder and the name. -/
theorem filterMap_components_eq_concat (hends : p.endsInName = true)
    (hname : p.name? = some name) :
    p.components.filterMap Hop.ofComponent? =
      (holder p).components.filterMap Hop.ofComponent? ++ [.name name] := by
  rw [filterMap_components, filterMap_components, named_holder hends hname, List.filterMap_append,
    List.filterMap_cons_some (b := Hop.name name) (by rw [Hop.ofComponent?, String.ofList_toList]),
    List.filterMap_nil]

/-! ## The place of a path -/

/-- **When a path has a place to be replaced at.** -/
theorem slot_eq_ok_iff : disk.slot p = .ok (folder, name) ↔
    (∃ permissions, disk.find (holder p) = .ok (folder, .folder permissions)) ∧
      pathFault? p = none ∧ p.name? = some name ∧ p.endsInName = true ∧
      name.utf8ByteSize ≤ nameLimit := by
  unfold slot
  constructor
  · intro h
    split at h
    · cases h
    · next loc permissions hfind =>
      split at h
      · cases h
      · next hfault =>
        split at h
        · next s hname =>
          split at h
          · cases h
          · next hends =>
            split at h
            · cases h
            · next hlength =>
              cases h
              exact ⟨⟨permissions, hfind⟩, hfault, hname, by simpa using hends,
                Nat.le_of_not_lt hlength⟩
        · cases h
    · cases h
  · rintro ⟨⟨permissions, hfind⟩, hfault, hname, hends, hlength⟩
    simp [hfind, hfault, hname, hends, Nat.not_lt.2 hlength]

/-- **A disk that holds something more has the same place for a path.** -/
theorem slot_of_extends (hext : Extends disk disk') (h : disk.slot p = .ok (folder, name)) :
    disk'.slot p = .ok (folder, name) := by
  obtain ⟨⟨permissions, hfind⟩, hpath⟩ := slot_eq_ok_iff.1 h
  obtain ⟨left, hleads⟩ := leads_of_find hfind
  obtain ⟨left', hleads'⟩ := leads_of_follow hext (follow_of_leads hleads) (Or.inl rfl)
  obtain ⟨permissions', hfolder⟩ := hext.folder folder permissions (node?_of_find hfind)
  exact slot_eq_ok_iff.2 ⟨⟨permissions', find_of_leads (pathFault?_of_find hfind) hleads' hfolder⟩,
    hpath⟩

/-- What is stored at the place of a path, the path leads to. -/
theorem find_of_slot (h : disk.slot p = .ok (folder, name))
    (hnode : disk.node? (folder ++ [name]) = some node) (hlink : ∀ target, node ≠ .link target) :
    disk.find p = .ok (folder ++ [name], node) := by
  obtain ⟨⟨permissions, hfind⟩, hfault, hname, hends, hlength⟩ := slot_eq_ok_iff.1 h
  obtain ⟨left, hleads⟩ := leads_components_of_find hfind
  have hpath := hleads.append (.name (node?_of_find hfind) hlength hnode hlink .done)
  rw [← filterMap_components_eq_concat hends hname, ← filter_hops] at hpath
  refine find_of_leads hfault (hpath.of_filter fun hop hhop => ?_) hnode
  exact moves_of_mem_getLast?_hops hends hhop

/-- Where nothing is stored at the place of a path, the path leads nowhere. -/
theorem find_ne_ok_of_slot (h : disk.slot p = .ok (folder, name))
    (hnode : disk.node? (folder ++ [name]) = none) : disk.find p ≠ .ok (loc, node) := by
  intro hfound
  obtain ⟨⟨permissions, hfind⟩, -, hname, hends, -⟩ := slot_eq_ok_iff.1 h
  obtain ⟨left, hfolder⟩ := leads_components_of_find hfind
  obtain ⟨left', hleads⟩ := leads_components_of_find hfound
  rw [filterMap_components_eq_concat hends hname] at hleads
  obtain ⟨l, x, hfront, hlast⟩ := hleads.split
  obtain rfl := hfront.target_unique hfolder
  cases hlast with
  | name _ _ hstored => rw [hnode] at hstored; cases hstored
  | link _ _ hstored => rw [hnode] at hstored; cases hstored

/-- **A path leads to what is stored at its place**, unless that is a link. -/
theorem toOption_find_of_slot (h : disk.slot p = .ok (folder, name))
    (hlink : ∀ target, disk.node? (folder ++ [name]) ≠ some (.link target)) :
    (disk.find p).toOption =
      (disk.node? (folder ++ [name])).map fun node => (folder ++ [name], node) := by
  cases hnode : disk.node? (folder ++ [name]) with
  | some node => rw [find_of_slot h hnode fun target htarget => hlink target (htarget ▸ hnode)]; rfl
  | none =>
    cases hfind : disk.find p with
    | ok found => exact absurd hfind (find_ne_ok_of_slot h hnode)
    | error e => rfl

end Disk
end EmojiLint
