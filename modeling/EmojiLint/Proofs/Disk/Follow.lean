import EmojiLint.Disk.Basic

/-!
# Where a path leads

A path is followed hop by hop.  Every hop goes out from a folder, and where it meets a link it goes
on with the path of the link, for which one link less is left.

* `Disk.Leads` — hops lead from one location to another, and how many links are left there.
* `leads_of_follow` — what following a path finds, its hops lead to, also on a disk that holds
  something more.
* `follow_of_leads` — where the hops of a path lead, following it finds.
* `find_of_leads` — what a path is of.
* `Leads.split` — hops lead on from where the hops before them lead.
-/

set_option autoImplicit false

namespace EmojiLint
namespace Disk

/-- Hops lead from one location to another.  The numbers are the links that may be followed, before
and after. -/
inductive Leads (disk : Disk) : Nat → Location → List Hop → Nat → Location → Prop
  /-- No hop leads nowhere. -/
  | done {links : Nat} {loc : Location} : Leads disk links loc [] links loc
  | stay {links links' : Nat} {loc loc' : Location} {rest : List Hop} {permissions : Permissions}
      (hfolder : disk.node? loc = some (.folder permissions))
      (h : Leads disk links loc rest links' loc') : Leads disk links loc (.stay :: rest) links' loc'
  | slash {links links' : Nat} {loc loc' : Location} {rest : List Hop} {permissions : Permissions}
      (hfolder : disk.node? loc = some (.folder permissions))
      (h : Leads disk links loc rest links' loc') :
      Leads disk links loc (.slash :: rest) links' loc'
  | up {links links' : Nat} {loc loc' : Location} {rest : List Hop} {permissions : Permissions}
      (hfolder : disk.node? loc = some (.folder permissions))
      (h : Leads disk links loc.dropLast rest links' loc') :
      Leads disk links loc (.up :: rest) links' loc'
  /-- A name leads to the entry of the folder. -/
  | name {links links' : Nat} {loc loc' : Location} {rest : List Hop} {permissions : Permissions}
      {s : String} {node : Node} (hfolder : disk.node? loc = some (.folder permissions))
      (hlength : s.utf8ByteSize ≤ nameLimit) (hnode : disk.node? (loc ++ [s]) = some node)
      (hlink : ∀ target, node ≠ .link target)
      (h : Leads disk links (loc ++ [s]) rest links' loc') :
      Leads disk links loc (.name s :: rest) links' loc'
  /-- The name of a link leads to where the link leads. -/
  | link {links links' : Nat} {loc loc' : Location} {rest : List Hop} {permissions : Permissions}
      {s : String} {target : Path} (hfolder : disk.node? loc = some (.folder permissions))
      (hlength : s.utf8ByteSize ≤ nameLimit) (hnode : disk.node? (loc ++ [s]) = some (.link target))
      (htarget : target.text.isEmpty = false)
      (h : Leads disk links (if target.isAbsolute then [] else loc) (hops target ++ rest) links'
        loc') :
      Leads disk (links + 1) loc (.name s :: rest) links' loc'

/-- One disk holds all that another one holds, as far as following paths goes. -/
structure Extends (disk disk' : Disk) : Prop where
  folder : ∀ loc permissions, disk.node? loc = some (.folder permissions) →
    ∃ permissions', disk'.node? loc = some (.folder permissions')
  file : ∀ loc content permissions, disk.node? loc = some (.file content permissions) →
    ∃ content' permissions', disk'.node? loc = some (.file content' permissions')
  link : ∀ loc target, disk.node? loc = some (.link target) →
    disk'.node? loc = some (.link target)

variable {disk disk' : Disk} {creating : Bool} {links links' l : Nat} {loc loc' x : Location}
  {way front rest : List Hop} {spot : Spot} {s : String}

theorem Extends.refl (disk : Disk) : Extends disk disk where
  folder _ permissions h := ⟨permissions, h⟩
  file _ content permissions h := ⟨content, permissions, h⟩
  link _ _ h := h

/-- **The hops of a path lead to what following it finds**, and to what is free as soon as there is
a file. -/
theorem leads_of_follow (hext : Extends disk disk')
    (h : disk.follow creating links loc way = .ok spot)
    (hspot : spot = .found x ∨
      spot = .free x ∧ ∃ content permissions, disk'.node? x = some (.file content permissions)) :
    ∃ left, Leads disk' links loc way left x := by
  fun_induction follow disk creating links loc way with
  | case1 links loc =>
    obtain rfl := Except.ok.inj h
    rcases hspot with hfound | ⟨hfree, -⟩
    · obtain rfl := Spot.found.inj hfound
      exact ⟨links, .done⟩
    · cases hfree
  | case6 links loc rest permissions hfolder ih =>
    obtain ⟨permissions', hfolder'⟩ := hext.folder loc permissions hfolder
    obtain ⟨left, hleads⟩ := ih h
    exact ⟨left, .stay hfolder' hleads⟩
  | case7 links loc rest permissions hfolder ih =>
    obtain ⟨permissions', hfolder'⟩ := hext.folder loc permissions hfolder
    obtain ⟨left, hleads⟩ := ih h
    exact ⟨left, .slash hfolder' hleads⟩
  | case8 links loc rest permissions hfolder ih =>
    obtain ⟨permissions', hfolder'⟩ := hext.folder loc permissions hfolder
    obtain ⟨left, hleads⟩ := ih h
    exact ⟨left, .up hfolder' hleads⟩
  | case11 links loc rest permissions hfolder s _ hlength hnode hlast =>
    obtain ⟨permissions', hfolder'⟩ := hext.folder loc permissions hfolder
    obtain rfl := List.isEmpty_iff.1 hlast
    obtain rfl := Except.ok.inj h
    rcases hspot with hfound | ⟨hfree, content, permissions, hfile⟩
    · cases hfound
    · obtain rfl := Spot.free.inj hfree
      exact ⟨links, .name hfolder' (Nat.le_of_not_lt hlength) hfile (fun _ h => nomatch h) .done⟩
  | case15 loc rest permissions hfolder s _ hlength target hnode links htarget ih =>
    obtain ⟨permissions', hfolder'⟩ := hext.folder loc permissions hfolder
    obtain ⟨left, hleads⟩ := ih h
    exact ⟨left, .link hfolder' (Nat.le_of_not_lt hlength) (hext.link _ target hnode)
      (Bool.eq_false_iff.2 htarget) hleads⟩
  | case16 links loc rest permissions hfolder s _ hlength node hlink hnode ih =>
    obtain ⟨permissions', hfolder'⟩ := hext.folder loc permissions hfolder
    obtain ⟨left, hleads⟩ := ih h
    obtain ⟨node', hnode', hlink'⟩ : ∃ node', disk'.node? (loc ++ [s]) = some node' ∧
        ∀ target, node' ≠ .link target := by
      cases node with
      | file content permissions =>
        obtain ⟨content', permissions', hfile⟩ := hext.file _ content permissions hnode
        exact ⟨_, hfile, fun _ h => nomatch h⟩
      | folder permissions =>
        obtain ⟨permissions', hentry⟩ := hext.folder _ permissions hnode
        exact ⟨_, hentry, fun _ h => nomatch h⟩
      | link target => exact absurd rfl (hlink target)
    exact ⟨left, .name hfolder' (Nat.le_of_not_lt hlength) hnode' hlink' hleads⟩
  | case2 | case3 | case4 | case5 | case9 | case10 | case12 | case13 | case14 => cases h

/-- **Following a path finds where its hops lead.** -/
theorem follow_of_leads (h : Leads disk links loc way l x) :
    disk.follow false links loc way = .ok (.found x) := by
  induction h with
  | done => rw [follow]
  | stay hfolder h ih => rw [follow, hfolder]; exact ih
  | slash hfolder h ih => rw [follow, hfolder]; exact ih
  | up hfolder h ih => rw [follow, hfolder]; exact ih
  | @name links links' loc loc' rest permissions s node hfolder hlength hnode hlink h ih =>
    rw [follow, hfolder]
    simp only [Bool.false_eq_true, false_and, if_false, Nat.not_lt.2 hlength, hnode]
    cases node with
    | file content permissions => exact ih
    | folder permissions => exact ih
    | link target => exact absurd rfl (hlink target)
  | link hfolder hlength hnode htarget h ih =>
    rw [follow, hfolder]
    simp only [Bool.false_eq_true, false_and, if_false, Nat.not_lt.2 hlength, hnode, htarget]
    exact ih

/-- What the hops of a path lead to is what the path is of. -/
theorem find_of_leads {p : Path} {node : Node} (hfault : pathFault? p = none)
    (h : Leads disk linkLimit [] (hops p) l x) (hnode : disk.node? x = some node) :
    disk.find p = .ok (x, node) := by
  have hspot : disk.spot false p = .ok (.found x) := by
    rw [Disk.spot, hfault]
    exact follow_of_leads h
  rw [find, hspot]
  simp only [hnode]

/-- **Hops lead on from where the hops before them lead.** -/
theorem Leads.split (h : Leads disk links loc (front ++ rest) l x) :
    ∃ l' y, Leads disk links loc front l' y ∧ Leads disk l' y rest l x := by
  generalize hway : front ++ rest = way at h
  induction h generalizing front with
  | done =>
    obtain ⟨rfl, rfl⟩ := List.append_eq_nil_iff.1 hway
    exact ⟨_, _, .done, .done⟩
  | @stay links links' loc loc' way permissions hfolder h ih =>
    rcases List.append_eq_cons_iff.1 hway with ⟨rfl, rfl⟩ | ⟨front, rfl, rfl⟩
    · exact ⟨_, _, .done, .stay hfolder h⟩
    · obtain ⟨l', y, hfront, hrest⟩ := ih rfl
      exact ⟨l', y, .stay hfolder hfront, hrest⟩
  | @slash links links' loc loc' way permissions hfolder h ih =>
    rcases List.append_eq_cons_iff.1 hway with ⟨rfl, rfl⟩ | ⟨front, rfl, rfl⟩
    · exact ⟨_, _, .done, .slash hfolder h⟩
    · obtain ⟨l', y, hfront, hrest⟩ := ih rfl
      exact ⟨l', y, .slash hfolder hfront, hrest⟩
  | @up links links' loc loc' way permissions hfolder h ih =>
    rcases List.append_eq_cons_iff.1 hway with ⟨rfl, rfl⟩ | ⟨front, rfl, rfl⟩
    · exact ⟨_, _, .done, .up hfolder h⟩
    · obtain ⟨l', y, hfront, hrest⟩ := ih rfl
      exact ⟨l', y, .up hfolder hfront, hrest⟩
  | @name links links' loc loc' way permissions s node hfolder hlength hnode hlink h ih =>
    rcases List.append_eq_cons_iff.1 hway with ⟨rfl, rfl⟩ | ⟨front, rfl, rfl⟩
    · exact ⟨_, _, .done, .name hfolder hlength hnode hlink h⟩
    · obtain ⟨l', y, hfront, hrest⟩ := ih rfl
      exact ⟨l', y, .name hfolder hlength hnode hlink hfront, hrest⟩
  | @link links links' loc loc' way permissions s target hfolder hlength hnode htarget h ih =>
    rcases List.append_eq_cons_iff.1 hway with ⟨rfl, rfl⟩ | ⟨front, rfl, rfl⟩
    · exact ⟨_, _, .done, .link hfolder hlength hnode htarget h⟩
    · obtain ⟨l', y, hfront, hrest⟩ := ih (List.append_assoc ..)
      exact ⟨l', y, .link hfolder hlength hnode htarget hfront, hrest⟩

/-- No links come in on the way. -/
theorem Leads.links_le (h : Leads disk links loc way l x) : l ≤ links := by
  induction h with
  | done => exact Nat.le_refl _
  | stay _ _ ih | slash _ _ ih | up _ _ ih => exact ih
  | name _ _ _ _ _ ih => exact ih
  | link _ _ _ _ _ ih => exact Nat.le_succ_of_le ih

end Disk
end EmojiLint
