import EmojiLint.Proofs.Disk.Alike
import EmojiLint.Proofs.Disk.Depth
import EmojiLint.Proofs.Path.Descend

/-!
# Trees of folders

Where no links are in the way, the names at the end of a path are the names at the end of the
location that it leads to.  So everything in a tree of folders is found by its own path, and what is
listed there is what is stored there.

* `Leads.append`, `Leads.target_unique` — hops lead on, and to one place only.
* `filter_hops` — where a path leads depends on what it names.
* `SamePlace`, `samePlace_of_same` — paths that lead to the same thing.
* `location_eq_append` — names lead straight down.
* `mem_names_iff` — what is listed is what is stored.
* `IsTree` — a folder with nothing but folders and files below it, all of which can be asked for.
-/

set_option autoImplicit false

namespace EmojiLint
namespace Disk

open EmojiLint.Path (Component IsName IsPlainName)

variable {disk disk' : Disk} {links l l' : Nat} {loc x y : Location} {p q r : Path}
  {name : String} {names below : List String} {node node' : Node} {front rest way : List Hop}

/-! ## Hops one after the other -/

/-- Hops lead on from where other hops lead. -/
theorem Leads.append (h : Leads disk links loc front l y) (h' : Leads disk l y rest l' x) :
    Leads disk links loc (front ++ rest) l' x := by
  induction h with
  | done => exact h'
  | stay hfolder _ ih => exact .stay hfolder (ih h')
  | slash hfolder _ ih => exact .slash hfolder (ih h')
  | up hfolder _ ih => exact .up hfolder (ih h')
  | name hfolder hlength hnode hlink _ ih => exact .name hfolder hlength hnode hlink (ih h')
  | link hfolder hlength hnode htarget _ ih =>
    exact .link hfolder hlength hnode htarget (List.append_assoc .. ▸ ih h')

/-- **Hops lead to one place only.** -/
theorem Leads.target_unique (h : Leads disk links loc way l x)
    (h' : Leads disk links loc way l' y) : x = y := by
  have hfound := (follow_of_leads h).symm.trans (follow_of_leads h')
  exact Spot.found.inj (Except.ok.inj hfound)

/-- Whether a hop leads anywhere else. -/
def Hop.moves : Hop → Bool
  | .stay => false
  | .slash => false
  | _ => true

/-- Hops that lead nowhere can be left out. -/
theorem Leads.filter (h : Leads disk links loc way l x) :
    Leads disk links loc (way.filter Hop.moves) l x := by
  induction way generalizing links loc with
  | nil => exact h
  | cons hop way ih =>
    rw [← List.singleton_append] at h
    obtain ⟨l', y, hfirst, hrest⟩ := h.split
    cases hop with
    | stay =>
      cases hfirst with
      | stay _ hdone =>
        cases hdone
        exact ih hrest
    | slash =>
      cases hfirst with
      | slash _ hdone =>
        cases hdone
        exact ih hrest
    | name | up | stray => exact hfirst.append (ih hrest)

/-- Hops set out from a folder. -/
theorem Leads.exists_folder (hway : way ≠ []) (h : Leads disk links loc way l x) :
    ∃ permissions, disk.node? loc = some (.folder permissions) := by
  cases h with
  | done => exact absurd rfl hway
  | stay hfolder | slash hfolder | up hfolder | name hfolder | link hfolder =>
    exact ⟨_, hfolder⟩

/-- Hops that lead nowhere can be put in anywhere but at the end. -/
theorem Leads.of_filter (h : Leads disk links loc (way.filter Hop.moves) l x)
    (hlast : ∀ hop ∈ way.getLast?, hop.moves = true) : Leads disk links loc way l x := by
  induction way generalizing links loc with
  | nil => exact h
  | cons hop way ih =>
    have hlater : ∀ hop ∈ way.getLast?, hop.moves = true := by
      intro other hother
      refine hlast other ?_
      rw [Option.mem_def] at hother ⊢
      rw [List.getLast?_cons, hother, Option.getD_some]
    cases hmoves : hop.moves with
    | true =>
      rw [List.filter_cons_of_pos hmoves, ← List.singleton_append] at h
      obtain ⟨l', y, hfirst, hrest⟩ := h.split
      exact hfirst.append (ih hrest hlater)
    | false =>
      rw [List.filter_cons_of_neg (by simp [hmoves])] at h
      -- Something follows that sets out from here.
      have hmore : way.filter Hop.moves ≠ [] := by
        intro hnone
        cases hlast? : way.getLast? with
        | none =>
          rw [List.getLast?_eq_none_iff.1 hlast?] at hlast
          rw [hlast hop rfl] at hmoves
          cases hmoves
        | some last =>
          exact List.filter_eq_nil_iff.1 hnone last (List.mem_of_getLast? hlast?)
            (hlater last hlast?)
      obtain ⟨permissions, hfolder⟩ := h.exists_folder hmore
      have hrest := ih h hlater
      cases hop with
      | stay => exact .stay hfolder hrest
      | slash => exact .slash hfolder hrest
      | name | stray | up => cases hmoves

/-! ## Where a path leads depends on what it names -/

/-- The hop of a component, unless it leads nowhere. -/
def Hop.ofComponent? : Component → Option Hop
  | .name s => some (.name (String.ofList s))
  | .stray _ => some .stray
  | .up => some .up
  | .root => none
  | .here => none

theorem filter_ofSegment (isText : Bool) (segments : List (List Char)) :
    ((segments.filter fun segment => !segment.isEmpty).map (Hop.ofSegment isText)).filter
        Hop.moves =
      (segments.filterMap (Component.ofSegment? isText)).filterMap Hop.ofComponent? := by
  induction segments with
  | nil => rfl
  | cons s segments ih =>
    rw [List.filterMap_cons]
    cases s with
    | nil => exact ih
    | cons c s =>
      rw [List.filter_cons_of_pos rfl, List.map_cons, Hop.ofSegment]
      cases Component.ofSegment? isText (c :: s) with
      | none => exact ih
      | some component =>
        rw [List.filterMap_cons, ← ih]
        cases component <;> rfl

/-- The anchor of a path leads nowhere. -/
theorem filterMap_anchor (p : Path) : p.anchor.filterMap Hop.ofComponent? = [] := by
  rw [Path.anchor]
  split
  · rfl
  · split <;> rfl

/-- **The hops of a path are those of its components**, but for hops that lead nowhere. -/
theorem filter_hops (p : Path) :
    (hops p).filter Hop.moves = p.components.filterMap Hop.ofComponent? := by
  have hslash : (if p.body.getLast? = some [] then [Hop.slash] else []).filter Hop.moves = [] := by
    split <;> rfl
  rw [hops, List.filter_append, filter_ofSegment, hslash, List.append_nil, Path.components,
    List.filterMap_append, filterMap_anchor, List.nil_append]

/-- Nothing is wrong with a path to anything. -/
theorem pathFault?_of_find {found : Location × Node} (h : disk.find p = .ok found) :
    pathFault? p = none := by
  cases hfault : pathFault? p with
  | none => rfl
  | some e =>
    rw [find, spot, hfault] at h
    cases h

theorem leads_components_of_find (h : disk.find p = .ok (loc, node)) :
    ∃ left, Leads disk linkLimit [] (p.components.filterMap Hop.ofComponent?) left loc := by
  obtain ⟨left, hleads⟩ := leads_of_find h
  exact ⟨left, filter_hops p ▸ hleads.filter⟩

/-- Two paths lead to the same thing. -/
def SamePlace (disk : Disk) (p q : Path) : Prop :=
  ∃ found, disk.find p = .ok found ∧ disk.find q = .ok found

theorem SamePlace.symm (h : SamePlace disk p q) : SamePlace disk q p := by
  obtain ⟨found, hp, hq⟩ := h
  exact ⟨found, hq, hp⟩

theorem SamePlace.trans (h : SamePlace disk p q) (h' : SamePlace disk q r) :
    SamePlace disk p r := by
  obtain ⟨found, hp, hq⟩ := h
  obtain ⟨found', hq', hr⟩ := h'
  obtain rfl := Except.ok.inj (hq.symm.trans hq')
  exact ⟨found, hp, hr⟩

/-- **Paths that name the same lead to the same thing**, if both of them lead to anything. -/
theorem samePlace_of_same (hsame : p.Same q) (hp : disk.find p = .ok (loc, node))
    (hq : disk.find q = .ok (x, node')) : SamePlace disk p q := by
  obtain ⟨left, hleads⟩ := leads_components_of_find hp
  obtain ⟨left', hleads'⟩ := leads_components_of_find hq
  rw [hsame] at hleads
  obtain rfl := hleads.target_unique hleads'
  obtain rfl := Option.some_inj.1 ((node?_of_find hp).symm.trans (node?_of_find hq))
  exact ⟨_, hp, hq⟩

theorem Hop.moves_ofSegment {segment : List Char} (h : Path.isNamed segment = true)
    (isText : Bool) : (ofSegment isText segment).moves = true := by
  rw [ofSegment, Component.ofSegment?, h, Bool.not_true, if_neg Bool.false_ne_true]
  by_cases hdots : segment = ['.', '.']
  · rw [if_pos hdots]
    rfl
  · rw [if_neg hdots]
    cases !isText && segment.contains '\uFFFD' <;> rfl

/-- The last hop of a path that ends with a name leads there. -/
theorem moves_of_mem_getLast?_hops {hop : Hop} (hends : p.endsInName = true)
    (h : hop ∈ (hops p).getLast?) : hop.moves = true := by
  obtain ⟨segment, hlast, hnamed⟩ := Path.endsInName_iff.1 hends
  obtain ⟨front, hbody⟩ := List.getLast?_eq_some_iff.1 hlast
  have hfull : segment ≠ [] := by
    rintro rfl
    cases hnamed
  have hkept : [segment].filter (fun segment => !segment.isEmpty) = [segment] := by
    simp [hfull]
  rw [hops, if_neg (fun h => hfull (Option.some_inj.1 (hlast.symm.trans h))), hbody,
    List.append_nil, List.filter_append, hkept, List.map_append, List.map_singleton,
    List.getLast?_concat] at h
  rw [← Option.some_inj.1 h]
  exact Hop.moves_ofSegment hnamed p.isText

/-- **A path leads where another one leads that names the same**, if it ends with a name and is not
too long. -/
theorem find_of_same {found : Location × Node} (hsame : p.Same q) (hends : p.endsInName = true)
    (hfault : pathFault? p = none) (hq : disk.find q = .ok found) : disk.find p = .ok found := by
  obtain ⟨loc, node⟩ := found
  obtain ⟨left, hleads⟩ := leads_components_of_find hq
  rw [← hsame, ← filter_hops] at hleads
  refine find_of_leads hfault (hleads.of_filter fun hop hhop => ?_) (node?_of_find hq)
  exact moves_of_mem_getLast?_hops hends hhop

/-! ## Straight down -/

/-- No link is stored at a location or below. -/
def Unlinked (disk : Disk) (loc : Location) : Prop :=
  ∀ below target, disk.node? (loc ++ below) ≠ some (.link target)

/-- There are no links where none are stored. -/
theorem unlinked_of_forall (h : ∀ entry ∈ disk.entries, ∀ target, entry.2 ≠ .link target) :
    Unlinked disk loc := by
  intro below target hnode
  rw [node?] at hnode
  split at hnode
  · cases hnode
  · obtain ⟨front, rest, hentries, -⟩ := List.lookup_eq_some_iff.1 hnode
    exact h _ (hentries ▸ List.mem_append_right _ List.mem_cons_self) target rfl

theorem Unlinked.append (h : Unlinked disk loc) (below : List String) :
    Unlinked disk (loc ++ below) := by
  intro further target
  rw [List.append_assoc]
  exact h (below ++ further) target

/-- The hop to an entry with a name. -/
def Hop.ofName (isText : Bool) (name : String) : Hop :=
  if !isText && name.toList.contains '\uFFFD' then .stray else .name name

theorem filterMap_ofName (isText : Bool) (names : List String) :
    (names.map (Component.ofName isText)).filterMap Hop.ofComponent? =
      names.map (Hop.ofName isText) := by
  induction names with
  | nil => rfl
  | cons name names ih =>
    have hname : Hop.ofComponent? (Component.ofName isText name) =
        some (Hop.ofName isText name) := by
      rw [Component.ofName, Hop.ofName]
      split
      · rfl
      · rw [Hop.ofComponent?, String.ofList_toList]
    rw [List.map_cons, List.filterMap_cons_some hname, ih, List.map_cons]

/-- Without links, names lead straight down. -/
theorem Leads.eq_append {isText : Bool} (hunlinked : Unlinked disk loc)
    (h : Leads disk links loc (names.map (Hop.ofName isText)) l x) : x = loc ++ names := by
  induction names generalizing links loc with
  | nil =>
    cases h
    exact (List.append_nil _).symm
  | cons name names ih =>
    rw [List.map_cons, Hop.ofName] at h
    split at h
    · cases h
    · cases h with
      | name _ _ _ _ hrest =>
        rw [ih (hunlinked.append [name]) hrest, List.append_assoc, List.singleton_append]
      | link _ _ hlink => exact absurd hlink (hunlinked [name] _)

/-- **Names at the end of a path are names at the end of its location**, where there are no
links. -/
theorem location_eq_append {isText : Bool} (hunlinked : Unlinked disk loc)
    (hp : disk.find p = .ok (loc, node)) (hq : disk.find q = .ok (x, node'))
    (hcomponents : q.components = p.components ++ names.map (Component.ofName isText)) :
    x = loc ++ names := by
  obtain ⟨left, hfolder⟩ := leads_components_of_find hp
  obtain ⟨left', hleads⟩ := leads_components_of_find hq
  rw [hcomponents, List.filterMap_append, filterMap_ofName] at hleads
  obtain ⟨l', y, hfront, hrest⟩ := hleads.split
  obtain rfl := hfront.target_unique hfolder
  exact hrest.eq_append hunlinked

/-! ## What is listed -/

/-- **The names in a folder** are those of what is stored there. -/
theorem mem_names_iff :
    name ∈ disk.names loc ↔ (disk.node? (loc ++ [name])).isSome = true := by
  have hne : loc ++ [name] ≠ [] := List.append_ne_nil_of_right_ne_nil loc (List.cons_ne_nil name [])
  rw [names, List.mem_filterMap, node?, if_neg hne, List.lookup_isSome_iff]
  constructor
  · rintro ⟨entry, hentry, hlast⟩
    split at hlast
    · next hfolder =>
      obtain ⟨front, hfront⟩ := List.getLast?_eq_some_iff.1 hlast
      rw [hfront, List.dropLast_concat] at hfolder
      exact ⟨entry, hentry, beq_iff_eq.2 (by rw [hfront, hfolder])⟩
    · cases hlast
  · rintro ⟨entry, hentry, heq⟩
    refine ⟨entry, hentry, ?_⟩
    rw [← beq_iff_eq.1 heq, List.dropLast_concat, if_pos rfl, List.getLast?_concat]

/-! ## Trees -/

/-- A path leads to a folder, with nothing but folders and files below it.  All of them have names
that tell them apart in paths, can be reached by their own paths, and the folders can be listed. -/
structure IsTree (disk : Disk) (p : Path) (loc : Location) : Prop where
  folder : ∃ permissions, disk.find p = .ok (loc, .folder permissions)
  unlinked : Unlinked disk loc
  named : ∀ below, (disk.node? (loc ++ below)).isSome = true → ∀ name ∈ below, IsPlainName name
  /-- No path is too long. -/
  reachable : ∀ below, (disk.node? (loc ++ below)).isSome = true →
    disk.exists? (p.descend below) = true
  readable : ∀ below permissions, disk.node? (loc ++ below) = some (.folder permissions) →
    disk.refusal .listFolder (loc ++ below) = none

namespace IsTree

/-- **Everything in a tree is found by its own path.** -/
theorem find_descend (h : IsTree disk p loc) (hnode : disk.node? (loc ++ below) = some node) :
    disk.find (p.descend below) = .ok (loc ++ below, node) := by
  have hsome : (disk.node? (loc ++ below)).isSome = true := by rw [hnode, Option.isSome_some]
  obtain ⟨permissions, hfolder⟩ := h.folder
  have hexists := h.reachable below hsome
  rw [exists?] at hexists
  cases hfind : disk.find (p.descend below) with
  | error e =>
    rw [hfind] at hexists
    cases hexists
  | ok found =>
    obtain ⟨x, node'⟩ := found
    have hnames := fun name hname => (h.named below hsome name hname).toIsName
    obtain rfl := location_eq_append h.unlinked hfolder hfind (Path.components_descend hnames)
    rw [← Option.some_inj.1 (hnode.symm.trans (node?_of_find hfind))]

/-- What is found in a tree is stored there. -/
theorem node?_of_find_descend (h : IsTree disk p loc) (hnames : ∀ name ∈ below, IsName name)
    (hfind : disk.find (p.descend below) = .ok (x, node)) :
    disk.node? (loc ++ below) = some node := by
  obtain ⟨permissions, hfolder⟩ := h.folder
  obtain rfl := location_eq_append h.unlinked hfolder hfind (Path.components_descend hnames)
  exact node?_of_find hfind

/-- A folder in a tree is a tree. -/
theorem child {permissions : Permissions} (h : IsTree disk p loc)
    (hnode : disk.node? (loc ++ [name]) = some (.folder permissions)) :
    IsTree disk (p.child name) (loc ++ [name]) := by
  have hloc : ∀ below, loc ++ [name] ++ below = loc ++ name :: below :=
    fun below => List.append_assoc loc [name] below
  have hfind : disk.find (p.descend [name]) = .ok (loc ++ [name], .folder permissions) :=
    h.find_descend hnode
  refine ⟨⟨permissions, hfind⟩, h.unlinked.append [name], ?_, ?_, ?_⟩
  · intro below hsome other hother
    rw [hloc] at hsome
    exact h.named _ hsome other (List.mem_cons_of_mem name hother)
  · intro below hsome
    rw [hloc] at hsome
    rw [← Path.descend_cons]
    exact h.reachable _ hsome
  · intro below permissions hfolder
    rw [hloc] at hfolder ⊢
    exact h.readable _ permissions hfolder

/-- **What is listed in a tree is what is stored there.** -/
theorem list_eq (h : IsTree disk p loc) : disk.list p = .ok (disk.names loc) := by
  obtain ⟨permissions, hfolder⟩ := h.folder
  have hnode : disk.node? (loc ++ []) = some (.folder permissions) := by
    rw [List.append_nil]
    exact node?_of_find hfolder
  have hrefusal := h.readable [] permissions hnode
  rw [List.append_nil] at hrefusal
  rw [Disk.list, hfolder]
  simp only [hrefusal]

/-- What stands before further names is a folder. -/
theorem exists_folder (h : IsTree disk p loc)
    (hsome : (disk.node? (loc ++ name :: below)).isSome = true) (hbelow : below ≠ []) :
    ∃ permissions, disk.node? (loc ++ [name]) = some (.folder permissions) := by
  obtain ⟨node, hnode⟩ := Option.isSome_iff_exists.1 hsome
  have hnames := fun other hother => (h.named _ hsome other hother).toIsName
  obtain ⟨permissions, hfolder⟩ := h.folder
  obtain ⟨left, hpath⟩ := leads_components_of_find hfolder
  obtain ⟨left', hleads⟩ := leads_components_of_find (h.find_descend hnode)
  rw [Path.components_descend hnames, List.filterMap_append, filterMap_ofName, List.map_cons,
    ← List.singleton_append, ← List.append_assoc] at hleads
  -- The way is cut after the first name, where there is more to follow.
  obtain ⟨l, y, hfirst, hrest⟩ := hleads.split
  obtain ⟨l', z, hfront, hname⟩ := hfirst.split
  obtain rfl := hfront.target_unique hpath
  rw [← List.map_singleton] at hname
  obtain rfl := hname.eq_append h.unlinked
  exact hrest.exists_folder (by simpa using hbelow)

end IsTree

/-! ## Disks that hold the same -/

/-- What is stored decides what a path leads to, in whatever order it is listed. -/
theorem find_of_node?_eq (hnode : ∀ loc, disk'.node? loc = disk.node? loc)
    (h : disk.find p = .ok (loc, node)) : disk'.find p = .ok (loc, node) := by
  have hext : Extends disk disk' := by
    refine ⟨fun loc permissions h => ⟨permissions, ?_⟩, fun loc content permissions h =>
      ⟨content, permissions, ?_⟩, fun loc target h => ?_⟩ <;> rw [hnode, h]
  obtain ⟨left, hleads⟩ := leads_of_find h
  obtain ⟨left', hleads'⟩ := leads_of_follow hext (follow_of_leads hleads) (.inl rfl)
  exact find_of_leads (pathFault?_of_find h) hleads' ((hnode loc).trans (node?_of_find h))

theorem IsTree.of_node?_eq (hnode : ∀ loc, disk'.node? loc = disk.node? loc)
    (hrefusal : disk'.refusal = disk.refusal) (h : IsTree disk p loc) : IsTree disk' p loc where
  folder := by
    obtain ⟨permissions, hfolder⟩ := h.folder
    exact ⟨permissions, find_of_node?_eq hnode hfolder⟩
  unlinked below target := by
    rw [hnode]
    exact h.unlinked below target
  named below := by
    rw [hnode]
    exact h.named below
  reachable below hsome := by
    rw [hnode] at hsome
    obtain ⟨node, hstored⟩ := Option.isSome_iff_exists.1 hsome
    rw [exists?, find_of_node?_eq hnode (h.find_descend hstored)]
  readable below permissions := by
    rw [hnode, hrefusal]
    exact h.readable below permissions

end Disk
end EmojiLint
