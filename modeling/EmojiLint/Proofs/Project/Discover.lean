import EmojiLint.Proofs.Disk.Tree
import EmojiLint.Proofs.Project.Exclusion
import Mathlib.Data.List.Sort
import Mathlib.Data.String.Basic

/-!
# What is discovered in a tree of folders

In a tree of folders, which files a walk finds can be told from what is stored there, without the
walk.  They have different relative paths, so sorting them leaves one order only, and nothing
depends on the order in which folders list their entries.

* `lists_iff`, `finds_iff` — what the walk meets is what is stored.
* `notAbove_of_find` — a folder inside the root does not stand above it.
* `Apart`, `pairwise_dedup` — files that are told apart are sorted strictly.
* `discover_tree` — the files that are discovered in a tree, in which order.
-/

set_option autoImplicit false

namespace EmojiLint

open Disk (IsTree)
open EmojiLint.Path (IsName)

namespace SourceFile

variable {f g h : SourceFile}

theorem le_iff : f.le g = true ↔ f.relative ≤ g.relative := by
  rw [le, Ordering.isLE_iff_ne_gt]
  exact compare_le_iff_le

theorem pairwise_mergeSort (files : List SourceFile) :
    (files.mergeSort le).Pairwise fun f g => f.relative ≤ g.relative := by
  have htrans : ∀ f g h : SourceFile, f.le g = true → g.le h = true → f.le h = true := by
    intro f g h hfg hgh
    rw [le_iff] at *
    exact hfg.trans hgh
  have htotal : ∀ f g : SourceFile, (f.le g || g.le f) = true := by
    intro f g
    rw [Bool.or_eq_true, le_iff, le_iff]
    exact le_total _ _
  exact (List.pairwise_mergeSort htrans htotal files).imp le_iff.1

/-- Files that are sorted strictly are determined by which of them there are. -/
theorem eq_of_mem_iff {files others : List SourceFile}
    (hfiles : files.Pairwise fun f g => f.relative < g.relative)
    (hothers : others.Pairwise fun f g => f.relative < g.relative)
    (h : ∀ f, f ∈ files ↔ f ∈ others) : files = others := by
  have : Std.Irrefl fun f g : SourceFile => f.relative < g.relative := ⟨fun f => lt_irrefl _⟩
  have : Std.Antisymm fun f g : SourceFile => f.relative < g.relative :=
    ⟨fun f g hfg hgf => absurd hgf hfg.not_gt⟩
  exact hfiles.eq_of_mem_iff hothers h

end SourceFile

namespace Discovery

variable {disk disk' : Disk} {root target p : Path} {m : Exclude.Matcher} {loc top : Location}
  {name : String} {names folders : List String} {node : Node} {f : SourceFile}
  {files : List SourceFile}

/-! ## Files that are told apart -/

/-- Files are told apart by their relative paths. -/
def Apart (files : List SourceFile) : Prop :=
  ∀ f ∈ files, ∀ g ∈ files, f.relative = g.relative → f = g

/-- No file is lost when they are told apart. -/
theorem mem_dedup_iff (h : Apart files) : f ∈ dedup files ↔ f ∈ files := by
  refine ⟨mem_of_mem_dedup, fun hf => ?_⟩
  have hany : (files.any fun g => g.same f) = true :=
    List.any_eq_true.2 ⟨f, hf, SourceFile.same_refl f⟩
  rw [← any_same_dedup, List.any_eq_true] at hany
  obtain ⟨g, hg, hsame⟩ := hany
  exact h g (mem_of_mem_dedup hg) f hf (SourceFile.same_iff.1 hsame).2 ▸ hg

/-- **Files that are sorted and told apart are sorted strictly** once each of them is kept once. -/
theorem pairwise_dedup (h : Apart files)
    (hsorted : files.Pairwise fun f g => f.relative ≤ g.relative) :
    (dedup files).Pairwise fun f g => f.relative < g.relative := by
  induction files with
  | nil => exact .nil
  | cons f files ih =>
    obtain ⟨hle, hsorted⟩ := List.pairwise_cons.1 hsorted
    have hrest := ih (fun g hg k hk =>
      h g (List.mem_cons_of_mem f hg) k (List.mem_cons_of_mem f hk)) hsorted
    rw [dedup]
    cases hdedup : dedup files with
    | nil => exact List.pairwise_singleton _ _
    | cons g more =>
      have hmem : g ∈ files := mem_of_mem_dedup (hdedup ▸ List.mem_cons_self)
      rw [hdedup] at hrest
      dsimp only
      split
      · next hsame =>
        obtain rfl := h f List.mem_cons_self g (List.mem_cons_of_mem f hmem)
          (SourceFile.same_iff.1 hsame).2
        exact hrest
      · next hsame =>
        have hlt : f.relative < g.relative := by
          refine lt_of_le_of_ne (hle g hmem) fun heq => hsame ?_
          rw [h f List.mem_cons_self g (List.mem_cons_of_mem f hmem) heq]
          exact SourceFile.same_refl g
        refine List.pairwise_cons.2 ⟨fun k hk => ?_, hrest⟩
        rcases List.mem_cons.1 hk with rfl | hk
        · exact hlt
        · exact hlt.trans ((List.pairwise_cons.1 hrest).1 k hk)

/-! ## Walking a tree -/

/-- **Names are listed one after the other** when something is stored where they lead. -/
theorem lists_iff (h : IsTree disk p loc) (hnames : names ≠ []) :
    disk.Lists p names ↔ (disk.node? (loc ++ names)).isSome = true := by
  induction names generalizing p loc with
  | nil => exact absurd rfl hnames
  | cons name names ih =>
    have hfirst : (∃ listed, disk.list p = .ok listed ∧ name ∈ listed) ↔
        (disk.node? (loc ++ [name])).isSome = true := by
      rw [h.list_eq, ← Disk.mem_names_iff]
      constructor
      · rintro ⟨listed, hlisted, hname⟩
        exact Except.ok.inj hlisted ▸ hname
      · exact fun hname => ⟨_, rfl, hname⟩
    have hloc : loc ++ name :: names = loc ++ [name] ++ names :=
      (List.append_assoc loc [name] names).symm
    rw [Disk.Lists, hfirst]
    by_cases hlast : names = []
    · rw [hlast]
      exact and_iff_left trivial
    constructor
    · rintro ⟨hsome, hrest⟩
      -- The name is listed and leads to a folder, so its path does.
      have hfolder := Disk.isFolder_of_lists hrest hlast
      rw [Disk.isFolder] at hfolder
      split at hfolder
      · next x permissions hfind =>
        have hname : IsName name := (h.named [name] hsome name List.mem_cons_self).toIsName
        have hnode : disk.node? (loc ++ [name]) = some (.folder permissions) := by
          refine h.node?_of_find_descend (fun other hother => ?_) hfind
          rw [List.mem_singleton.1 hother]
          exact hname
        rw [hloc]
        exact (ih (h.child hnode) hlast).1 hrest
      · cases hfolder
    · intro hsome
      obtain ⟨permissions, hnode⟩ := h.exists_folder hsome hlast
      rw [hloc] at hsome
      exact ⟨by rw [hnode, Option.isSome_some], (ih (h.child hnode) hlast).2 hsome⟩

/-- **What the walk finds in a tree is stored there**, and reached through folders that are open. -/
theorem finds_iff (h : IsTree disk p loc) : Finds disk root m p folders name ↔
    (∃ content permissions,
      disk.node? (loc ++ (folders ++ [name])) = some (.file content permissions)) ∧
    Open root m p folders ∧
      m.excludes ((p.descend (folders ++ [name])).relativeTo root) = false := by
  have hne : folders ++ [name] ≠ [] :=
    List.append_ne_nil_of_right_ne_nil folders (List.cons_ne_nil name [])
  constructor
  · rintro ⟨hlists, hopen, hfile, hincluded⟩
    obtain ⟨x, content, permissions, hfind⟩ := Disk.exists_find_of_isFile hfile
    have hplain := h.named _ ((lists_iff h hne).1 hlists)
    have hnames := fun other hother => (hplain other hother).toIsName
    exact ⟨⟨content, permissions, h.node?_of_find_descend hnames hfind⟩, hopen, hincluded⟩
  · rintro ⟨⟨content, permissions, hnode⟩, hopen, hincluded⟩
    have hsome : (disk.node? (loc ++ (folders ++ [name]))).isSome = true := by
      rw [hnode, Option.isSome_some]
    refine ⟨(lists_iff h hne).2 hsome, hopen, ?_, hincluded⟩
    rw [Disk.isFile, h.find_descend hnode]

/-- A file of a tree that is discovered, by the folders on the way to it and its name. -/
structure Discovered (disk : Disk) (root target : Path) (m : Exclude.Matcher) (loc : Location)
    (folders : List String) (name : String) : Prop where
  stored : ∃ content permissions,
    disk.node? (loc ++ (folders ++ [name])) = some (.file content permissions)
  unskipped : ∀ folder ∈ folders, folder ∉ skippedNames
  /-- No folder strictly between the target and the file is excluded. -/
  entered : ∀ front, front <+: folders → front ≠ [] →
    excludesFolder m (wayText root target front) = false
  included : m.excludes (wayText root target (folders ++ [name])) = false

theorem mem_ofTarget_iff (h : IsTree disk (root.join target) loc)
    (hincluded : excludesFolder m ((root.join target).relativeTo root) = false) :
    f ∈ ofTarget disk root m target ↔ ∃ folders name,
      Discovered disk root target m loc folders name ∧
        f = sourceFile root (wayTo root target (folders ++ [name])) := by
  have hfolder : disk.isFolder (root.join target) = true := by
    obtain ⟨permissions, hfind⟩ := h.folder
    rw [Disk.isFolder, hfind]
  rw [ofTarget, if_pos hfolder, hincluded, if_neg Bool.false_ne_true, mem_walk_iff]
  constructor
  · rintro ⟨folders, name, -, hfinds, rfl⟩
    obtain ⟨hstored, hopen, hfile⟩ := (finds_iff h).1 hfinds
    obtain ⟨hskipped, hentered⟩ := open_iff.1 ⟨hincluded, hopen⟩
    exact ⟨folders, name, ⟨hstored, hskipped, fun front hfront _ => hentered front hfront, hfile⟩,
      rfl⟩
  · rintro ⟨folders, name, ⟨hstored, hskipped, hentered, hfile⟩, rfl⟩
    have hopen : Open root m (root.join target) folders := by
      refine (open_iff.2 ⟨hskipped, fun front hfront => ?_⟩).2
      by_cases hnil : front = []
      · rw [hnil]
        exact hincluded
      · exact hentered front hfront hnil
    refine ⟨folders, name, ?_, (finds_iff h).2 ⟨hstored, hopen, hfile⟩, rfl⟩
    obtain ⟨content, permissions, hnode⟩ := hstored
    have hplain := h.named _ (by rw [hnode, Option.isSome_some])
    have hlength := Disk.length_lt_walkDepth
      (fun other hother => (hplain other hother).toIsName) (h.find_descend hnode)
    rw [List.length_append, List.length_singleton] at hlength
    exact Nat.lt_of_succ_lt hlength

/-! ## Files in a tree are told apart -/

/-- **A folder inside the root does not stand above it**, whatever their paths look like. -/
theorem notAbove_of_find (h : IsTree disk p loc) (hroot : disk.find root = .ok (top, node))
    (hinside : top <+: loc) : p.NotAbove root := by
  intro names hnames hin
  rw [Path.Inside, Path.components_descend hnames] at hin
  rcases List.prefix_or_prefix_of_prefix hin (List.prefix_append _ _) with hfront | hfront
  · exact hfront
  · obtain ⟨more, hmore⟩ := hfront
    rw [← hmore, List.prefix_append_right_inj, List.prefix_iff_eq_take, ← List.map_take] at hin
    rw [hin] at hmore
    obtain ⟨permissions, hfolder⟩ := h.folder
    have htop := Disk.location_eq_append h.unlinked hfolder hroot hmore.symm
    have hnil : names.take more.length = [] := by
      rw [htop] at hinside
      have hlength := hinside.length_le
      rw [List.length_append] at hlength
      exact List.length_eq_zero_iff.1 (by omega)
    rw [hnil, List.map_nil, List.append_nil] at hmore
    rw [Path.Inside, hmore]

theorem apart_ofTarget (h : IsTree disk (root.join target) loc)
    (habove : (root.join target).NotAbove root)
    (hincluded : excludesFolder m ((root.join target).relativeTo root) = false) :
    Apart (ofTarget disk root m target) := by
  intro f hf g hg heq
  obtain ⟨folders, name, hfile, rfl⟩ := (mem_ofTarget_iff h hincluded).1 hf
  obtain ⟨folders', name', hfile', rfl⟩ := (mem_ofTarget_iff h hincluded).1 hg
  have hplain : ∀ {folders name}, Discovered disk root target m loc folders name →
      ∀ other ∈ folders ++ [name], Path.IsPlainName other := by
    rintro folders name ⟨⟨content, permissions, hnode⟩, -, -, -⟩
    exact h.named _ (by rw [hnode, Option.isSome_some])
  have hnames := Path.relativeTo_descend_inj habove (hplain hfile) (hplain hfile')
    (List.append_ne_nil_of_right_ne_nil folders (List.cons_ne_nil name []))
    (List.append_ne_nil_of_right_ne_nil folders' (List.cons_ne_nil name' [])) heq
  rw [hnames]

/-! ## What is discovered -/

theorem pairwise_discover (h : IsTree disk (root.join target) loc)
    (habove : (root.join target).NotAbove root)
    (hincluded : excludesFolder m ((root.join target).relativeTo root) = false) :
    (discover disk root m [target]).Pairwise fun f g => f.relative < g.relative := by
  rw [discover, List.flatMap_singleton]
  refine pairwise_dedup (fun f hf g hg => ?_) (SourceFile.pairwise_mergeSort _)
  rw [List.mem_mergeSort] at hf hg
  exact apart_ofTarget h habove hincluded f hf g hg

theorem mem_discover_iff (h : IsTree disk (root.join target) loc)
    (habove : (root.join target).NotAbove root)
    (hincluded : excludesFolder m ((root.join target).relativeTo root) = false) :
    f ∈ discover disk root m [target] ↔ ∃ folders name,
      Discovered disk root target m loc folders name ∧
        f = sourceFile root (wayTo root target (folders ++ [name])) := by
  rw [← mem_ofTarget_iff h hincluded, discover, List.flatMap_singleton, mem_dedup_iff,
    List.mem_mergeSort]
  intro f hf g hg
  rw [List.mem_mergeSort] at hf hg
  exact apart_ofTarget h habove hincluded f hf g hg

/-- **What is discovered in a tree of folders** inside the root, as far as paths tell or in truth:
the files that are not excluded, but for those below folders that are excluded or skipped.  They
are sorted strictly by their relative paths, so that none of them comes twice, and in whatever
order the same disk lists what it stores, they are the same. -/
theorem discover_tree (root target : Path) (m : Exclude.Matcher)
    (htree : IsTree disk (root.join target) loc)
    (hinside : (root.join target).Inside root ∨ ∃ top permissions,
      disk.find root = .ok (top, .folder permissions) ∧ top <+: loc)
    (hincluded : excludesFolder m ((root.join target).relativeTo root) = false) :
    (∀ f, f ∈ discover disk root m [target] ↔ ∃ folders name,
      Discovered disk root target m loc folders name ∧
        f = sourceFile root (wayTo root target (folders ++ [name]))) ∧
    ((discover disk root m [target]).Pairwise fun f g => f.relative < g.relative) ∧
    ∀ disk' : Disk, (∀ other, disk'.node? other = disk.node? other) →
      disk'.refusal = disk.refusal →
        discover disk' root m [target] = discover disk root m [target] := by
  have habove : (root.join target).NotAbove root := by
    rcases hinside with hinside | ⟨top, permissions, hroot, htop⟩
    · exact hinside.notAbove
    · exact notAbove_of_find htree hroot htop
  refine ⟨fun f => mem_discover_iff htree habove hincluded,
    pairwise_discover htree habove hincluded, fun disk' hnode hrefusal => ?_⟩
  have htree' := htree.of_node?_eq hnode hrefusal
  have hsame : ∀ f, f ∈ discover disk' root m [target] ↔ f ∈ discover disk root m [target] := by
    intro f
    rw [mem_discover_iff htree' habove hincluded, mem_discover_iff htree habove hincluded]
    refine exists_congr fun folders => exists_congr fun name => and_congr_left fun _ => ?_
    constructor <;> rintro ⟨hstored, hskipped, hentered, hfile⟩
    · exact ⟨hnode _ ▸ hstored, hskipped, hentered, hfile⟩
    · exact ⟨(hnode _).symm ▸ hstored, hskipped, hentered, hfile⟩
  exact SourceFile.eq_of_mem_iff (pairwise_discover htree' habove hincluded)
    (pairwise_discover htree habove hincluded) hsame

/-- What is stored in the sample. -/
theorem node?_sampleDisk {below : List String} (h : sampleDisk.node? (["w"] ++ below) = some node) :
    below = [] ∧ node = .folder Disk.folderPermissions ∨
      below = ["build1"] ∧ node = .folder Disk.folderPermissions ∨
        below = ["build1", "x.py"] ∧ node = .file "".toUTF8 Disk.filePermissions := by
  rw [List.singleton_append, Disk.node?, if_neg (List.cons_ne_nil "w" below), sampleDisk] at h
  simp only [Assoc.lookup_cons, List.cons.injEq, true_and, List.lookup_nil] at h
  split at h
  · next hnil => exact .inl ⟨hnil, (Option.some_inj.1 h).symm⟩
  · split at h
    · next hbuild => exact .inr (.inl ⟨hbuild, (Option.some_inj.1 h).symm⟩)
    · split at h
      · next hfile => exact .inr (.inr ⟨hfile, (Option.some_inj.1 h).symm⟩)
      · cases h

theorem isTree_sampleDisk : IsTree sampleDisk (.ofText "/w") ["w"] := by
  obtain ⟨hroot, hfolder, hfile⟩ := find_sampleDisk
  have hchild : (Path.ofText "/w").descend ["build1"] = .ofText "/w/build1" := by decide
  have hend : (Path.ofText "/w").descend ["build1", "x.py"] = .ofText "/w/build1/x.py" := by decide
  refine ⟨⟨_, hroot⟩, fun below target h => ?_, fun below hsome => ?_, fun below hsome => ?_,
    fun _ _ _ => rfl⟩
  · obtain ⟨-, h⟩ | ⟨-, h⟩ | ⟨-, h⟩ := node?_sampleDisk h <;> cases h
  · obtain ⟨node, hnode⟩ := Option.isSome_iff_exists.1 hsome
    obtain ⟨rfl, -⟩ | ⟨rfl, -⟩ | ⟨rfl, -⟩ := node?_sampleDisk hnode <;> decide
  · obtain ⟨node, hnode⟩ := Option.isSome_iff_exists.1 hsome
    obtain ⟨rfl, -⟩ | ⟨rfl, -⟩ | ⟨rfl, -⟩ := node?_sampleDisk hnode
    · rw [Path.descend, List.foldl_nil, Disk.exists?, hroot]
    · rw [hchild, Disk.exists?, hfolder]
    · rw [hend, Disk.exists?, hfile]

/-- The file in the sample is discovered, and with it nothing else. -/
theorem discover_tree_build :
    IsTree sampleDisk ((Path.ofText "/w").join (.ofText "/w")) ["w"] ∧
      ((Path.ofText "/w").join (.ofText "/w")).Inside (.ofText "/w") ∧
      discover sampleDisk (.ofText "/w") (.ofPatterns ["*.md"]) [.ofText "/w"] =
        [⟨.ofText "/w/build1/x.py", "build1/x.py"⟩] := by
  have hjoin : (Path.ofText "/w").join (.ofText "/w") = .ofText "/w" := by decide
  have htree : IsTree sampleDisk ((Path.ofText "/w").join (.ofText "/w")) ["w"] :=
    hjoin ▸ isTree_sampleDisk
  have hinside : ((Path.ofText "/w").join (.ofText "/w")).Inside (.ofText "/w") := by
    rw [hjoin]
    exact List.prefix_refl _
  obtain ⟨hmem, hsorted, -⟩ := discover_tree (.ofText "/w") (.ofText "/w") (.ofPatterns ["*.md"])
    htree (.inl hinside) (by decide)
  refine ⟨htree, hinside,
    SourceFile.eq_of_mem_iff hsorted (List.pairwise_singleton _ _) fun f => ?_⟩
  rw [hmem, List.mem_singleton]
  constructor
  · rintro ⟨folders, name, ⟨⟨content, permissions, hnode⟩, -, -, -⟩, rfl⟩
    obtain ⟨-, h⟩ | ⟨-, h⟩ | ⟨hbelow, -⟩ := node?_sampleDisk hnode
    · cases h
    · cases h
    · rw [hbelow]
      decide
  · rintro rfl
    refine ⟨["build1"], "x.py", ⟨⟨_, _, rfl⟩, by decide, fun front hfront hnil => ?_, by decide⟩,
      by decide⟩
    rcases List.prefix_cons_iff.1 hfront with rfl | ⟨below, rfl, hbelow⟩
    · exact absurd rfl hnil
    · rw [List.prefix_nil.1 hbelow]
      decide

end Discovery
end EmojiLint
