import EmojiLint.Project.Basic
import EmojiLint.Proofs.Disk.Depth

/-!
# Which files a walk finds

A file is found when there is a way to it through folders that are listed, none of which is skipped
or excluded, and when it is not excluded itself.  Sorting the files and dropping those that are the
same loses none, and neither does the bound on the depth.

* `Disk.Lists` — names are listed, each one in the folder that those before it lead to.
* `Disk.Named` — the names on a disk are names.
* `mem_walk_succ_iff`, `mem_walk_iff` — what one folder adds, and what is found within a depth.
* `any_same_dedup`, `selects_addTargets` — what is left of the files that were found.
* `mem_walk_walkDepth_iff` — what is found at any depth.
-/

set_option autoImplicit false

namespace EmojiLint

open EmojiLint.Path (IsName)

namespace Disk

/-- Names are listed, each one in the folder that the names before it lead to. -/
def Lists (disk : Disk) : Path → List String → Prop
  | _, [] => True
  | p, name :: names => (∃ listed, disk.list p = .ok listed ∧ name ∈ listed) ∧
      Lists disk (p.child name) names

/-- The names on a disk are names. -/
def Named (disk : Disk) : Prop :=
  ∀ entry ∈ disk.entries, ∀ name ∈ entry.1, IsName name

instance (disk : Disk) : Decidable disk.Named :=
  inferInstanceAs (Decidable (∀ entry ∈ disk.entries, ∀ name ∈ entry.1, IsName name))

variable {disk : Disk} {p : Path} {name : String} {names listed : List String}

theorem Named.isName_of_list (h : disk.Named) (hlist : disk.list p = .ok listed)
    (hname : name ∈ listed) : IsName name := by
  rw [list] at hlist
  split at hlist
  · cases hlist
  · split at hlist
    · cases hlist
    · obtain rfl := Except.ok.inj hlist
      obtain ⟨entry, hentry, hlast⟩ := List.mem_filterMap.1 hname
      split at hlast
      · exact h entry hentry name (List.mem_of_getLast? hlast)
      · cases hlast
  · cases hlist

theorem Named.isName_of_lists (h : disk.Named) (hlists : disk.Lists p names) :
    ∀ name ∈ names, IsName name := by
  induction names generalizing p with
  | nil => exact fun _ h => nomatch h
  | cons name names ih =>
    obtain ⟨⟨listed, hlist, hname⟩, hrest⟩ := hlists
    intro other hother
    rcases List.mem_cons.1 hother with rfl | hother
    · exact h.isName_of_list hlist hname
    · exact ih hrest other hother

theorem isFolder_of_list (h : disk.list p = .ok listed) : disk.isFolder p = true := by
  rw [list] at h
  rw [isFolder]
  cases hfind : disk.find p with
  | error e => rw [hfind] at h; cases h
  | ok found =>
    obtain ⟨loc, node⟩ := found
    rw [hfind] at h
    cases node with
    | folder permissions => rfl
    | file content permissions => cases h
    | link target => cases h

theorem isFolder_of_lists (h : disk.Lists p names) (hnames : names ≠ []) :
    disk.isFolder p = true := by
  cases names with
  | nil => exact absurd rfl hnames
  | cons name names =>
    obtain ⟨⟨listed, hlist, -⟩, -⟩ := h
    exact isFolder_of_list hlist

theorem exists_find_of_isFile (h : disk.isFile p = true) :
    ∃ loc content permissions, disk.find p = .ok (loc, .file content permissions) := by
  rw [isFile] at h
  split at h
  · next loc content permissions hfind => exact ⟨loc, content, permissions, hfind⟩
  · cases h

theorem isFolder_eq_false_of_isFile (h : disk.isFile p = true) : disk.isFolder p = false := by
  obtain ⟨loc, content, permissions, hfind⟩ := exists_find_of_isFile h
  rw [isFolder, hfind]

end Disk

namespace Discovery

variable {disk : Disk} {root p : Path} {m : Exclude.Matcher} {f : SourceFile}
  {names : List String} {depth : Nat}

/-! ## Walking -/

/-- No folder on the way is skipped or excluded. -/
def Open (root : Path) (m : Exclude.Matcher) : Path → List String → Prop
  | _, [] => True
  | p, name :: names => name ∉ skippedNames ∧
      excludesFolder m ((p.child name).relativeTo root) = false ∧ Open root m (p.child name) names

/-- The walk finds a file below a folder, by the names of the folders in between and its own. -/
structure Finds (disk : Disk) (root : Path) (m : Exclude.Matcher) (p : Path)
    (folders : List String) (name : String) : Prop where
  lists : disk.Lists p (folders ++ [name])
  isOpen : Open root m p folders
  isFile : disk.isFile (p.descend (folders ++ [name])) = true
  included : m.excludes ((p.descend (folders ++ [name])).relativeTo root) = false

/-- A path as a file that is selected. -/
def sourceFile (root p : Path) : SourceFile :=
  ⟨p, p.relativeTo root⟩

theorem finds_nil_iff {name : String} : Finds disk root m p [] name ↔
    (∃ listed, disk.list p = .ok listed ∧ name ∈ listed) ∧ disk.isFile (p.child name) = true ∧
      m.excludes ((p.child name).relativeTo root) = false :=
  ⟨fun ⟨hlists, _, hfile, hincluded⟩ => ⟨hlists.1, hfile, hincluded⟩,
    fun ⟨hlisted, hfile, hincluded⟩ => ⟨⟨hlisted, trivial⟩, trivial, hfile, hincluded⟩⟩

theorem finds_cons_iff {folder name : String} {folders : List String} :
    Finds disk root m p (folder :: folders) name ↔
      (∃ listed, disk.list p = .ok listed ∧ folder ∈ listed) ∧ folder ∉ skippedNames ∧
        excludesFolder m ((p.child folder).relativeTo root) = false ∧
          Finds disk root m (p.child folder) folders name :=
  ⟨fun ⟨hlists, hopen, hfile, hincluded⟩ =>
      ⟨hlists.1, hopen.1, hopen.2.1, hlists.2, hopen.2.2, hfile, hincluded⟩,
    fun ⟨hlisted, hskipped, hexcluded, hfinds⟩ =>
      ⟨⟨hlisted, hfinds.lists⟩, ⟨hskipped, hexcluded, hfinds.isOpen⟩, hfinds.isFile,
        hfinds.included⟩⟩

/-- Only a folder has anything below it. -/
theorem Finds.isFolder {folders : List String} {name : String}
    (h : Finds disk root m p folders name) : disk.isFolder p = true :=
  Disk.isFolder_of_lists h.lists (List.append_ne_nil_of_right_ne_nil _ (List.cons_ne_nil name []))

/-- What one name of a folder adds: the files below it, or itself. -/
theorem mem_walk_succ_iff : f ∈ walk disk root m (depth + 1) p ↔
    ∃ listed name, disk.list p = .ok listed ∧ name ∈ listed ∧
      (disk.isFolder (p.child name) = true ∧ name ∉ skippedNames ∧
          excludesFolder m ((p.child name).relativeTo root) = false ∧
            f ∈ walk disk root m depth (p.child name) ∨
        disk.isFile (p.child name) = true ∧ m.excludes ((p.child name).relativeTo root) = false ∧
          f = sourceFile root (p.child name)) := by
  rw [walk]
  cases hlist : disk.list p with
  | error e => exact iff_of_false List.not_mem_nil (by rintro ⟨_, _, h, -⟩; cases h)
  | ok listed =>
    simp only [List.mem_flatMap, Except.ok.injEq, exists_and_left, exists_eq_left']
    refine exists_congr fun name => and_congr_right fun _ => ?_
    by_cases hfolder : disk.isFolder (p.child name) = true
    · have hfile : ¬ disk.isFile (p.child name) = true := fun hfile => by
        rw [Disk.isFolder_eq_false_of_isFile hfile] at hfolder
        cases hfolder
      rw [if_pos hfolder, List.mem_ite_nil_left, Bool.or_eq_true, not_or, List.contains_iff_mem,
        Bool.not_eq_true, or_iff_left fun h => hfile h.1, and_iff_right hfolder, and_assoc]
    · rw [if_neg hfolder, List.mem_ite_nil_right, Bool.and_eq_true, Bool.not_eq_true',
        List.mem_singleton, or_iff_right fun h => hfolder h.1, and_assoc]
      rfl

/-- **What is found within a depth.** -/
theorem mem_walk_iff : f ∈ walk disk root m depth p ↔
    ∃ folders name, folders.length < depth ∧ Finds disk root m p folders name ∧
      f = sourceFile root (p.descend (folders ++ [name])) := by
  induction depth generalizing p with
  | zero => exact iff_of_false List.not_mem_nil (by rintro ⟨_, _, h, -⟩; cases h)
  | succ depth ih =>
    rw [mem_walk_succ_iff]
    constructor
    · rintro ⟨listed, name, hlist, hname, ⟨-, hskipped, hexcluded, hf⟩ | ⟨hfile, hincluded, rfl⟩⟩
      · obtain ⟨folders, last, hlength, hfinds, rfl⟩ := ih.1 hf
        exact ⟨name :: folders, last, Nat.succ_lt_succ hlength,
          finds_cons_iff.2 ⟨⟨listed, hlist, hname⟩, hskipped, hexcluded, hfinds⟩, rfl⟩
      · exact ⟨[], name, Nat.succ_pos _, finds_nil_iff.2 ⟨⟨listed, hlist, hname⟩, hfile, hincluded⟩,
          rfl⟩
    · rintro ⟨folders, name, hlength, hfinds, rfl⟩
      cases folders with
      | nil =>
        obtain ⟨⟨listed, hlist, hname⟩, hfile, hincluded⟩ := finds_nil_iff.1 hfinds
        exact ⟨listed, name, hlist, hname, .inr ⟨hfile, hincluded, rfl⟩⟩
      | cons folder folders =>
        obtain ⟨⟨listed, hlist, hname⟩, hskipped, hexcluded, hfinds⟩ := finds_cons_iff.1 hfinds
        exact ⟨listed, folder, hlist, hname, .inl ⟨hfinds.isFolder, hskipped, hexcluded,
          ih.2 ⟨folders, name, Nat.lt_of_succ_lt_succ hlength, hfinds, rfl⟩⟩⟩

/-- **What is found at all**: the walk goes as deep as there is anything. -/
theorem mem_walk_walkDepth_iff (hnamed : disk.Named) : f ∈ walk disk root m (walkDepth disk) p ↔
    ∃ folders name, Finds disk root m p folders name ∧
      f = sourceFile root (p.descend (folders ++ [name])) := by
  rw [mem_walk_iff]
  constructor
  · rintro ⟨folders, name, -, h⟩
    exact ⟨folders, name, h⟩
  · rintro ⟨folders, name, hfinds, rfl⟩
    obtain ⟨loc, content, permissions, hfind⟩ := Disk.exists_find_of_isFile hfinds.isFile
    have hlength := Disk.length_lt_walkDepth (hnamed.isName_of_lists hfinds.lists) hfind
    rw [List.length_append, List.length_singleton] at hlength
    exact ⟨folders, name, Nat.lt_of_succ_lt hlength, hfinds, rfl⟩

end Discovery

/-! ## Sorting and selecting -/

namespace SourceFile

variable {f g h : SourceFile}

theorem same_iff : f.same g = true ↔ f.path.Same g.path ∧ f.relative = g.relative := by
  rw [same, Bool.and_eq_true, decide_eq_true_eq, beq_iff_eq]

theorem same_refl (f : SourceFile) : f.same f = true :=
  same_iff.2 ⟨rfl, rfl⟩

theorem same_trans (hfg : f.same g = true) (hgh : g.same h = true) : f.same h = true := by
  rw [same_iff] at *
  exact ⟨hfg.1.trans hgh.1, hfg.2.trans hgh.2⟩

/-- Files that are the same as one another are the same as the same files. -/
theorem same_congr (hfg : f.same g = true) : f.same h = g.same h := by
  have hgf : g.same f = true := by
    rw [same_iff] at *
    exact ⟨hfg.1.symm, hfg.2.symm⟩
  exact Bool.eq_iff_iff.2 ⟨same_trans hgf, same_trans hfg⟩

end SourceFile

namespace Discovery

variable {disk : Disk} {root : Path} {m : Exclude.Matcher} {targets : List Path}
  {files : List SourceFile} {f : SourceFile}

/-- Of files that are the same, one is kept. -/
theorem any_same_dedup (files : List SourceFile) (f : SourceFile) :
    ((dedup files).any fun g => g.same f) = files.any fun g => g.same f := by
  induction files with
  | nil => rfl
  | cons g files ih =>
    rw [List.any_cons, ← ih, dedup]
    cases dedup files with
    | nil => rfl
    | cons h more =>
      dsimp only
      split
      · next hsame =>
        rw [List.any_cons, List.any_cons, SourceFile.same_congr hsame, ← Bool.or_assoc,
          Bool.or_self]
      · rfl

/-- No file comes from nowhere. -/
theorem mem_of_mem_dedup (h : f ∈ dedup files) : f ∈ files := by
  induction files with
  | nil => exact h
  | cons g files ih =>
    rw [dedup] at h
    split at h
    · rw [List.mem_singleton] at h
      exact h ▸ List.mem_cons_self
    · next k more hdedup =>
      rw [hdedup] at ih
      split at h
      · rcases List.mem_cons.1 h with rfl | h
        · exact List.mem_cons_self
        · exact List.mem_cons_of_mem _ (ih (List.mem_cons_of_mem _ h))
      · rcases List.mem_cons.1 h with rfl | h
        · exact List.mem_cons_self
        · exact List.mem_cons_of_mem _ (ih h)

/-- **What is found of some targets is what is found of each of them.** -/
theorem any_same_discover (f : SourceFile) :
    ((discover disk root m targets).any fun g => g.same f) =
      (targets.flatMap (ofTarget disk root m)).any fun g => g.same f := by
  rw [discover, any_same_dedup]
  exact (List.mergeSort_perm _ _).any_eq

end Discovery

namespace Project

variable {project : Project} {disk : Disk} {targets : List Path}

/-- Whether a file is selected, in whatever spelling. -/
def selects (project : Project) (f : SourceFile) : Bool :=
  project.files.any fun g => g.same f

/-- A file that is the same as one that is selected is not missed. -/
theorem any_same_of_any_same {files : List SourceFile} {f g : SourceFile}
    (hknown : (files.any fun h => h.same g) = true) (hsame : g.same f = true) :
    (files.any fun h => h.same f) = true := by
  obtain ⟨h, hmem, hg⟩ := List.any_eq_true.1 hknown
  exact List.any_eq_true.2 ⟨h, hmem, SourceFile.same_trans hg hsame⟩

theorem any_same_foldl (found files : List SourceFile) (f : SourceFile) :
    ((found.foldl (fun files f => if files.any fun g => g.same f then files else files ++ [f])
      files).any fun g => g.same f) =
        ((files.any fun g => g.same f) || found.any fun g => g.same f) := by
  induction found generalizing files with
  | nil => exact (Bool.or_false _).symm
  | cons g found ih =>
    rw [List.foldl_cons, ih, List.any_cons, ← Bool.or_assoc]
    congr 1
    split
    · next hknown =>
      rw [eq_comm, Bool.or_eq_left_iff_imp]
      exact any_same_of_any_same hknown
    · rw [List.any_append, List.any_cons, List.any_nil, Bool.or_false]

/-- **What is selected after adding targets**: what was, and what is found of them. -/
theorem selects_addTargets (f : SourceFile) : (project.addTargets disk targets).selects f =
    (project.selects f || (targets.flatMap
      (Discovery.ofTarget disk project.root project.matcher)).any fun g => g.same f) := by
  rw [← Discovery.any_same_discover]
  exact any_same_foldl _ project.files f

end Project
end EmojiLint
