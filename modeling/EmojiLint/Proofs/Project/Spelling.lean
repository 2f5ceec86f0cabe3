import EmojiLint.Proofs.Disk.Tree
import EmojiLint.Proofs.Project.Exclusion
import Mathlib.Data.List.Pairwise

/-!
# Files in more than one spelling

Files are held by their spelling: two selections are of the same file when their paths name the same
and look the same from the root.  A dot or a pair of dots in the middle of a path, or a second slash
there, changes how it looks and not where it leads.  So a project can hold one file twice, and the
patterns can exclude one spelling of it and not the other.

* `HeldOnce` — no file is held in more than one spelling.
* `heldOnce_iff` — files are held once when whatever leads to the same file is spelled the same.
* `same_of_tidy` — tidy paths that lead to the same file are spelled the same.
* `heldOnce_as_spelled` — when files are held once, and when targets are treated alike.
-/

set_option autoImplicit false

namespace EmojiLint

open Discovery (Finds mem_walk_iff ofTarget sourceFile unselected)
open EmojiLint.Path (IsName Tidy)

namespace Disk

variable {disk : Disk} {p : Path} {loc top : Location} {node : Node} {names : List String}

/-- A path to anything names something. -/
theorem components_ne_nil (h : disk.find p = .ok (loc, node)) : p.components ≠ [] := by
  have hfull : p.text.toList ≠ [] := by
    intro hempty
    have htext : p.text.isEmpty = true := by
      rw [String.isEmpty_iff, ← String.toList_eq_nil_iff, hempty]
    rw [find, spot, pathFault?, hempty, htext] at h
    cases h
  obtain ⟨c, cs, htext⟩ := List.exists_cons_of_ne_nil hfull
  rw [Path.components, Path.anchor]
  by_cases habsolute : p.isAbsolute = true
  · rw [if_pos habsolute]
    exact List.cons_ne_nil _ _
  · have hslash : c ≠ '/' := by
      rintro rfl
      exact habsolute (by rw [Path.isAbsolute, htext]; rfl)
    obtain ⟨s, ss, -, hbody⟩ := Text.fields_cons_of_ne hslash cs
    rw [← Path.segments, ← htext] at hbody
    rw [if_neg habsolute]
    by_cases hhere : p.startsHere = true
    · rw [if_pos hhere]
      exact List.cons_ne_nil _ _
    · -- The first segment is neither empty nor a dot.
      have hnamed : Path.isNamed (c :: s) = true := by
        rw [Path.startsHere, Path.body, if_neg habsolute, hbody, List.head?_cons] at hhere
        rw [Path.isNamed, Bool.and_eq_true, bne_iff_ne]
        refine ⟨rfl, fun hdot => hhere ?_⟩
        rw [hdot, Bool.eq_false_iff.2 habsolute]
        rfl
      have hsome := Path.Component.isSome_ofSegment? p.isText (c :: s)
      rw [hnamed] at hsome
      obtain ⟨component, hcomponent⟩ := Option.isSome_iff_exists.1 hsome
      rw [if_neg hhere, Path.body, if_neg habsolute, hbody, List.filterMap_cons_some hcomponent]
      exact List.cons_ne_nil _ _

/-- Tidy paths lead down from the root by their names. -/
theorem location_of_tidy {root : Path} {permissions : Permissions}
    (hroot : disk.find root = .ok (top, .folder permissions)) (hunlinked : Unlinked disk top)
    (h : Tidy root p names) (hp : disk.find p = .ok (loc, node)) : loc = top ++ names :=
  location_eq_append hunlinked hroot hp (h.components_eq (components_ne_nil hroot))

end Disk

namespace Project

variable {disk : Disk} {root : Path} {settings : Settings} {project : Project}
  {m : Exclude.Matcher} {target target' : Path} {targets : List Path} {calls : List (List Path)}
  {files found : List SourceFile} {f g : SourceFile} {top : Location} {permissions : Permissions}
  {names names' : List String}

/-! ## What is held -/

/-- Select the targets of one call after the other. -/
def addAll (project : Project) (disk : Disk) (calls : List (List Path)) : Project :=
  calls.foldl (fun project targets => project.addTargets disk targets) project

/-- What is found of all targets. -/
def foundOf (disk : Disk) (root : Path) (m : Exclude.Matcher) (calls : List (List Path)) :
    List SourceFile :=
  calls.flatMap fun targets => targets.flatMap (ofTarget disk root m)

/-- No two files that are held are the same on the disk. -/
def HeldOnce (disk : Disk) (files : List SourceFile) : Prop :=
  files.Pairwise fun f g => ¬ disk.SamePlace f.path g.path

theorem selects_addAll : (project.addAll disk calls).selects f =
    (project.selects f ||
      (foundOf disk project.root project.matcher calls).any fun g => g.same f) := by
  induction calls generalizing project with
  | nil => exact (Bool.or_false _).symm
  | cons targets calls ih =>
    have hnext : ((project.addTargets disk targets).addAll disk calls).selects f =
        ((project.addTargets disk targets).selects f ||
          (foundOf disk project.root project.matcher calls).any fun g => g.same f) := ih
    rw [foundOf, List.flatMap_cons, List.any_append, ← foundOf, ← Bool.or_assoc,
      ← selects_addTargets]
    exact hnext

/-- Files that are told apart stay so when one is added that is new. -/
theorem pairwise_foldl (h : files.Pairwise fun f g => f.same g = false) :
    (found.foldl (fun files f => if files.any fun g => g.same f then files else files ++ [f])
      files).Pairwise fun f g => f.same g = false := by
  induction found generalizing files with
  | nil => exact h
  | cons f found ih =>
    rw [List.foldl_cons]
    split
    · exact ih h
    · next hnew =>
      refine ih (List.pairwise_append.2 ⟨h, List.pairwise_singleton _ _, fun g hg k hk => ?_⟩)
      rw [List.mem_singleton.1 hk, ← Bool.not_eq_true]
      exact fun hsame => hnew (List.any_eq_true.2 ⟨g, hg, hsame⟩)

theorem pairwise_addAll (h : project.files.Pairwise fun f g => f.same g = false) :
    (project.addAll disk calls).files.Pairwise fun f g => f.same g = false := by
  induction calls generalizing project with
  | nil => exact h
  | cons targets calls ih => exact ih (pairwise_foldl h)

theorem mem_foldl (h : f ∈ found.foldl
    (fun files f => if files.any fun g => g.same f then files else files ++ [f]) files) :
    f ∈ files ∨ f ∈ found := by
  induction found generalizing files with
  | nil => exact .inl h
  | cons g found ih =>
    rw [List.foldl_cons] at h
    rcases ih h with hmem | hmem
    · split at hmem
      · exact .inl hmem
      · rcases List.mem_append.1 hmem with hmem | hmem
        · exact .inl hmem
        · exact .inr (List.mem_singleton.1 hmem ▸ List.mem_cons_self)
    · exact .inr (List.mem_cons_of_mem g hmem)

/-- What is held was found. -/
theorem mem_addAll (h : f ∈ (project.addAll disk calls).files) :
    f ∈ project.files ∨ f ∈ foundOf disk project.root project.matcher calls := by
  induction calls generalizing project with
  | nil => exact .inl h
  | cons targets calls ih =>
    have hnext : f ∈ (project.addTargets disk targets).files ∨
        f ∈ foundOf disk project.root project.matcher calls := ih h
    rw [foundOf, List.flatMap_cons, List.mem_append, ← foundOf]
    rcases hnext with hmem | hmem
    · rcases mem_foldl hmem with hmem | hmem
      · exact .inl hmem
      · exact .inr (.inl (List.mem_mergeSort.1 (Discovery.mem_of_mem_dedup hmem)))
    · exact .inr (.inr hmem)

/-! ## What is found -/

/-- What is found of a target is a file, as it is seen from the root. -/
theorem exists_descend_of_mem_ofTarget (h : f ∈ ofTarget disk root m target) :
    ∃ names, disk.Lists (root.join target) names ∧ disk.isFile f.path = true ∧
      f = sourceFile root ((root.join target).descend names) := by
  rw [ofTarget] at h
  split at h
  · split at h
    · cases h
    · obtain ⟨folders, name, -, hfinds, rfl⟩ := mem_walk_iff.1 h
      exact ⟨_, hfinds.lists, hfinds.isFile, rfl⟩
  · split at h
    · next hfile =>
      obtain rfl := List.mem_singleton.1 h
      exact ⟨[], trivial, (Bool.and_eq_true_iff.1 hfile).1, rfl⟩
    · cases h

theorem mem_ofTarget_of_isFile (hfile : disk.isFile (root.join target) = true)
    (hincluded : m.excludes ((root.join target).relativeTo root) = false) :
    sourceFile root (root.join target) ∈ ofTarget disk root m target := by
  rw [ofTarget, Disk.isFolder_eq_false_of_isFile hfile, if_neg Bool.false_ne_true, hfile,
    hincluded]
  exact List.mem_singleton_self _

theorem exists_target_of_mem_foundOf (h : f ∈ foundOf disk root m calls) :
    ∃ targets ∈ calls, ∃ target ∈ targets, f ∈ ofTarget disk root m target := by
  obtain ⟨targets, htargets, hf⟩ := List.mem_flatMap.1 h
  obtain ⟨target, htarget, hf⟩ := List.mem_flatMap.1 hf
  exact ⟨targets, htargets, target, htarget, hf⟩

theorem exists_find_of_mem_foundOf (h : f ∈ foundOf disk root m calls) :
    ∃ loc content permissions, disk.find f.path = .ok (loc, .file content permissions) := by
  obtain ⟨targets, -, target, -, hf⟩ := exists_target_of_mem_foundOf h
  obtain ⟨names, -, hfile, -⟩ := exists_descend_of_mem_ofTarget hf
  exact Disk.exists_find_of_isFile hfile

/-- Selections of the same file are the same on the disk. -/
theorem samePlace_of_same (hsame : f.same g = true) (hf : f ∈ foundOf disk root m calls)
    (hg : g ∈ foundOf disk root m calls) : disk.SamePlace f.path g.path := by
  obtain ⟨loc, content, permissions, hfind⟩ := exists_find_of_mem_foundOf hf
  obtain ⟨loc', content', permissions', hfind'⟩ := exists_find_of_mem_foundOf hg
  exact Disk.samePlace_of_same (SourceFile.same_iff.1 hsame).1 hfind hfind'

/-- **Files are held once when whatever leads to the same file is spelled the same.** -/
theorem heldOnce_iff :
    HeldOnce disk ((unselected root settings).addAll disk calls).files ↔
      ∀ f ∈ foundOf disk root settings.matcher calls,
        ∀ g ∈ foundOf disk root settings.matcher calls,
          disk.SamePlace f.path g.path → f.same g = true := by
  have hfound : ∀ {f}, f ∈ ((unselected root settings).addAll disk calls).files →
      f ∈ foundOf disk root settings.matcher calls := by
    intro f hf
    exact (mem_addAll hf).resolve_left List.not_mem_nil
  constructor
  · intro honce f hf g hg hplace
    -- Both are held, in the same spelling as they were found in or another one.
    have hheld : ∀ {f}, f ∈ foundOf disk root settings.matcher calls →
        ∃ k ∈ ((unselected root settings).addAll disk calls).files, k.same f = true := by
      intro f hf
      refine List.any_eq_true.1 (selects_addAll.trans (Bool.or_eq_true_iff.2 (.inr ?_)))
      exact List.any_eq_true.2 ⟨f, hf, SourceFile.same_refl f⟩
    obtain ⟨k, hk, hkf⟩ := hheld hf
    obtain ⟨l, hl, hlg⟩ := hheld hg
    have hkl : disk.SamePlace k.path l.path :=
      ((samePlace_of_same hkf (hfound hk) hf).trans hplace).trans
        (samePlace_of_same hlg (hfound hl) hg).symm
    have hsymm : Std.Symm fun f g : SourceFile => ¬ disk.SamePlace f.path g.path :=
      ⟨fun _ _ h h' => h h'.symm⟩
    have hequal : k = l := by
      by_contra hne
      exact honce.forall hk hl hne hkl
    rw [← SourceFile.same_congr hkf, hequal]
    exact hlg
  · intro hspelled
    have hapart : ((unselected root settings).addAll disk calls).files.Pairwise
        fun f g => f.same g = false := pairwise_addAll .nil
    refine hapart.imp_of_mem fun hf hg hdiffer hplace => ?_
    rw [hspelled _ (hfound hf) _ (hfound hg) hplace] at hdiffer
    cases hdiffer

/-! ## Tidy spellings -/

/-- **Tidy paths that lead to the same file are spelled the same.** -/
theorem same_of_tidy {p q : Path} (hroot : disk.find root = .ok (top, .folder permissions))
    (hunlinked : disk.Unlinked top) (hp : Tidy root p names) (hq : Tidy root q names')
    (hplace : disk.SamePlace p q) : (sourceFile root p).same (sourceFile root q) = true := by
  have hne := Disk.components_ne_nil hroot
  obtain ⟨⟨loc, node⟩, hfind, hfind'⟩ := hplace
  have hlocation := (Disk.location_of_tidy hroot hunlinked hp hfind).symm.trans
    (Disk.location_of_tidy hroot hunlinked hq hfind')
  obtain rfl := List.append_cancel_left hlocation
  refine SourceFile.same_iff.2 ⟨?_, ?_⟩
  · rw [Path.Same, sourceFile, sourceFile, hp.components_eq hne, hq.components_eq hne]
  · rw [sourceFile, sourceFile, ← String.toList_inj, hp.relativeTo_eq hne, hq.relativeTo_eq hne]

theorem exists_tidy_of_mem_foundOf (hnamed : disk.Named)
    (htidy : ∀ targets ∈ calls, ∀ target ∈ targets, ∃ names, Tidy root (root.join target) names)
    (hf : f ∈ foundOf disk root m calls) :
    ∃ names, Tidy root f.path names ∧ f = sourceFile root f.path := by
  obtain ⟨targets, htargets, target, htarget, hf⟩ := exists_target_of_mem_foundOf hf
  obtain ⟨names, hnames⟩ := htidy targets htargets target htarget
  obtain ⟨below, hlists, -, rfl⟩ := exists_descend_of_mem_ofTarget hf
  exact ⟨_, hnames.descend (hnamed.isName_of_lists hlists), rfl⟩

theorem unlinked_sampleDisk (top : Location) : Discovery.sampleDisk.Unlinked top := by
  refine Disk.unlinked_of_forall fun entry hentry target hlink => ?_
  simp only [Discovery.sampleDisk, List.mem_cons, List.not_mem_nil, or_false] at hentry
  rcases hentry with rfl | rfl | rfl <;> cases hlink

/-- **What the spelling of targets decides.**  However targets are added, what they select is held
once exactly when the selections that lead to the same file are spelled the same, and two targets
that are files are treated alike exactly when the patterns say the same of their relative paths.

Below a root without links this is so for all tidy targets, in whatever order they are added and
however they overlap: each file is held once, and its relative path does not depend on the
target. -/
theorem heldOnce_as_spelled (disk : Disk) (root : Path) (settings : Settings)
    (calls : List (List Path)) :
    (HeldOnce disk ((unselected root settings).addAll disk calls).files ↔
      ∀ f ∈ foundOf disk root settings.matcher calls,
        ∀ g ∈ foundOf disk root settings.matcher calls,
          disk.SamePlace f.path g.path → f.same g = true) ∧
    (∀ target target' : Path, disk.isFile (root.join target) = true →
      disk.isFile (root.join target') = true →
        (((unselected root settings).addTargets disk [target]).selects
            (sourceFile root (root.join target)) =
          ((unselected root settings).addTargets disk [target']).selects
            (sourceFile root (root.join target')) ↔
          settings.matcher.excludes ((root.join target).relativeTo root) =
            settings.matcher.excludes ((root.join target').relativeTo root))) ∧
    ∀ (top : Location) (permissions : Permissions),
      disk.find root = .ok (top, .folder permissions) → disk.Unlinked top → disk.Named →
        ((∀ targets ∈ calls, ∀ target ∈ targets, ∃ names, Tidy root (root.join target) names) →
          HeldOnce disk ((unselected root settings).addAll disk calls).files) ∧
        ∀ (target target' : Path) (names names' : List String),
          Tidy root (root.join target) names → Tidy root (root.join target') names' →
            disk.SamePlace (root.join target) (root.join target') →
              (root.join target).relativeTo root = (root.join target').relativeTo root := by
  refine ⟨heldOnce_iff, ?_, ?_⟩
  · intro target target' hfile hfile'
    rw [Discovery.selects_file hfile, Discovery.selects_file hfile', Bool.not_inj_iff]
  · intro top permissions hroot hunlinked hnamed
    refine ⟨fun htidy => heldOnce_iff.2 fun f hf g hg hplace => ?_, ?_⟩
    · obtain ⟨names, hnames, hf⟩ := exists_tidy_of_mem_foundOf hnamed htidy hf
      obtain ⟨names', hnames', hg⟩ := exists_tidy_of_mem_foundOf hnamed htidy hg
      rw [hf, hg]
      exact same_of_tidy hroot hunlinked hnames hnames' hplace
    · intro target target' names names' hnames hnames' hplace
      exact (SourceFile.same_iff.1 (same_of_tidy hroot hunlinked hnames hnames' hplace)).2

/-- A folder and a file in it are tidy targets, and the file is held once. -/
theorem heldOnce_as_spelled_nested :
    Discovery.sampleDisk.Unlinked ["w"] ∧ Discovery.sampleDisk.Named ∧
      Tidy (.ofText "/w") ((Path.ofText "/w").join (.ofText "build1")) ["build1"] ∧
      Tidy (.ofText "/w") ((Path.ofText "/w").join (.ofText "build1/x.py")) ["build1", "x.py"] ∧
      HeldOnce Discovery.sampleDisk ((unselected (.ofText "/w") {}).addAll Discovery.sampleDisk
        [[.ofText "build1"], [.ofText "build1/x.py"]]).files := by
  have hunlinked := unlinked_sampleDisk ["w"]
  have hnamed : Discovery.sampleDisk.Named := by decide
  have hfolder : Tidy (.ofText "/w") ((Path.ofText "/w").join (.ofText "build1")) ["build1"] :=
    ⟨⟨[.name "build1".toList], by decide⟩, by decide, by decide, by decide⟩
  have hfile : Tidy (.ofText "/w") ((Path.ofText "/w").join (.ofText "build1/x.py"))
      ["build1", "x.py"] :=
    ⟨⟨[.name "build1".toList, .name "x.py".toList], by decide⟩, by decide, by decide, by decide⟩
  refine ⟨hunlinked, hnamed, hfolder, hfile, ?_⟩
  obtain ⟨-, -, htidy⟩ := heldOnce_as_spelled Discovery.sampleDisk (.ofText "/w") {}
    [[.ofText "build1"], [.ofText "build1/x.py"]]
  refine (htidy ["w"] _ Discovery.find_sampleDisk.1 hunlinked hnamed).1 fun targets htargets => ?_
  simp only [List.mem_cons, List.not_mem_nil, or_false] at htargets
  rcases htargets with rfl | rfl
  · exact List.forall_mem_singleton.2 ⟨_, hfolder⟩
  · exact List.forall_mem_singleton.2 ⟨_, hfile⟩

/-- The file in the sample, with a dot in the middle of its path. -/
theorem find_sampleDisk_dot : Discovery.sampleDisk.find (.ofText "/w/build1/./x.py") =
    .ok (["w", "build1", "x.py"], .file "".toUTF8 Disk.filePermissions) := by
  have hhops : Disk.hops (.ofText "/w/build1/./x.py") =
      [.name "w", .name "build1", .stay, .name "x.py"] := by decide
  have hlast : Disk.Leads Discovery.sampleDisk Disk.linkLimit ["w", "build1"] [.name "x.py"]
      Disk.linkLimit ["w", "build1", "x.py"] :=
    .name rfl (by decide) rfl (fun _ h => by cases h) .done
  have hbelow : Disk.Leads Discovery.sampleDisk Disk.linkLimit ["w"]
      [.name "build1", .stay, .name "x.py"] Disk.linkLimit ["w", "build1", "x.py"] :=
    .name rfl (by decide) rfl (fun _ h => by cases h) (.stay rfl hlast)
  have hdown : Disk.Leads Discovery.sampleDisk Disk.linkLimit []
      [.name "w", .name "build1", .stay, .name "x.py"] Disk.linkLimit ["w", "build1", "x.py"] :=
    .name rfl (by decide) rfl (fun _ h => by cases h) hbelow
  exact Disk.find_of_leads (by decide) (hhops ▸ hdown) rfl

/-- **One file is held twice**, and a pattern that excludes it does so in one spelling only. -/
theorem exists_heldTwice :
    Discovery.sampleDisk.Unlinked [] ∧ Discovery.sampleDisk.Named ∧
      Discovery.sampleDisk.SamePlace ((Path.ofText "/w").join (.ofText "build1/x.py"))
        ((Path.ofText "/w").join (.ofText "build1/./x.py")) ∧
      ¬ HeldOnce Discovery.sampleDisk ((unselected (.ofText "/w") {}).addAll Discovery.sampleDisk
        [[.ofText "build1/x.py", .ofText "build1/./x.py"]]).files ∧
      ((unselected (.ofText "/w") { excludePatterns := ["build1/*.py"] }).addTargets
          Discovery.sampleDisk [.ofText "build1/x.py"]).selects
        (sourceFile (.ofText "/w") ((Path.ofText "/w").join (.ofText "build1/x.py"))) = false ∧
      ((unselected (.ofText "/w") { excludePatterns := ["build1/*.py"] }).addTargets
          Discovery.sampleDisk [.ofText "build1/./x.py"]).selects
        (sourceFile (.ofText "/w") ((Path.ofText "/w").join (.ofText "build1/./x.py"))) = true := by
  have hjoin : (Path.ofText "/w").join (.ofText "build1/x.py") = .ofText "/w/build1/x.py" := by
    decide
  have hjoin' : (Path.ofText "/w").join (.ofText "build1/./x.py") = .ofText "/w/build1/./x.py" := by
    decide
  have hfind := Discovery.find_sampleDisk.2.2
  have hfind' := find_sampleDisk_dot
  have hplace : Discovery.sampleDisk.SamePlace (.ofText "/w/build1/x.py")
      (.ofText "/w/build1/./x.py") := ⟨_, hfind, hfind'⟩
  have hfile : Discovery.sampleDisk.isFile ((Path.ofText "/w").join (.ofText "build1/x.py")) =
      true := by rw [hjoin, Disk.isFile, hfind]
  have hfile' : Discovery.sampleDisk.isFile ((Path.ofText "/w").join (.ofText "build1/./x.py")) =
      true := by rw [hjoin', Disk.isFile, hfind']
  refine ⟨unlinked_sampleDisk [], by decide, hjoin.symm ▸ hjoin'.symm ▸ hplace,
    fun honce => ?_, ?_, ?_⟩
  · have hmem := mem_ofTarget_of_isFile (m := Settings.matcher {}) hfile (by decide)
    have hmem' := mem_ofTarget_of_isFile (m := Settings.matcher {}) hfile' (by decide)
    have hsame := heldOnce_iff.1 honce
      (sourceFile (.ofText "/w") ((Path.ofText "/w").join (.ofText "build1/x.py")))
      (List.mem_append_left _ (List.mem_append_left _ hmem))
      (sourceFile (.ofText "/w") ((Path.ofText "/w").join (.ofText "build1/./x.py")))
      (List.mem_append_left _ (List.mem_append_right _ (List.mem_append_left _ hmem')))
      (hjoin.symm ▸ hjoin'.symm ▸ hplace)
    revert hsame
    decide
  · rw [Discovery.selects_file hfile]
    decide
  · rw [Discovery.selects_file hfile']
    decide

end Project
end EmojiLint
