import EmojiLint.Proofs.CommandLine.Grouping
import EmojiLint.Proofs.Path.Join
import EmojiLint.Proofs.Project.Spelling

/-!
# Findings are printed from the file that was checked

A finding says where it stands by its relative path.  To print it with its line and column, the
file is read again, by this path as seen from the root.  That is the file that was checked, unless
one of its names holds a backslash: then the relative path stands for another file or for none.

* `Disk.pathFault?_of_same` — what is wrong with a path.
* `Project.isAbsolute_of_mem_addAll` — the files of a project with an absolute root.
* `CommandLine.linesFrom` — findings as they are printed from a text.
* `CommandLine.Rereads` — findings are printed from the text that was checked.
* `CommandLine.rereads_of_mem_addAll` — when they are.
-/

set_option autoImplicit false

namespace EmojiLint

open Discovery (ofTarget sourceFile unselected)

/-! ## Paths that name the same -/

/-- An absolute path is as good as one that names the same, if it is not too long. -/
theorem Disk.pathFault?_of_same {p q : Path} (hsame : p.Same q) (hq : pathFault? q = none)
    (hp : p.isAbsolute = true) (hlength : p.text.utf8ByteSize ≤ pathLimit) :
    pathFault? p = none := by
  have hnul : q.text.toList.contains '\x00' = false := by
    rw [pathFault?] at hq
    split at hq
    · cases hq
    · next h => exact eq_false_of_ne_true h
  have hnone : p.text.toList.contains '\x00' = false := by
    rw [← Bool.not_eq_true, List.contains_iff_mem] at hnul ⊢
    rw [← Path.mentions_components_iff (by decide) (by decide)] at hnul ⊢
    rwa [hsame]
  rw [pathFault?, hnone, Path.isEmpty_text_of_isAbsolute hp, if_neg Bool.false_ne_true,
    if_neg Bool.false_ne_true, if_neg (Nat.not_lt.2 hlength)]

namespace Project

variable {disk : Disk} {root : Path} {settings : Settings} {calls : List (List Path)}
  {f : SourceFile}

/-- What is selected from an absolute root has an absolute path, and is seen from the root. -/
theorem isAbsolute_of_mem_addAll (hroot : root.isAbsolute = true)
    (hf : f ∈ ((unselected root settings).addAll disk calls).files) :
    f.path.isAbsolute = true ∧ f.relative = f.path.relativeTo root := by
  obtain ⟨targets, -, target, -, hfound⟩ :=
    exists_target_of_mem_foundOf ((mem_addAll hf).resolve_left List.not_mem_nil)
  obtain ⟨names, -, -, rfl⟩ := exists_descend_of_mem_ofTarget hfound
  exact ⟨Path.isAbsolute_descend_of_isAbsolute (Path.isAbsolute_join_of_isAbsolute hroot target),
    rfl⟩

/-- A single file that is named as a target is all that is selected. -/
theorem files_addTargets_of_isFile {target : Path} (hfile : disk.isFile (root.join target) = true)
    (hincluded : settings.matcher.excludes ((root.join target).relativeTo root) = false) :
    ((unselected root settings).addTargets disk [target]).files =
      [sourceFile root (root.join target)] := by
  have hfound : [target].flatMap (ofTarget disk root settings.matcher) =
      [sourceFile root (root.join target)] := by
    rw [List.flatMap_singleton, ofTarget, Disk.isFolder_eq_false_of_isFile hfile,
      if_neg Bool.false_ne_true, hfile, hincluded]
    rfl
  have hdiscover : Discovery.discover disk root settings.matcher [target] =
      [sourceFile root (root.join target)] := by
    rw [Discovery.discover, hfound, List.mergeSort_singleton]
    rfl
  rw [addTargets]
  dsimp only [unselected, matcher]
  rw [hdiscover]
  rfl

end Project

namespace CommandLine

variable {disk : Disk} {root : Path} {settings : Settings} {calls : List (List Path)}
  {f : SourceFile}

/-! ## Printing from a text -/

/-- Findings as they are printed from a text. -/
def linesFrom (terminal : Bool) (text : String) (group : Findings) : List String :=
  if terminal then group.flatMap (frameLines text.toList)
  else group.map (plainLine (LineIndex.ofText text.toList) text.toList)

/-- A group is printed from what the root and its relative path lead to. -/
theorem printGroup_eq {group : Findings} {file text : String} (hfile : fileOf group = some file)
    (htext : disk.readText (root.child file) = .ok text) (terminal : Bool) :
    printGroup terminal disk root group =
      String.join ((linesFrom terminal text group).map endLine) := by
  cases group with
  | nil => cases hfile
  | cons d group =>
    have hd : d.file = some file := hfile
    rw [printGroup]
    simp only [List.head?_cons, Option.bind_eq_bind, Option.bind_some, hd, htext,
      Except.toOption]
    rfl

/-- Findings are printed from the text of the file that was checked: from the root, its relative
path leads nowhere else, and it does lead there, unless it is too long or the file is the root
itself. -/
structure Rereads (disk : Disk) (root : Path) (f : SourceFile) : Prop where
  place : ∀ found found', disk.find f.path = .ok found →
    disk.find (root.child f.relative) = .ok found' → found' = found
  found : f.relative ≠ "" → (root.child f.relative).text.utf8ByteSize ≤ Disk.pathLimit →
    ∀ found, disk.find f.path = .ok found → disk.find (root.child f.relative) = .ok found
  printed : f.relative ≠ "" → (root.child f.relative).text.utf8ByteSize ≤ Disk.pathLimit →
    ∀ text, disk.readText f.path = .ok text →
      ∀ (terminal : Bool) (group : Findings), fileOf group = some f.relative →
        printGroup terminal disk root group =
          String.join ((linesFrom terminal text group).map endLine)

theorem rereads (hroot : root.isAbsolute = true) (hpath : f.path.isAbsolute = true)
    (hrelative : f.relative = f.path.relativeTo root) (htext : f.path.isText = true)
    (hback : '\\' ∉ f.path.seenAs root) (disk : Disk) : Rereads disk root f := by
  have hsame : (root.child f.relative).Same f.path := by
    rw [hrelative]
    exact (Path.same_child_relativeTo_iff hroot hpath htext).2 hback
  have hfound : f.relative ≠ "" → (root.child f.relative).text.utf8ByteSize ≤ Disk.pathLimit →
      ∀ found, disk.find f.path = .ok found → disk.find (root.child f.relative) = .ok found := by
    intro hne hlength found hfind
    rw [hrelative] at hne hlength hsame ⊢
    -- Outside the root the path is its own relative path; inside, it ends with a name.
    by_cases hinside : f.path.Inside root
    · refine Disk.find_of_same hsame (Path.endsInName_child_relativeTo hroot hinside hback hne)
        (Disk.pathFault?_of_same hsame (Disk.pathFault?_of_find hfind) ?_ hlength) hfind
      exact Path.isAbsolute_child_of_isAbsolute hroot _
    · rwa [Path.child_relativeTo_of_not_inside hpath htext hinside hback]
  refine ⟨fun found found' hfind hfind' => ?_, hfound, fun hne hlength text hread terminal group
    hgroup => printGroup_eq hgroup ?_ terminal⟩
  · obtain ⟨both, hboth, hboth'⟩ := Disk.samePlace_of_same hsame hfind' hfind
    exact Except.ok.inj ((hfind'.symm.trans hboth).trans (hboth'.symm.trans hfind))
  · obtain ⟨loc, permissions, hfind⟩ := Disk.exists_find_of_read (Disk.readText_eq_ok_iff.1 hread)
    have hfind' := hfound hne hlength _ hfind
    rw [Disk.readText_eq_ok_iff] at hread ⊢
    rwa [Disk.read, hfind', ← hfind, ← Disk.read]

/-- **Findings are printed from the file that was checked** exactly when no name that its relative
path shows holds a backslash: exactly then the root and the relative path name the path of the
file. -/
theorem rereads_of_mem_addAll (disk : Disk) (root : Path) (settings : Settings)
    (calls : List (List Path)) (hroot : root.isAbsolute = true) (f : SourceFile)
    (hf : f ∈ ((unselected root settings).addAll disk calls).files)
    (htext : f.path.isText = true) :
    ((root.child f.relative).Same f.path ↔ '\\' ∉ f.path.seenAs root) ∧
      ('\\' ∉ f.path.seenAs root → ∀ disk' : Disk, Rereads disk' root f) := by
  obtain ⟨hpath, hrelative⟩ := Project.isAbsolute_of_mem_addAll hroot hf
  refine ⟨?_, fun hback disk' => rereads hroot hpath hrelative htext hback disk'⟩
  rw [hrelative]
  exact Path.same_child_relativeTo_iff hroot hpath htext

/-! ## A name with a backslash -/

/-- Two files whose paths differ in a slash. -/
def slashedDisk : Disk where
  entries := [(["w"], .folder Disk.folderPermissions),
    (["w", "a\\b.txt"], .file "\n\n😀".toUTF8 Disk.filePermissions),
    (["w", "a"], .folder Disk.folderPermissions),
    (["w", "a", "b.txt"], .file "xxx😀".toUTF8 Disk.filePermissions)]

theorem find_slashedDisk :
    slashedDisk.find (.ofText "/w/a\\b.txt") =
        .ok (["w", "a\\b.txt"], .file "\n\n😀".toUTF8 Disk.filePermissions) ∧
      slashedDisk.find (.ofText "/w/a/b.txt") =
        .ok (["w", "a", "b.txt"], .file "xxx😀".toUTF8 Disk.filePermissions) := by
  have hhops : Disk.hops (.ofText "/w/a\\b.txt") = [.name "w", .name "a\\b.txt"] := by decide
  have hhops' : Disk.hops (.ofText "/w/a/b.txt") = [.name "w", .name "a", .name "b.txt"] := by
    decide
  have hback : Disk.Leads slashedDisk Disk.linkLimit [] [.name "w", .name "a\\b.txt"]
      Disk.linkLimit ["w", "a\\b.txt"] :=
    .name rfl (by decide) rfl (fun _ h => nomatch h)
      (.name rfl (by decide) rfl (fun _ h => nomatch h) .done)
  have hbelow : Disk.Leads slashedDisk Disk.linkLimit [] [.name "w", .name "a", .name "b.txt"]
      Disk.linkLimit ["w", "a", "b.txt"] :=
    .name rfl (by decide) rfl (fun _ h => nomatch h)
      (.name rfl (by decide) rfl (fun _ h => nomatch h)
        (.name rfl (by decide) rfl (fun _ h => nomatch h) .done))
  exact ⟨Disk.find_of_leads (by decide) (hhops ▸ hback) rfl,
    Disk.find_of_leads (by decide) (hhops' ▸ hbelow) rfl⟩

/-- Each of the two files is selected by its name. -/
theorem mem_files_slashedDisk :
    sourceFile (.ofText "/w") (.ofText "/w/a\\b.txt") ∈
        ((unselected (.ofText "/w") {}).addAll slashedDisk [[.ofText "a\\b.txt"]]).files ∧
      sourceFile (.ofText "/w") (.ofText "/w/a/b.txt") ∈
        ((unselected (.ofText "/w") {}).addAll slashedDisk [[.ofText "a/b.txt"]]).files := by
  obtain ⟨hback, hbelow⟩ := find_slashedDisk
  have hselected : ∀ target path : Path, (Path.ofText "/w").join target = path →
      slashedDisk.isFile path = true →
      (Settings.matcher {}).excludes (path.relativeTo (.ofText "/w")) = false →
      sourceFile (.ofText "/w") path ∈
        ((unselected (.ofText "/w") {}).addAll slashedDisk [[target]]).files := by
    rintro target path rfl hfile hincluded
    have hfiles := Project.files_addTargets_of_isFile hfile hincluded
    exact hfiles ▸ List.mem_singleton_self _
  exact ⟨hselected _ _ (by decide) (by rw [Disk.isFile, hback]) (by decide),
    hselected _ _ (by decide) (by rw [Disk.isFile, hbelow]) (by decide)⟩

theorem readText_slashedDisk :
    slashedDisk.readText (.ofText "/w/a\\b.txt") = .ok "\n\n😀" ∧
      slashedDisk.readText (.ofText "/w/a/b.txt") = .ok "xxx😀" := by
  obtain ⟨hback, hbelow⟩ := find_slashedDisk
  exact ⟨Disk.readText_eq_ok_iff.2 (Disk.read_of_find hback rfl),
    Disk.readText_eq_ok_iff.2 (Disk.read_of_find hbelow rfl)⟩

/-- The file without a backslash in its name is printed from its own text. -/
theorem rereads_slashedDisk :
    printGroup false slashedDisk (.ofText "/w")
        (Project.findingsOf (unselected (.ofText "/w") {}) slashedDisk none
          (sourceFile (.ofText "/w") (.ofText "/w/a/b.txt"))) =
      "a/b.txt(1,4): error EE1001: Emoji detected\n" := by
  obtain ⟨-, hrereads⟩ := rereads_of_mem_addAll slashedDisk (.ofText "/w") {} [[.ofText "a/b.txt"]]
    (by decide) _ mem_files_slashedDisk.2 rfl
  have htext := readText_slashedDisk.2
  have hprinted := (hrereads (by decide) slashedDisk).printed (by decide) (by decide) _ htext false
  rw [Project.findingsOf_of_ok htext, hprinted _ (by decide +kernel)]
  decide +kernel

/-- **The finding of a file is printed with a position in another file**: the emoji stands in the
third line, and it is said to stand in the first one. -/
theorem exists_misread :
    ∃ f ∈ ((unselected (.ofText "/w") {}).addAll slashedDisk [[.ofText "a\\b.txt"]]).files,
      f.path.isText = true ∧ ¬ ((Path.ofText "/w").child f.relative).Same f.path ∧
      slashedDisk.readText f.path = .ok "\n\n😀" ∧
      String.join ((linesFrom false "\n\n😀"
        (Project.findingsOf (unselected (.ofText "/w") {}) slashedDisk none f)).map endLine) =
          "a/b.txt(3,1): error EE1001: Emoji detected\n" ∧
      printGroup false slashedDisk (.ofText "/w")
        (Project.findingsOf (unselected (.ofText "/w") {}) slashedDisk none f) =
          "a/b.txt(1,3): error EE1001: Emoji detected\n" := by
  obtain ⟨hback, hbelow⟩ := readText_slashedDisk
  have hchild : slashedDisk.readText ((Path.ofText "/w").child "a/b.txt") = .ok "xxx😀" := by
    have hjoin : (Path.ofText "/w").child "a/b.txt" = .ofText "/w/a/b.txt" := by decide
    rw [hjoin, hbelow]
  refine ⟨_, mem_files_slashedDisk.1, rfl, by decide, hback, ?_, ?_⟩
  · rw [Project.findingsOf_of_ok hback]
    decide +kernel
  · rw [Project.findingsOf_of_ok hback, printGroup_eq (by decide +kernel) hchild]
    decide +kernel

end CommandLine
end EmojiLint
