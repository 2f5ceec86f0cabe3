import EmojiLint.Proofs.Project.Report

/-!
# Files are cleaned apart from each other

The files of a project are cleaned in any order, and the system may refuse anything for any of them.
What comes of a file is what would come of it alone, as long as no two paths lead to the same file:
a file that was rewritten holds another content, and nothing else on the disk changes.

* `Project.Apart` — the files of a project are pairwise different.
* `Project.cleanInOrder` — files are cleaned in some order.
* `Project.cleaned_cleanEach` — what the files hold then.
* `Project.clean_apart` — what the files hold then and what is reported, in every order.
-/

set_option autoImplicit false

namespace EmojiLint

namespace Project

/-- What the system refuses while a file is being cleaned. -/
abbrev Refusals := SourceFile → Access → Location → Option OsError

variable {refusals : Refusals} {disk disk' : Disk} {files : List SourceFile} {f : SourceFile}

/-- Files are different from each other: no link stands at the end of the path of a file, and no two
paths lead to the same file.  Files may have gone meanwhile. -/
structure Apart (disk : Disk) (files : List SourceFile) : Prop where
  plain : ∀ f ∈ files, ∀ loc node, disk.find f.path = .ok (loc, node) → disk.IsPlain f.path loc
  apart : files.Pairwise fun f g => ∀ loc node, disk.find f.path = .ok (loc, node) →
    disk.find g.path ≠ .ok (loc, node)

theorem Apart.perm {order : List SourceFile} (h : Apart disk files) (horder : order.Perm files) :
    Apart disk order where
  plain f hf := h.plain f (horder.mem_iff.1 hf)
  apart := by
    refine (horder.pairwise_iff fun {f g} hfg loc node hg hf => ?_).2 h.apart
    exact hfg loc node hf hg

/-- The disk as it is while a file is cleaned before all others. -/
def atFirst (refusals : Refusals) (disk : Disk) (f : SourceFile) : Disk :=
  disk.refusing (refusals f)

/-- What comes of a file that is cleaned before all others. -/
def alone (refusals : Refusals) (disk : Disk) (f : SourceFile) : Except FileError Bool :=
  ((atFirst refusals disk f).clean f.path).1

/-- Clean files in some order, while the system refuses for each of them what it refuses. -/
def cleanEach (refusals : Refusals) (disk : Disk) :
    List SourceFile → List (SourceFile × Except FileError Bool) × Disk
  | [] => ([], disk)
  | f :: rest =>
    let (outcome, after) := (atFirst refusals disk f).clean f.path
    let (outcomes, last) := cleanEach refusals after rest
    ((f, outcome) :: outcomes, last)

/-- Clean the files of a project in some order.  The report has the outcomes in the order of the
project. -/
def cleanInOrder (project : Project) (refusals : Refusals) (disk : Disk)
    (order : List SourceFile) : CleanReport × Disk :=
  let (outcomes, last) := cleanEach refusals disk order
  ((project.files.filterMap fun f => outcomes.lookup f).foldl CleanReport.add
    { attempted := project.files.length }, last)

/-- What is left of the disk `disk'` when some files were cleaned, which held the same as on
`disk`. -/
structure Cleaned (refusals : Refusals) (disk : Disk) (files : List SourceFile)
    (disk' last : Disk) : Prop where
  /-- Nothing new is left behind, and nothing is gone. -/
  alike : Disk.Alike disk' last
  /-- A file that was rewritten holds its text without emoji. -/
  rewritten : ∀ f ∈ files, ∀ text, (atFirst refusals disk f).Cleans f.path text →
    ∃ loc permissions, disk.find f.path = .ok (loc, .file text.toUTF8 permissions) ∧
      last.node? loc = some (.file (Emoji.remove text).toUTF8 permissions)
  /-- Everything else is what it was. -/
  kept : ∀ loc, (∀ f ∈ files, ∀ node text, disk.find f.path = .ok (loc, node) →
    ¬ (atFirst refusals disk f).Cleans f.path text) → last.node? loc = disk'.node? loc

/-- The first file of some is cleaned on a disk that has changed only in other files. -/
theorem clean_first (refusals : Refusals) (hplain : ∀ loc node, disk.find f.path = .ok (loc, node) →
      disk.IsPlain f.path loc) (halike : Disk.Alike disk disk')
    (hsame : ∀ loc node, disk.find f.path = .ok (loc, node) → disk'.node? loc = some node) :
    ((atFirst refusals disk' f).clean f.path).1 = alone refusals disk f ∧
      Cleaned refusals disk [f] disk' ((atFirst refusals disk' f).clean f.path).2 := by
  have hfind : (atFirst refusals disk f).find f.path = disk.find f.path :=
    Disk.find_refusing disk (refusals f) f.path
  have hrefusing : Disk.Alike (atFirst refusals disk f) (atFirst refusals disk' f) :=
    halike.refusing (refusals f)
  obtain ⟨hfst, hsnd⟩ := hrefusing.clean rfl
    (fun loc node h => hsame loc node (hfind ▸ h))
    (fun loc node h => (hplain loc node (hfind ▸ h)).refusing (refusals f))
  refine ⟨hfst, ?_⟩
  rcases hsnd with ⟨hnone, hsnd⟩ | ⟨loc, text, permissions, hcleans, hleads, hsnd⟩
  · rw [hsnd]
    refine ⟨Disk.alike_refusing disk' (refusals f), fun g hg text hcleans => ?_, fun loc _ => rfl⟩
    obtain rfl := List.mem_singleton.1 hg
    exact absurd hcleans (hnone text)
  · rw [hsnd]
    rw [hfind] at hleads
    have hnode : (atFirst refusals disk' f).node? loc = some (.file text.toUTF8 permissions) :=
      hsame loc _ hleads
    have hne := Disk.ne_nil_of_file hnode
    refine ⟨(Disk.alike_refusing disk' (refusals f)).trans (Disk.alike_set hnode),
      fun g hg other hother => ?_, fun other hother => ?_⟩
    · obtain rfl := List.mem_singleton.1 hg
      obtain rfl := Except.ok.inj (hcleans.1.symm.trans hother.1)
      exact ⟨loc, permissions, hleads, by rw [Disk.node?_set hne, if_pos rfl]⟩
    · rw [Disk.node?_set hne]
      refine if_neg ?_
      rintro rfl
      exact hother f List.mem_cons_self _ text hleads hcleans

/-- The paths of the other files do not lead to the first one. -/
theorem Apart.find_ne {rest : List SourceFile} {g : SourceFile} {loc : Location} {node : Node}
    (h : Apart disk (f :: rest)) (hg : g ∈ rest) (hfind : disk.find g.path = .ok (loc, node))
    (node' : Node) : disk.find f.path ≠ .ok (loc, node') := by
  intro hfind'
  have hnode := (Disk.node?_of_find hfind').symm.trans (Disk.node?_of_find hfind)
  rw [Option.some_inj.1 hnode] at hfind'
  exact (List.pairwise_cons.1 h.apart).1 g hg loc node hfind' hfind

/-- A file is cleaned, and then some that are different from it. -/
theorem Cleaned.cons {rest : List SourceFile} {after last : Disk}
    (hfiles : Apart disk (f :: rest)) (hfirst : Cleaned refusals disk [f] disk' after)
    (hrest : Cleaned refusals disk rest after last) :
    Cleaned refusals disk (f :: rest) disk' last where
  alike := hfirst.alike.trans hrest.alike
  rewritten := by
    intro g hg text hcleans
    rcases List.mem_cons.1 hg with rfl | hg
    · obtain ⟨loc, permissions, hfind, hnode⟩ :=
        hfirst.rewritten g List.mem_cons_self text hcleans
      refine ⟨loc, permissions, hfind, ?_⟩
      rw [hrest.kept loc fun other hother node text' hfind' _ =>
        hfiles.find_ne hother hfind' _ hfind]
      exact hnode
    · exact hrest.rewritten g hg text hcleans
  kept := by
    intro loc hloc
    rw [hrest.kept loc fun g hg => hloc g (List.mem_cons_of_mem _ hg)]
    refine hfirst.kept loc fun g hg => hloc g ?_
    rw [List.mem_singleton.1 hg]
    exact List.mem_cons_self

/-- Files are cleaned on a disk that has changed only in other files: the outcome of each is its
own, and the files that were rewritten are all that changes. -/
theorem cleaned_cleanEach (refusals : Refusals) (hfiles : Apart disk files)
    (halike : Disk.Alike disk disk')
    (hsame : ∀ f ∈ files, ∀ loc node, disk.find f.path = .ok (loc, node) →
      disk'.node? loc = some node) :
    (cleanEach refusals disk' files).1 = files.map (fun f => (f, alone refusals disk f)) ∧
      Cleaned refusals disk files disk' (cleanEach refusals disk' files).2 := by
  induction files generalizing disk' with
  | nil => exact ⟨rfl, Disk.Alike.refl disk', (fun _ h => nomatch h), fun _ _ => rfl⟩
  | cons f rest ih =>
    obtain ⟨hfst, hfirst⟩ := clean_first refusals
      (hfiles.plain f List.mem_cons_self) halike (hsame f List.mem_cons_self)
    rw [cleanEach]
    generalize (atFirst refusals disk' f).clean f.path = cleaned at hfst hfirst ⊢
    obtain ⟨outcome, after⟩ := cleaned
    dsimp only at hfst hfirst ⊢
    have hapart : Apart disk rest :=
      ⟨fun g hg => hfiles.plain g (List.mem_cons_of_mem _ hg), hfiles.apart.of_cons⟩
    -- the files that are left hold what they held before the first one was cleaned
    have hsame' : ∀ g ∈ rest, ∀ loc node, disk.find g.path = .ok (loc, node) →
        after.node? loc = some node := by
      intro g hg loc node hfind
      rw [hfirst.kept loc fun h hh node' _ hfind' _ => by
        rw [List.mem_singleton.1 hh] at hfind'
        exact hfiles.find_ne hg hfind node' hfind']
      exact hsame g (List.mem_cons_of_mem _ hg) loc node hfind
    obtain ⟨houtcomes, hrest⟩ := ih hapart (halike.trans hfirst.alike) hsame'
    exact ⟨by rw [houtcomes, hfst, List.map_cons], hfirst.cons hfiles hrest⟩

/-- What is reported of files is what comes of each of them. -/
structure Reports (refusals : Refusals) (disk : Disk) (files : List SourceFile)
    (report : CleanReport) : Prop where
  attempted : report.attempted = files.length
  changed : report.changed =
    files.countP fun f => decide (∃ text, (atFirst refusals disk f).Cleans f.path text)
  skipped : report.skipped =
    files.countP fun f => decide ((atFirst refusals disk f).HoldsNoText f.path)
  failures : ∃ failure? : SourceFile → Option FileError,
    (∀ f e, failure? f = some e ↔ (atFirst refusals disk f).Fails f.path e) ∧
      report.failures = files.filterMap failure?

/-- The outcomes in the order of the project do not depend on the order of the files. -/
theorem outcomes_eq {outcome : SourceFile → Except FileError Bool} {order : List SourceFile}
    (horder : order.Perm files) :
    (files.filterMap fun f => (order.map fun f => (f, outcome f)).lookup f) =
      files.map outcome := by
  rw [← List.filterMap_eq_map (f := outcome)]
  exact List.filterMap_congr fun f hf => List.lookup_graph outcome (horder.mem_iff.2 hf)

theorem reports_foldl (refusals : Refusals) (disk : Disk) (files : List SourceFile) :
    Reports refusals disk files ((files.map (alone refusals disk)).foldl CleanReport.add
      { attempted := files.length }) := by
  rw [CleanReport.foldl_add]
  refine ⟨rfl, ?_, ?_, fun f => CleanReport.failure? (alone refusals disk f),
    fun f e => CleanReport.failure?_clean_eq_some_iff, ?_⟩
  · dsimp only
    rw [Nat.zero_add, List.countP_map]
    exact List.countP_congr fun f _ => CleanReport.isChange_clean_iff.trans decide_eq_true_iff.symm
  · dsimp only
    rw [Nat.zero_add, List.countP_map]
    exact List.countP_congr fun f _ => CleanReport.isSkip_clean_iff.trans decide_eq_true_iff.symm
  · rw [List.nil_append, List.filterMap_map]
    rfl

/-- When the system refuses the same all along, the files are cleaned one after the other. -/
theorem cleanFiles_eq (report : CleanReport) (disk : Disk) (files : List SourceFile) :
    cleanFiles report disk files =
      (((cleanEach (fun _ => disk.refusal) disk files).1.map Prod.snd).foldl CleanReport.add report,
        (cleanEach (fun _ => disk.refusal) disk files).2) := by
  induction files generalizing report disk with
  | nil => rfl
  | cons f rest ih =>
    have hrefusal := Disk.refusal_clean disk f.path
    have hsame : atFirst (fun _ => disk.refusal) disk f = disk := rfl
    rw [cleanFiles, cleanEach, hsame]
    generalize disk.clean f.path = cleaned at hrefusal ⊢
    obtain ⟨outcome, after⟩ := cleaned
    dsimp only at hrefusal ⊢
    rw [ih, hrefusal, List.map_cons, List.foldl_cons]

/-- **Every file of a project comes out as if it were cleaned alone**, in whatever order the files
are cleaned and whatever the system refuses for which of them: the files that are texts with an
emoji and can be replaced lose their emoji, nothing else on the disk changes, and the report counts
every file once. -/
theorem clean_apart (project : Project) (disk : Disk) (hapart : Apart disk project.files) :
    (∀ (refusals : Refusals) (order : List SourceFile), order.Perm project.files →
      Cleaned refusals disk project.files disk (project.cleanInOrder refusals disk order).2 ∧
      Reports refusals disk project.files (project.cleanInOrder refusals disk order).1) ∧
    project.clean disk = project.cleanInOrder (fun _ => disk.refusal) disk project.files := by
  have hinitial : ∀ f ∈ project.files, ∀ loc node, disk.find f.path = .ok (loc, node) →
      disk.node? loc = some node := fun _ _ _ _ hfind => Disk.node?_of_find hfind
  refine ⟨fun refusals order horder => ?_, ?_⟩
  · obtain ⟨houtcomes, hcleaned⟩ := cleaned_cleanEach refusals
      (hapart.perm horder) (Disk.Alike.refl disk) fun f hf => hinitial f (horder.mem_iff.1 hf)
    rw [cleanInOrder]
    dsimp only
    rw [houtcomes, outcomes_eq horder]
    refine ⟨⟨hcleaned.alike, fun f hf => hcleaned.rewritten f (horder.mem_iff.2 hf),
      fun loc hloc => hcleaned.kept loc fun f hf => hloc f (horder.mem_iff.1 hf)⟩,
      reports_foldl refusals disk project.files⟩
  · obtain ⟨houtcomes, -⟩ := cleaned_cleanEach (fun _ => disk.refusal) hapart
      (Disk.Alike.refl disk) hinitial
    rw [clean, cleanFiles_eq, cleanInOrder]
    dsimp only
    rw [houtcomes, outcomes_eq (List.Perm.refl _), List.map_map]
    rfl

/-- A file in the root of the disk. -/
def atRoot (name : String) : SourceFile :=
  ⟨.ofText ("/" ++ name), name⟩

theorem find_atRoot {name : String} (hname : name ∈ ["a", "b", "c"])
    (hlink : ∀ target, disk.node? [name] ≠ some (.link target)) :
    disk.find (atRoot name).path =
      match disk.node? [name] with
      | some node => .ok ([name], node)
      | none => .error .notFound := by
  have hhops : ∀ name ∈ ["a", "b", "c"], Disk.hops (atRoot name).path = [.name name] := by decide
  have hfault : ∀ name ∈ ["a", "b", "c"], Disk.pathFault? (atRoot name).path = none := by decide
  have hlength : ∀ name ∈ ["a", "b", "c"], ¬ Disk.nameLimit < name.utf8ByteSize := by decide
  rw [Disk.find, Disk.spot, hfault name hname, hhops name hname, Disk.follow, Disk.node?_nil]
  simp only [reduceCtorEq, and_false, Bool.false_eq_true, if_false, hlength name hname,
    List.nil_append, List.isEmpty_nil, if_true]
  cases hnode : disk.node? [name] with
  | none => rfl
  | some node =>
    cases node with
    | link target => exact absurd hnode (hlink target)
    | file | folder => simp only [Disk.follow, hnode]

theorem slot_atRoot {name : String} (hname : name ∈ ["a", "b", "c"]) :
    disk.slot (atRoot name).path = .ok ([], name) := by
  have hroot : disk.find (.ofText "/") = .ok ([], .folder Disk.folderPermissions) := by
    have hhops : Disk.hops (.ofText "/") = [.slash] := by decide
    have hfault : Disk.pathFault? (.ofText "/") = none := by decide
    rw [Disk.find, Disk.spot, hfault, hhops, Disk.follow, Disk.node?_nil]
    simp only [Disk.follow, Disk.node?_nil]
  have hholder : ∀ name ∈ ["a", "b", "c"], Disk.holder (atRoot name).path = .ofText "/" := by
    decide
  have hlast : ∀ name ∈ ["a", "b", "c"], (atRoot name).path.name? = some name ∧
      Disk.pathFault? (atRoot name).path = none ∧ (atRoot name).path.endsInName = true ∧
      ¬ Disk.nameLimit < name.utf8ByteSize := by decide
  obtain ⟨hself, hfault, hends, hlength⟩ := hlast name hname
  unfold Disk.slot
  rw [hholder name hname]
  simp only [hroot, hfault, hself, hends, Bool.not_true, Bool.false_eq_true, if_false, hlength]

/-- Two files with an emoji. -/
def twoFiles : Disk where
  entries := [(["a"], .file "1😀".toUTF8 Disk.filePermissions),
    (["b"], .file "2😀".toUTF8 Disk.filePermissions)]

/-- Files, one of which has gone meanwhile. -/
def threeFiles : Project where
  root := .ofText "/"
  settings := {}
  files := [atRoot "a", atRoot "b", atRoot "c"]

/-- The new content of the second file is refused. -/
def secondRefused : Refusals :=
  fun f access _ => if f = atRoot "b" ∧ access = .writeFile then some .noSpace else none

theorem find_threeFiles :
    twoFiles.find (atRoot "a").path = .ok (["a"], .file "1😀".toUTF8 Disk.filePermissions) ∧
      twoFiles.find (atRoot "b").path = .ok (["b"], .file "2😀".toUTF8 Disk.filePermissions) ∧
      twoFiles.find (atRoot "c").path = .error .notFound := by
  refine ⟨?_, ?_, ?_⟩
  · exact find_atRoot (by decide) fun target h => nomatch h
  · exact find_atRoot (by decide) fun target h => nomatch h
  · exact find_atRoot (by decide) fun target h => nomatch h

theorem apart_threeFiles : Apart twoFiles threeFiles.files := by
  obtain ⟨ha, hb, hc⟩ := find_threeFiles
  have hslot : ∀ name ∈ ["a", "b", "c"], ∀ folder s,
      twoFiles.slot (atRoot name).path = .ok (folder, s) → folder ++ [s] = [name] := by
    intro name hname folder s h
    rw [slot_atRoot hname, Except.ok.injEq, Prod.mk.injEq] at h
    rw [← h.1, ← h.2, List.nil_append]
  constructor
  · intro f hf loc node hfind
    rcases List.mem_cons.1 hf with rfl | hf
    · rw [ha, Except.ok.injEq, Prod.mk.injEq] at hfind
      exact hfind.1 ▸ ⟨⟨_, _, ha⟩, hslot "a" (by decide)⟩
    · rcases List.mem_cons.1 hf with rfl | hf
      · rw [hb, Except.ok.injEq, Prod.mk.injEq] at hfind
        exact hfind.1 ▸ ⟨⟨_, _, hb⟩, hslot "b" (by decide)⟩
      · rw [List.mem_singleton.1 hf, hc] at hfind
        cases hfind
  · simp [threeFiles, ha, hb, hc]

theorem fault?_threeFiles :
    (atFirst secondRefused twoFiles (atRoot "a")).fault? (atRoot "a").path = none ∧
      (atFirst secondRefused twoFiles (atRoot "b")).fault? (atRoot "b").path = some .noSpace := by
  have hfirst : ∀ access loc,
      (atFirst secondRefused twoFiles (atRoot "a")).refusal access loc = none :=
    fun access loc => by cases access <;> rfl
  have hcreate : ∀ loc,
      (atFirst secondRefused twoFiles (atRoot "b")).refusal .createFile loc = none :=
    fun loc => rfl
  have hwrite : ∀ loc,
      (atFirst secondRefused twoFiles (atRoot "b")).refusal .writeFile loc = some .noSpace :=
    fun loc => rfl
  have hnode : (atFirst secondRefused twoFiles (atRoot "a")).node? ["a"] =
      some (.file "1😀".toUTF8 Disk.filePermissions) := rfl
  constructor
  · delta Disk.fault?
    rw [slot_atRoot (by decide)]
    simp [Disk.obstacle?, hfirst, hnode]
  · delta Disk.fault?
    rw [slot_atRoot (by decide)]
    simp [Disk.obstacle?, hcreate, hwrite]

/-- The first file loses its emoji, and the second one keeps it, last one first. -/
theorem clean_apart_threeFiles :
    (threeFiles.cleanInOrder secondRefused twoFiles [atRoot "c", atRoot "b", atRoot "a"]).2.node?
        ["a"] = some (.file "1".toUTF8 Disk.filePermissions) ∧
      (threeFiles.cleanInOrder secondRefused twoFiles [atRoot "c", atRoot "b", atRoot "a"]).2.node?
        ["b"] = some (.file "2😀".toUTF8 Disk.filePermissions) ∧
      (threeFiles.cleanInOrder secondRefused twoFiles
        [atRoot "c", atRoot "b", atRoot "a"]).1.attempted = 3 := by
  have horder : [atRoot "c", atRoot "b", atRoot "a"].Perm threeFiles.files := by decide
  obtain ⟨hcleaned, hreports⟩ :=
    (clean_apart threeFiles twoFiles apart_threeFiles).1 secondRefused _ horder
  obtain ⟨ha, hb, hc⟩ := find_threeFiles
  have hfind (f : SourceFile) : (atFirst secondRefused twoFiles f).find f.path =
      twoFiles.find f.path := Disk.find_refusing twoFiles (secondRefused f) f.path
  have hplain {f : SourceFile} (hf : f ∈ threeFiles.files) {loc : Location} {node : Node}
      (h : twoFiles.find f.path = .ok (loc, node)) :
      (atFirst secondRefused twoFiles f).IsPlain f.path loc :=
    (apart_threeFiles.plain f hf loc node h).refusing (secondRefused f)
  have hreplace := Disk.replace_eq ((hfind _).trans ha) (hplain (by decide) ha)
    (Emoji.remove "1😀").toUTF8
  have hreplace' := Disk.replace_eq ((hfind _).trans hb) (hplain (by decide) hb)
  rw [fault?_threeFiles.1] at hreplace
  rw [fault?_threeFiles.2] at hreplace'
  refine ⟨?_, ?_, hreports.attempted⟩
  · have hcleans : (atFirst secondRefused twoFiles (atRoot "a")).Cleans (atRoot "a").path "1😀" := by
      refine ⟨Disk.readText_eq_ok_iff.2 (Disk.read_of_find ((hfind _).trans ha) rfl), ?_, ?_⟩
      · decide +kernel
      · rw [Disk.replaceText_fst, hreplace]
        rfl
    obtain ⟨loc, permissions, hleads, hnode⟩ :=
      hcleaned.rewritten (atRoot "a") (by decide) "1😀" hcleans
    rw [ha, Except.ok.injEq, Prod.mk.injEq, Node.file.injEq] at hleads
    have hremove : Emoji.remove "1😀" = "1" := by decide +kernel
    rw [hleads.1, hnode, ← hleads.2.2, hremove]
  · refine hcleaned.kept ["b"] fun f hf node text hleads hcleans => ?_
    rcases List.mem_cons.1 hf with rfl | hf
    · rw [ha, Except.ok.injEq, Prod.mk.injEq] at hleads
      exact absurd hleads.1 (by decide)
    · rcases List.mem_cons.1 hf with rfl | hf
      · have hfails := hcleans.2.2
        rw [Disk.replaceText_fst, hreplace'] at hfails
        cases hfails
      · rw [List.mem_singleton.1 hf, hc] at hleads
        cases hleads

end Project
end EmojiLint
