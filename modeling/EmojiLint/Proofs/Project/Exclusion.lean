import EmojiLint.Proofs.Exclude.Cover
import EmojiLint.Proofs.Project.Walk
import EmojiLint.Settings.Exclude
import EmojiLint.Workspace
import Mathlib.Data.List.TakeWhile
import Mathlib.Logic.Basic
import Mathlib.Tactic.ByContra

/-!
# Walking and asking about exclusion

A file that is named as a target, or that is open in an editor, is excluded when its own path is.
A walk leaves out more: it does not enter a folder that is excluded, whether or not the paths below
are excluded as well.  They are when a glob that reaches below matches the folder.

* `trimmed`, `excludesFolder_eq` — how folders are excluded.
* `open_iff` — which folders the walk enters.
* `selects_walk_eq_false_iff` — which files a walk leaves out.
* `excludes_of_coversFolder` — what is below a covered folder is excluded itself.
* `exclusion_agrees` — when the walk agrees with everybody else.
-/

set_option autoImplicit false

namespace EmojiLint
namespace Discovery

open Exclude (Matcher)
open EmojiLint.Path (IsName)

variable {disk : Disk} {root target p : Path} {m : Matcher} {relative name : String}
  {folders names : List String} {settings : Settings}

/-! ## Excluding a folder -/

/-- The path of a folder without slashes at its end. -/
def trimmed (relative : String) : String :=
  String.ofList (relative.toList.reverse.dropWhile (· == '/')).reverse

theorem excludesFolder_eq (m : Matcher) (relative : String) : excludesFolder m relative =
    if (trimmed relative).isEmpty || trimmed relative == "." then false
    else m.excludes (trimmed relative) || m.excludes (trimmed relative ++ "/") :=
  rfl

/-- What is below a path is below it without the slashes at its end. -/
theorem exists_below_trimmed (relative below : String) :
    ∃ below', relative ++ "/" ++ below = trimmed relative ++ "/" ++ below' := by
  have hsplit : relative.toList = (trimmed relative).toList ++
      (relative.toList.reverse.takeWhile (· == '/')).reverse := by
    rw [trimmed, String.toList_ofList, ← List.reverse_append, List.takeWhile_append_dropWhile,
      List.reverse_reverse]
  cases hback : (relative.toList.reverse.takeWhile (· == '/')).reverse with
  | nil =>
    rw [hback, List.append_nil] at hsplit
    exact ⟨below, by rw [String.toList_inj.1 hsplit.symm]⟩
  | cons c back =>
    have hmem : c ∈ relative.toList.reverse.takeWhile (· == '/') :=
      List.mem_reverse.1 (hback ▸ List.mem_cons_self)
    have hall : (relative.toList.reverse.takeWhile (· == '/')).all (· == '/') = true :=
      List.all_takeWhile
    obtain rfl : c = '/' := beq_iff_eq.1 (List.all_eq_true.1 hall c hmem)
    refine ⟨String.ofList back ++ "/" ++ below, ?_⟩
    rw [hback] at hsplit
    rw [← String.toList_inj]
    simp only [String.toList_append, hsplit, String.toList_ofList, List.append_assoc]
    rfl

/-- A folder that is excluded is not the root. -/
theorem exists_ne_slash_of_excludesFolder (h : excludesFolder m relative = true) :
    ∃ c ∈ relative.toList, c ≠ '/' := by
  by_contra hnone
  have hall : ∀ c ∈ relative.toList.reverse, (c == '/') = true := by
    intro c hc
    by_contra hne
    exact hnone ⟨c, List.mem_reverse.1 hc, fun heq => hne (beq_iff_eq.2 heq)⟩
  have hempty : trimmed relative = "" := by
    rw [trimmed, List.dropWhile_eq_nil_iff.2 hall]
    rfl
  rw [excludesFolder_eq, hempty] at h
  cases h

/-- **The walk enters no folder that is excluded, and no other one is left out but those that are
skipped.** -/
theorem open_iff : excludesFolder m (p.relativeTo root) = false ∧ Open root m p folders ↔
    (∀ folder ∈ folders, folder ∉ skippedNames) ∧
      ∀ front, front <+: folders →
        excludesFolder m ((p.descend front).relativeTo root) = false := by
  induction folders generalizing p with
  | nil =>
    simp only [List.prefix_nil, forall_eq, List.not_mem_nil, false_imp_iff, implies_true, true_and]
    exact and_iff_left trivial
  | cons folder folders ih =>
    rw [Open, ih]
    constructor
    · rintro ⟨hp, hskipped, hrest, hfronts⟩
      refine ⟨fun other hother => ?_, fun front hfront => ?_⟩
      · rcases List.mem_cons.1 hother with rfl | hmem
        · exact hskipped
        · exact hrest other hmem
      · rcases List.prefix_cons_iff.1 hfront with rfl | ⟨below, rfl, hbelow⟩
        · exact hp
        · exact hfronts below hbelow
    · rintro ⟨hskipped, hfronts⟩
      refine ⟨hfronts [] List.nil_prefix, hskipped folder List.mem_cons_self, ?_, ?_⟩
      · exact fun other hother => hskipped other (List.mem_cons_of_mem _ hother)
      · exact fun front hfront => hfronts (folder :: front) (List.cons_prefix_cons.2 ⟨rfl, hfront⟩)

/-! ## Ways -/

/-- Where some names lead to from a target. -/
def wayTo (root target : Path) (names : List String) : Path :=
  (root.join target).descend names

/-- The same as it is seen from the root. -/
def wayText (root target : Path) (names : List String) : String :=
  (wayTo root target names).relativeTo root

/-- A way leads from a target inside the root down to a file, through folders that are listed and
not skipped. -/
structure Way (disk : Disk) (root target : Path) (folders : List String) (name : String) :
    Prop where
  inside : (root.join target).Inside root
  lists : disk.Lists (root.join target) (folders ++ [name])
  unskipped : ∀ folder ∈ folders, folder ∉ skippedNames
  isFile : disk.isFile (wayTo root target (folders ++ [name])) = true

/-- A project in which nothing is selected yet. -/
def unselected (root : Path) (settings : Settings) : Project :=
  { root, settings }

theorem selects_addTargets_unselected (f : SourceFile) :
    ((unselected root settings).addTargets disk [target]).selects f =
      (ofTarget disk root settings.matcher target).any fun g => g.same f := by
  rw [Project.selects_addTargets, List.flatMap_singleton]
  rfl

theorem any_ofTarget_iff (hnamed : disk.Named) (hway : Way disk root target folders name) :
    ((ofTarget disk root m target).any fun g => g.same
        (sourceFile root (wayTo root target (folders ++ [name])))) = true ↔
      m.excludes (wayText root target (folders ++ [name])) = false ∧
        ∀ front, front <+: folders →
          excludesFolder m (wayText root target front) = false := by
  have hfolder := Disk.isFolder_of_lists hway.lists
    (List.append_ne_nil_of_right_ne_nil folders (List.cons_ne_nil name []))
  have hnames := hnamed.isName_of_lists hway.lists
  rw [ofTarget, if_pos hfolder]
  cases hstart : excludesFolder m ((root.join target).relativeTo root) with
  | true =>
    refine iff_of_false Bool.false_ne_true fun ⟨_, hfronts⟩ => ?_
    exact Bool.false_ne_true ((hfronts [] List.nil_prefix).symm.trans hstart)
  | false =>
    rw [if_neg Bool.false_ne_true, List.any_eq_true]
    constructor
    · rintro ⟨g, hg, hsame⟩
      obtain ⟨folders', name', hfinds, rfl⟩ := (mem_walk_walkDepth_iff hnamed).1 hg
      have hequal := Path.descend_inj (hnamed.isName_of_lists hfinds.lists) hnames
        (SourceFile.same_iff.1 hsame).1
      obtain ⟨rfl, hlast⟩ := List.append_inj' hequal rfl
      obtain rfl := (List.cons.inj hlast).1
      exact ⟨hfinds.included, (open_iff.1 ⟨hstart, hfinds.isOpen⟩).2⟩
    · rintro ⟨hincluded, hfronts⟩
      have hopen := (open_iff.2 ⟨hway.unskipped, hfronts⟩).2
      exact ⟨_, (mem_walk_walkDepth_iff hnamed).2 ⟨folders, name,
        ⟨hway.lists, hopen, hway.isFile, hincluded⟩, rfl⟩, SourceFile.same_refl _⟩

/-- **A walk leaves out the files that are excluded and those below folders that are.** -/
theorem selects_walk_eq_false_iff (hnamed : disk.Named) (hway : Way disk root target folders name) :
    ((unselected root settings).addTargets disk [target]).selects
        (sourceFile root (wayTo root target (folders ++ [name]))) = false ↔
      settings.matcher.excludes
          (wayText root target (folders ++ [name])) = true ∨
        ∃ front, front <+: folders ∧
          excludesFolder settings.matcher (wayText root target front) =
            true := by
  rw [selects_addTargets_unselected, ← Bool.not_eq_true, any_ofTarget_iff hnamed hway, not_and_or,
    Bool.not_eq_false]
  simp only [not_forall, Bool.not_eq_false, exists_prop]

/-- What is below a folder that is covered is excluded itself. -/
theorem excludes_of_coversFolder (hnamed : disk.Named) (hway : Way disk root target folders name)
    (hpath : '\n' ∉ (wayText root target (folders ++ [name])).toList)
    {front : List String} (hfront : front <+: folders)
    (hexcludes : excludesFolder m (wayText root target front) = true)
    (hcovers : m.coversFolder (trimmed (wayText root target front)) =
      true) :
    m.excludes (wayText root target (folders ++ [name])) = true := by
  have hnames := hnamed.isName_of_lists hway.lists
  obtain ⟨rest, rfl⟩ := hfront
  rw [List.append_assoc] at hnames hpath ⊢
  have hdescend : wayText root target (front ++ (rest ++ [name])) =
      ((wayTo root target front).descend (rest ++ [name])).relativeTo root := by
    rw [wayText, wayTo, Path.descend_append]
    rfl
  have hinside := hway.inside.descend fun other hother =>
    hnames other (List.mem_append_left _ hother)
  obtain ⟨below, hbelow⟩ := Path.relativeTo_descend hinside
    (fun other hother => hnames other (List.mem_append_right _ hother))
    (List.append_ne_nil_of_right_ne_nil rest (List.cons_ne_nil name []))
    (exists_ne_slash_of_excludesFolder hexcludes)
  obtain ⟨below', htrimmed⟩ := exists_below_trimmed (wayText root target front) below
  have htext := (hdescend.trans hbelow).trans htrimmed
  rw [htext] at hpath ⊢
  exact Matcher.excludes_of_coversFolder hcovers hpath

/-- **Covered folders make no difference**: a walk leaves out the files that are excluded. -/
theorem selects_walk_eq_false_iff_excludes (hnamed : disk.Named)
    (hway : Way disk root target folders name)
    (hpath : '\n' ∉ (wayText root target (folders ++ [name])).toList)
    (hcovers : ∀ front, front <+: folders →
      excludesFolder settings.matcher (wayText root target front) = true →
        settings.matcher.coversFolder
          (trimmed (wayText root target front)) = true) :
    ((unselected root settings).addTargets disk [target]).selects
        (sourceFile root (wayTo root target (folders ++ [name]))) = false ↔
      settings.matcher.excludes
        (wayText root target (folders ++ [name])) = true := by
  rw [selects_walk_eq_false_iff hnamed hway, or_iff_left_iff_imp]
  rintro ⟨front, hfront, hexcludes⟩
  exact excludes_of_coversFolder hnamed hway hpath hfront hexcludes (hcovers front hfront hexcludes)

/-! ## Files by themselves -/

/-- **A file that is a target is selected unless it is excluded.** -/
theorem selects_file (hfile : disk.isFile (root.join target) = true) :
    ((unselected root settings).addTargets disk [target]).selects
        (sourceFile root (root.join target)) =
      !settings.matcher.excludes ((root.join target).relativeTo root) := by
  rw [selects_addTargets_unselected, ofTarget, Disk.isFolder_eq_false_of_isFile hfile,
    if_neg Bool.false_ne_true, hfile, Bool.true_and]
  cases settings.matcher.excludes ((root.join target).relativeTo root) with
  | true => rfl
  | false =>
    rw [Bool.not_false, if_pos rfl, List.any_cons, List.any_nil, Bool.or_false]
    exact SourceFile.same_refl _

/-- **A document that is stored somewhere is excluded when its path is.** -/
theorem isExcluded_eq {ws : Workspace} {uri : String} (hroot : ws.root = some root)
    (hpath : (ws.document? uri).bind Document.path = some p) :
    ws.isExcluded uri = ws.settings.matcher.excludes (p.relativeTo root) := by
  have hrelative : ws.relative p = p.relativeTo root := by
    rw [Workspace.relative, hroot]
    rfl
  rw [Workspace.isExcluded, hpath, ← hrelative]

/-! ## Agreement -/

/-- A pattern without slashes and wildcards. -/
def IsPlain (pattern : String) : Prop :=
  '/' ∉ Exclude.normalPattern pattern ∧ '*' ∉ Exclude.normalPattern pattern ∧
    '?' ∉ Exclude.normalPattern pattern

/-- Patterns cover together what each of them covers. -/
theorem coversFolder_of_mem {pattern folder : String} {patterns : List String}
    (hmem : pattern ∈ patterns) (h : (Matcher.ofPatterns [pattern]).coversFolder folder = true) :
    (Matcher.ofPatterns patterns).coversFolder folder = true := by
  obtain ⟨glob, hglob, hcovers⟩ := List.any_eq_true.1 h
  rw [Matcher.ofPatterns, List.flatMap_singleton] at hglob
  exact List.any_eq_true.2 ⟨glob, List.mem_flatMap.2 ⟨pattern, hmem, hglob⟩, hcovers⟩

theorem mem_of_mem_trimmed {c : Char} (h : c ∈ (trimmed relative).toList) :
    c ∈ relative.toList := by
  rw [trimmed, String.toList_ofList, List.mem_reverse] at h
  exact List.mem_reverse.1 ((List.dropWhile_sublist _).subset h)

/-- A plain name that excludes a folder covers it. -/
theorem coversFolder_of_isPlain {pattern : String} (hfits : Exclude.Fits pattern)
    (hplain : IsPlain pattern) (hrelative : '\n' ∉ relative.toList)
    (h : excludesFolder (.ofPatterns [pattern]) relative = true) :
    (Matcher.ofPatterns [pattern]).coversFolder (trimmed relative) = true := by
  refine Matcher.coversFolder_of_plain hfits hplain.1 hplain.2.1 hplain.2.2
    (fun hmem => hrelative (mem_of_mem_trimmed hmem)) ?_
  rw [excludesFolder_eq] at h
  split at h
  · cases h
  · exact Bool.or_eq_true_iff.1 h

/-- **When walking agrees with asking.**  Everything below a folder is excluded if a glob that
reaches below matches the folder.  A plain name always has such a glob, and any other pattern does
as soon as it excludes everything below a folder.

A file that is a target by itself and an open document are excluded when the path of the file is.  A
walk leaves a file out when its path is excluded or that of a folder on the way; so it agrees as far
as the folders that are excluded are covered. -/
theorem exclusion_agrees (settings : Settings) (root : Path) (disk : Disk)
    (hnamed : disk.Named) :
    (∀ relative below : String, settings.matcher.coversFolder (trimmed relative) = true →
      '\n' ∉ (trimmed relative ++ "/" ++ below).toList →
        settings.matcher.excludes (trimmed relative ++ "/" ++ below) = true) ∧
    (∀ pattern ∈ settings.excludePatterns, Exclude.Fits pattern → IsPlain pattern →
      ∀ relative : String, '\n' ∉ relative.toList →
        excludesFolder (.ofPatterns [pattern]) relative = true →
          settings.matcher.coversFolder (trimmed relative) = true) ∧
    (∀ pattern folder : String, '\n' ∉ folder.toList →
      ((Matcher.ofPatterns [pattern]).coversFolder folder = true ↔
        ∀ below : String, '\n' ∉ below.toList →
          (Matcher.ofPatterns [pattern]).excludes (folder ++ "/" ++ below) = true)) ∧
    ∀ (target : Path) (folders : List String) (name relative : String),
      Way disk root target folders name → wayText root target (folders ++ [name]) = relative →
        (((unselected root settings).addTargets disk [target]).selects
            (sourceFile root (wayTo root target (folders ++ [name]))) = false ↔
          settings.matcher.excludes relative = true ∨ ∃ front, front <+: folders ∧
            excludesFolder settings.matcher (wayText root target front) = true) ∧
        ('\n' ∉ relative.toList →
          (∀ front, front <+: folders →
            excludesFolder settings.matcher (wayText root target front) = true →
              settings.matcher.coversFolder (trimmed (wayText root target front)) = true) →
          (((unselected root settings).addTargets disk [target]).selects
              (sourceFile root (wayTo root target (folders ++ [name]))) = false ↔
            settings.matcher.excludes relative = true)) ∧
        (∀ file : Path, disk.isFile (root.join file) = true →
          (root.join file).relativeTo root = relative →
            ((unselected root settings).addTargets disk [file]).selects
              (sourceFile root (root.join file)) = !settings.matcher.excludes relative) ∧
        ∀ (ws : Workspace) (uri : String) (p : Path), ws.root = some root →
          ws.settings = settings → (ws.document? uri).bind Document.path = some p →
            p.relativeTo root = relative →
              ws.isExcluded uri = settings.matcher.excludes relative := by
  refine ⟨fun relative below => Matcher.excludes_of_coversFolder, ?_, ?_, ?_⟩
  · intro pattern hmem hfits hplain relative hrelative hexcludes
    exact coversFolder_of_mem hmem (coversFolder_of_isPlain hfits hplain hrelative hexcludes)
  · exact fun pattern folder hfolder => Matcher.coversFolder_iff_forall hfolder
  · rintro target folders name _ hway rfl
    refine ⟨selects_walk_eq_false_iff hnamed hway, ?_, ?_, ?_⟩
    · exact selects_walk_eq_false_iff_excludes hnamed hway
    · intro file hfile hrelative
      rw [← hrelative]
      exact selects_file hfile
    · rintro ws uri p hroot rfl hpath hrelative
      rw [← hrelative]
      exact isExcluded_eq hroot hpath

/-- **A folder is excluded by a name with a star, and what is below it is not.** -/
theorem excludesFolder_build :
    excludesFolder (.ofPatterns ["build*"]) "build1" = true ∧ '\n' ∉ "build1/x.py".toList ∧
      (Matcher.ofPatterns ["build*"]).excludes "build1/x.py" = false := by
  decide

/-- A disk with one file in one folder of the root. -/
def sampleDisk : Disk where
  entries := [(["w"], .folder Disk.folderPermissions),
    (["w", "build1"], .folder Disk.folderPermissions),
    (["w", "build1", "x.py"], .file "".toUTF8 Disk.filePermissions)]

theorem find_sampleDisk :
    sampleDisk.find (.ofText "/w") = .ok (["w"], .folder Disk.folderPermissions) ∧
      sampleDisk.find (.ofText "/w/build1") =
        .ok (["w", "build1"], .folder Disk.folderPermissions) ∧
      sampleDisk.find (.ofText "/w/build1/x.py") =
        .ok (["w", "build1", "x.py"], .file "".toUTF8 Disk.filePermissions) := by
  have hroot : Disk.hops (.ofText "/w") = [.name "w"] := by decide
  have hfolder : Disk.hops (.ofText "/w/build1") = [.name "w", .name "build1"] := by decide
  have hfile : Disk.hops (.ofText "/w/build1/x.py") =
      [.name "w", .name "build1", .name "x.py"] := by decide
  have hdown : ∀ {rest : List Disk.Hop} {loc : Location},
      Disk.Leads sampleDisk Disk.linkLimit ["w"] rest Disk.linkLimit loc →
        Disk.Leads sampleDisk Disk.linkLimit [] (.name "w" :: rest) Disk.linkLimit loc :=
    fun h => .name rfl (by decide) rfl (fun _ h => nomatch h) h
  have hbelow : ∀ {rest : List Disk.Hop} {loc : Location},
      Disk.Leads sampleDisk Disk.linkLimit ["w", "build1"] rest Disk.linkLimit loc →
        Disk.Leads sampleDisk Disk.linkLimit ["w"] (.name "build1" :: rest) Disk.linkLimit loc :=
    fun h => .name rfl (by decide) rfl (fun _ h => nomatch h) h
  have hlast : Disk.Leads sampleDisk Disk.linkLimit ["w", "build1"] [.name "x.py"] Disk.linkLimit
      ["w", "build1", "x.py"] := .name rfl (by decide) rfl (fun _ h => nomatch h) .done
  refine ⟨?_, ?_, ?_⟩
  · exact Disk.find_of_leads (by decide) (hroot ▸ hdown .done) rfl
  · exact Disk.find_of_leads (by decide) (hfolder ▸ hdown (hbelow .done)) rfl
  · exact Disk.find_of_leads (by decide) (hfile ▸ hdown (hbelow hlast)) rfl

theorem way_sampleDisk : Way sampleDisk (.ofText "/w") (.ofText "/w") ["build1"] "x.py" := by
  obtain ⟨hroot, hfolder, hfile⟩ := find_sampleDisk
  have hjoin : (Path.ofText "/w").join (.ofText "/w") = .ofText "/w" := by decide
  have hchild : (Path.ofText "/w").child "build1" = .ofText "/w/build1" := by decide
  have hend : wayTo (.ofText "/w") (.ofText "/w") ["build1", "x.py"] =
      .ofText "/w/build1/x.py" := by decide
  refine ⟨?_, ?_, by decide, ?_⟩
  · rw [hjoin]
    exact List.prefix_refl _
  · rw [hjoin]
    refine ⟨⟨["build1"], ?_, List.mem_cons_self⟩, ⟨["x.py"], ?_, List.mem_cons_self⟩, trivial⟩
    · rw [Disk.list, hroot]
      rfl
    · rw [hchild, Disk.list, hfolder]
      rfl
  · show sampleDisk.isFile (wayTo (.ofText "/w") (.ofText "/w") ["build1", "x.py"]) = true
    rw [hend, Disk.isFile, hfile]

/-- A walk leaves out a file that is selected when it is a target by itself. -/
theorem exclusion_agrees_build :
    sampleDisk.Named ∧ Way sampleDisk (.ofText "/w") (.ofText "/w") ["build1"] "x.py" ∧
      ((unselected (.ofText "/w") { excludePatterns := ["build*"] }).addTargets sampleDisk
        [.ofText "/w"]).selects (sourceFile (.ofText "/w") (.ofText "/w/build1/x.py")) = false ∧
      ((unselected (.ofText "/w") { excludePatterns := ["build*"] }).addTargets sampleDisk
        [.ofText "build1/x.py"]).selects (sourceFile (.ofText "/w") (.ofText "/w/build1/x.py")) =
          true := by
  have hnamed : sampleDisk.Named := by decide
  have htext : wayText (.ofText "/w") (.ofText "/w") (["build1"] ++ ["x.py"]) = "build1/x.py" := by
    decide
  obtain ⟨-, -, -, hways⟩ :=
    exclusion_agrees { excludePatterns := ["build*"] } (.ofText "/w") sampleDisk hnamed
  obtain ⟨hwalk, -, hfile, -⟩ := hways _ _ _ _ way_sampleDisk htext
  have hend : wayTo (.ofText "/w") (.ofText "/w") (["build1"] ++ ["x.py"]) =
      .ofText "/w/build1/x.py" := by decide
  have hjoin : (Path.ofText "/w").join (.ofText "build1/x.py") = .ofText "/w/build1/x.py" := by
    decide
  rw [hend] at hwalk
  refine ⟨hnamed, way_sampleDisk, hwalk.2 (Or.inr ⟨["build1"], List.prefix_refl _, ?_⟩), ?_⟩
  · decide
  · have hselects := hfile (.ofText "build1/x.py")
    rw [hjoin] at hselects
    rw [hselects (by rw [Disk.isFile, find_sampleDisk.2.2]) (by decide)]
    decide

end Discovery
end EmojiLint
