import EmojiLint.Proofs.Diagnostic
import EmojiLint.Proofs.Project.Clean

/-!
# The findings of a project

A project is checked file by file, and the findings are sorted at the end.  When no two files have
the same relative path, the report says of every file what checking it alone would say, in the
order of the relative paths, and it does so whatever the order in which the files were checked.

* `Disk.readText_cases` — what comes of reading a file.
* `Project.check_eq` — a report as a whole.
* `Project.Reported` — what a report says of the files.
* `Project.check_distinct` — a report says this, and it depends neither on the order of the files
  nor on those that are no text.
-/

set_option autoImplicit false

namespace EmojiLint

/-! ## One file -/

namespace Disk

variable {disk : Disk} {p : Path}

/-- A file can be read, and it is a text. -/
def IsText (disk : Disk) (p : Path) : Prop :=
  ∃ text, disk.readText p = .ok text

/-- The failure of reading a file. -/
def unreadable? (disk : Disk) (p : Path) : Option FileError :=
  match disk.read p with
  | .ok _ => none
  | .error cause => some (.unreadable p cause)

/-- What comes of reading a file: it is a text, it is no text, or it cannot be read. -/
theorem readText_cases (disk : Disk) (p : Path) :
    (∃ text, disk.readText p = .ok text ∧ ¬ disk.HoldsNoText p ∧ disk.unreadable? p = none) ∨
    (disk.readText p = .error (.notText p) ∧ disk.HoldsNoText p ∧ disk.unreadable? p = none) ∨
    ∃ cause, disk.readText p = .error (.unreadable p cause) ∧ ¬ disk.HoldsNoText p ∧
      disk.unreadable? p = some (.unreadable p cause) := by
  rw [readText, unreadable?]
  delta HoldsNoText
  cases hread : disk.read p with
  | error cause => simp
  | ok content => cases hdecoded : String.fromUTF8? content <;> simp [hdecoded]

instance (disk : Disk) (p : Path) : Decidable (disk.IsText p) :=
  match h : disk.readText p with
  | .ok text => .isTrue ⟨text, h⟩
  | .error _ => .isFalse fun ⟨_, htext⟩ => nomatch h.symm.trans htext

theorem not_isText_of_error {e : FileError} (h : disk.readText p = .error e) :
    ¬ disk.IsText p :=
  fun ⟨_, htext⟩ => nomatch h.symm.trans htext

end Disk

namespace Project

variable {project : Project} {disk : Disk} {language : Option String} {files : List SourceFile}
  {f g : SourceFile} {d e : Diagnostic}

/-- The language of a file: the one that is asked for, or what the name of the file says. -/
def languageOf (language : Option String) (f : SourceFile) : String :=
  language.getD (Path.language f.relative)

/-- The findings of one file.  A file that is no text has none. -/
def findingsOf (project : Project) (disk : Disk) (language : Option String) (f : SourceFile) :
    Findings :=
  match disk.readText f.path with
  | .ok text => diagnose project.settings (some f.relative) text (languageOf language f)
  | .error _ => []

theorem findingsOf_of_ok {text : String} (h : disk.readText f.path = .ok text) :
    project.findingsOf disk language f =
      diagnose project.settings (some f.relative) text (languageOf language f) := by
  rw [findingsOf, h]

theorem findingsOf_of_not_isText (h : ¬ disk.IsText f.path) :
    project.findingsOf disk language f = [] := by
  rw [findingsOf]
  split
  · next text htext => exact absurd ⟨text, htext⟩ h
  · rfl

theorem inOrder_findingsOf (project : Project) (disk : Disk) (language : Option String)
    (f : SourceFile) : (project.findingsOf disk language f).InOrder := by
  rw [findingsOf]
  split
  · exact inOrder_diagnose _ _ _ _
  · exact ⟨(fun _ hd => nomatch hd), .nil⟩

/-- The findings of a file say that they are of this file, which is a text. -/
theorem file_of_mem_findingsOf (h : d ∈ project.findingsOf disk language f) :
    disk.IsText f.path ∧ d.file = some f.relative := by
  rw [findingsOf] at h
  split at h
  · next text htext =>
    obtain ⟨s, -, rfl⟩ := List.mem_map.1 h
    exact ⟨⟨text, htext⟩, rfl⟩
  · cases h

/-! ## The report as a whole -/

/-- What one more file adds to a report. -/
theorem add_checkFile (project : Project) (disk : Disk) (language : Option String)
    (report : CheckReport) (f : SourceFile) :
    report.add (project.checkFile disk language f) =
      { findings := report.findings ++ project.findingsOf disk language f
        checked := report.checked + if disk.IsText f.path then 1 else 0
        skipped := report.skipped + if disk.HoldsNoText f.path then 1 else 0
        failures := report.failures ++ (disk.unreadable? f.path).toList } := by
  rw [checkFile]
  rcases disk.readText_cases f.path with
    ⟨text, htext, hholds, hnone⟩ | ⟨htext, hholds, hnone⟩ | ⟨cause, htext, hholds, hsome⟩
  · rw [htext, hnone, findingsOf_of_ok htext, if_pos ⟨text, htext⟩, if_neg hholds]
    simp [CheckReport.add, Except.map, languageOf]
  · have hno := Disk.not_isText_of_error htext
    rw [htext, hnone, findingsOf_of_not_isText hno, if_neg hno, if_pos hholds]
    simp [CheckReport.add, Except.map]
  · have hno := Disk.not_isText_of_error htext
    rw [htext, hsome, findingsOf_of_not_isText hno, if_neg hno, if_neg hholds]
    simp [CheckReport.add, Except.map]

/-- What some files add to a report. -/
theorem foldl_checkFile (project : Project) (disk : Disk) (language : Option String)
    (files : List SourceFile) (report : CheckReport) :
    files.foldl (fun (report : CheckReport) f => report.add (project.checkFile disk language f))
        report =
      { findings := report.findings ++ files.flatMap (project.findingsOf disk language)
        checked := report.checked + files.countP fun f => disk.IsText f.path
        skipped := report.skipped + files.countP fun f => disk.HoldsNoText f.path
        failures := report.failures ++ files.filterMap fun f => disk.unreadable? f.path } := by
  induction files generalizing report with
  | nil => simp
  | cons f rest ih =>
    have hfailures : (f :: rest).filterMap (fun f => disk.unreadable? f.path) =
        (disk.unreadable? f.path).toList ++ rest.filterMap fun f => disk.unreadable? f.path := by
      rw [List.filterMap_cons]
      cases disk.unreadable? f.path <;> rfl
    rw [List.foldl_cons, ih, add_checkFile, hfailures, List.flatMap_cons, List.countP_cons,
      List.countP_cons]
    simp only [List.append_assoc, Nat.add_assoc, decide_eq_true_eq, Nat.add_comm]

/-- **A report** holds the sorted findings of all files, and it counts every file once. -/
theorem check_eq (project : Project) (disk : Disk) (language : Option String) :
    project.check disk language =
      { findings := Findings.sort (project.files.flatMap (project.findingsOf disk language))
        checked := project.files.countP fun f => disk.IsText f.path
        skipped := project.files.countP fun f => disk.HoldsNoText f.path
        failures := project.files.filterMap fun f => disk.unreadable? f.path } := by
  rw [check, foldl_checkFile, CheckReport.sorted]
  simp only [List.nil_append, Nat.zero_add]

/-- Every file is a text, is no text, or cannot be read. -/
theorem count_add_count (disk : Disk) (files : List SourceFile) :
    (files.countP fun f => disk.IsText f.path) + (files.countP fun f => disk.HoldsNoText f.path) +
      (files.filterMap fun f => disk.unreadable? f.path).length = files.length := by
  induction files with
  | nil => rfl
  | cons f rest ih =>
    rw [List.countP_cons, List.countP_cons, List.filterMap_cons, List.length_cons, ← ih]
    rcases disk.readText_cases f.path with
      ⟨text, htext, hholds, hnone⟩ | ⟨htext, hholds, hnone⟩ | ⟨cause, htext, hholds, hsome⟩
    · have hyes : disk.IsText f.path := ⟨text, htext⟩
      simp only [hyes, hholds, hnone, decide_true, decide_false, if_true, Bool.false_eq_true,
        if_false]
      omega
    · have hno := Disk.not_isText_of_error htext
      simp only [hno, hholds, hnone, decide_true, decide_false, if_true, Bool.false_eq_true,
        if_false]
      omega
    · have hno := Disk.not_isText_of_error htext
      simp only [hno, hholds, hsome, decide_false, Bool.false_eq_true, if_false, List.length_cons]
      omega

/-- Where nothing is found, nothing is left out. -/
theorem flatMap_filter_eq {α β : Type} {p : α → Bool} {f : α → List β} {xs : List α}
    (h : ∀ x, p x = false → f x = []) : (xs.filter p).flatMap f = xs.flatMap f := by
  induction xs with
  | nil => rfl
  | cons x xs ih =>
    rw [List.flatMap_cons, ← ih]
    cases hp : p x with
    | true => rw [List.filter_cons_of_pos hp, List.flatMap_cons]
    | false => rw [List.filter_cons_of_neg (by rw [hp]; exact Bool.false_ne_true), h x hp,
        List.nil_append]

/-! ## Files with different relative paths -/

/-- No two files have the same relative path. -/
def Distinct (files : List SourceFile) : Prop :=
  files.Pairwise fun f g => f.relative ≠ g.relative

instance (files : List SourceFile) : Decidable (Distinct files) :=
  inferInstanceAs (Decidable (List.Pairwise _ _))

theorem Distinct.eq (h : Distinct files) (hf : f ∈ files) (hg : g ∈ files)
    (hrelative : f.relative = g.relative) : f = g := by
  have hsymm : Std.Symm fun f g : SourceFile => f.relative ≠ g.relative :=
    ⟨fun _ _ hfg hgf => hfg hgf.symm⟩
  by_contra hne
  exact h.forall hf hg hne hrelative

/-- The findings of files with different relative paths are told by their places. -/
theorem apart_flatMap (project : Project) (disk : Disk) (language : Option String)
    (h : Distinct files) : Findings.Apart (files.flatMap (project.findingsOf disk language)) := by
  refine List.pairwise_flatMap.2 ⟨fun f _ => ?_, h.imp fun {f g} hfg d hd e he hplace => hfg ?_⟩
  · refine (inOrder_findingsOf project disk language f).pairwise.imp fun {d e} hde hplace => ?_
    have := hplace.2
    omega
  · have hfile := hplace.1
    rw [(file_of_mem_findingsOf hd).2, (file_of_mem_findingsOf he).2] at hfile
    exact Option.some_inj.1 hfile

/-- Of the findings of all files, those with the relative path of a file are its own. -/
theorem filter_flatMap_findingsOf (project : Project) (disk : Disk) (language : Option String)
    (h : Distinct files) (hf : f ∈ files) :
    (files.flatMap (project.findingsOf disk language)).filter (fun d => d.file = some f.relative) =
      project.findingsOf disk language f := by
  obtain ⟨front, back, rfl⟩ := List.append_of_mem hf
  -- The findings of the files on either side have other relative paths.
  have hothers : ∀ rest : List SourceFile, (∀ g ∈ rest, g.relative ≠ f.relative) →
      (rest.flatMap (project.findingsOf disk language)).filter
        (fun d => d.file = some f.relative) = [] := by
    intro rest hrest
    refine List.filter_eq_nil_iff.2 fun d hd hfile => ?_
    obtain ⟨g, hg, hd⟩ := List.mem_flatMap.1 hd
    rw [decide_eq_true_eq, (file_of_mem_findingsOf hd).2, Option.some_inj] at hfile
    exact hrest g hg hfile
  obtain ⟨-, hback, hfront⟩ := List.pairwise_append.1 h
  rw [List.flatMap_append, List.flatMap_cons, List.filter_append, List.filter_append,
    hothers front fun g hg => hfront g hg f List.mem_cons_self,
    hothers back fun g hg => ((List.pairwise_cons.1 hback).1 g hg).symm, List.nil_append,
    List.append_nil]
  exact List.filter_eq_self.2 fun d hd => decide_eq_true (file_of_mem_findingsOf hd).2

end Project

/-- A diagnostic comes before another one: by the relative paths of their files, or by where they
start in the same file. -/
def Diagnostic.Precedes (d e : Diagnostic) : Prop :=
  ∃ p q, d.file = some p ∧ e.file = some q ∧ (p < q ∨ p = q ∧ d.span.start < e.span.start)

theorem Diagnostic.precedes_of_le {d e : Diagnostic} {p q : String} (hd : d.file = some p)
    (he : e.file = some q) (hle : d.le e = true) (hplace : ¬ AtSamePlace d e) : d.Precedes e := by
  refine ⟨p, q, hd, he, ?_⟩
  rw [AtSamePlace, hd, he, Option.some_inj] at hplace
  rw [le_iff, hd, he, Option.some_inj] at hle
  rcases hle with hlt | ⟨hfile, hle⟩
  · exact .inl (compareOfLessAndEq_eq_lt.1 hlt)
  · exact .inr ⟨hfile, Nat.lt_of_le_of_ne hle fun h => hplace ⟨hfile, h⟩⟩

namespace Project

variable {project : Project} {disk : Disk} {language : Option String} {files : List SourceFile}

/-- What a report says of the files of a project. -/
structure Reported (project : Project) (disk : Disk) (language : Option String)
    (report : CheckReport) : Prop where
  /-- Of a text, the report names every emoji that is not ignored, once and in order. -/
  text : ∀ f ∈ project.files, ∀ text, disk.readText f.path = .ok text →
    report.findings.filter (fun d => d.file = some f.relative) =
      (reportable text (languageOf language f) project.settings.ignore).map fun span =>
        .ofRule .emojiDetected (some f.relative) span project.settings.severity
  /-- It names nothing else. -/
  known : ∀ d ∈ report.findings, ∃ f ∈ project.files,
    disk.IsText f.path ∧ d.file = some f.relative
  /-- Of a file that is no text it names nothing. -/
  other : ∀ f ∈ project.files, ¬ disk.IsText f.path →
    ∀ d ∈ report.findings, d.file ≠ some f.relative
  sorted : report.findings.Pairwise Diagnostic.Precedes
  checked : report.checked = project.files.countP fun f => disk.IsText f.path
  skipped : report.skipped = project.files.countP fun f => disk.HoldsNoText f.path
  failures : report.failures = project.files.filterMap fun f => disk.unreadable? f.path
  counted : report.checked + report.skipped + report.failures.length = project.files.length

theorem mem_findings_check {d : Diagnostic} : d ∈ (project.check disk language).findings ↔
    ∃ f ∈ project.files, d ∈ project.findingsOf disk language f := by
  rw [check_eq]
  exact Findings.mem_sort.trans List.mem_flatMap

theorem apart_findings_check (h : Distinct project.files) :
    (project.check disk language).findings.Apart := by
  rw [check_eq]
  exact (apart_flatMap project disk language h).perm (Findings.perm_sort _)

/-- The findings of a file are found again in the report. -/
theorem filter_findings_check (h : Distinct project.files) {f : SourceFile}
    (hf : f ∈ project.files) :
    (project.check disk language).findings.filter (fun d => d.file = some f.relative) =
      project.findingsOf disk language f := by
  have hfilter := filter_flatMap_findingsOf project disk language h hf
  rw [check_eq]
  refine (Findings.filter_sort (apart_flatMap project disk language h) _ ?_).trans hfilter
  rw [hfilter]
  refine (inOrder_findingsOf project disk language f).pairwise.imp_of_mem fun hd he hde => ?_
  rw [Diagnostic.le_iff, (file_of_mem_findingsOf hd).2, (file_of_mem_findingsOf he).2]
  exact .inr ⟨rfl, by omega⟩

theorem reported_check (h : Distinct project.files) :
    project.Reported disk language (project.check disk language) := by
  have hknown : ∀ d ∈ (project.check disk language).findings, ∃ f ∈ project.files,
      disk.IsText f.path ∧ d.file = some f.relative := by
    intro d hd
    obtain ⟨f, hf, hd⟩ := mem_findings_check.1 hd
    exact ⟨f, hf, file_of_mem_findingsOf hd⟩
  have hreport := check_eq project disk language
  refine ⟨fun f hf text htext => ?_, hknown, fun f hf hno d hd hfile => ?_, ?_, by rw [hreport],
    by rw [hreport], by rw [hreport], by rw [hreport]; exact count_add_count disk project.files⟩
  · rw [filter_findings_check h hf, findingsOf_of_ok htext, diagnose]
  · obtain ⟨g, hg, htext, hfile'⟩ := hknown d hd
    obtain rfl := h.eq hf hg (Option.some_inj.1 (hfile.symm.trans hfile'))
    exact hno htext
  · have hsorted : (project.check disk language).findings.Pairwise fun d e => d.le e = true := by
      rw [hreport]
      exact Findings.pairwise_sort _
    refine (hsorted.and (apart_findings_check h)).imp_of_mem fun hd he hde => ?_
    obtain ⟨f, -, -, hfile⟩ := hknown _ hd
    obtain ⟨g, -, -, hfile'⟩ := hknown _ he
    exact Diagnostic.precedes_of_le hfile hfile' hde.1 hde.2

/-- Of three files, the first one is a text with an emoji, the second one is no text, and the third
one is missing. -/
def mixedFiles : Disk where
  entries := [(["a"], .file "1😀".toUTF8 Disk.filePermissions),
    (["b"], .file ⟨#[0xff]⟩ Disk.filePermissions)]

theorem readText_mixedFiles :
    mixedFiles.readText (atRoot "a").path = .ok "1😀" ∧
      mixedFiles.readText (atRoot "b").path = .error (.notText (atRoot "b").path) ∧
      mixedFiles.readText (atRoot "c").path = .error (.unreadable (atRoot "c").path .notFound) := by
  have ha : mixedFiles.find (atRoot "a").path =
      .ok (["a"], .file "1😀".toUTF8 Disk.filePermissions) :=
    find_atRoot (by decide) fun target h => nomatch h
  have hb : mixedFiles.find (atRoot "b").path =
      .ok (["b"], .file ⟨#[0xff]⟩ Disk.filePermissions) :=
    find_atRoot (by decide) fun target h => nomatch h
  have hc : mixedFiles.find (atRoot "c").path = .error .notFound :=
    find_atRoot (by decide) fun target h => nomatch h
  have hdecoded : String.fromUTF8? ⟨#[0xff]⟩ = none := by decide +kernel
  refine ⟨Disk.readText_eq_ok_iff.2 (Disk.read_of_find ha rfl), ?_, ?_⟩
  · rw [Disk.readText, Disk.read_of_find hb rfl]
    simp only [hdecoded]
  · rw [Disk.readText, Disk.read, hc]

end Project
end EmojiLint
