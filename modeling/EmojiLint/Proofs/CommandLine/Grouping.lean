import EmojiLint.CommandLine.Run
import EmojiLint.Proofs.Project.Check
import Mathlib.Data.List.SplitBy
import Mathlib.Data.Finset.Card

/-!
# Findings are printed file by file

The findings of a project are printed in groups, from each index to the next one where the file is
another.  As the findings are sorted, each file has one group, so that the number of groups is the
number of files.

* `CommandLine.groupsFrom` — the groups, found by jumping from the start of one to the start of the
  next one.
* `CommandLine.groupsFrom_eq` — these are the findings split where the file changes.
* `CommandLine.Grouped` — what the groups are like.
* `CommandLine.grouped_groupByFile` — sorted findings have such groups.
* `CommandLine.printFindings_check` — what is printed of the findings of a project.
-/

set_option autoImplicit false

namespace EmojiLint
namespace CommandLine

open Std

variable {fs : Findings} {d : Diagnostic}

/-! ## From group to group -/

/-- Whether a finding is of a file. -/
def isOf (file : Option String) (d : Diagnostic) : Bool :=
  d.file == file

theorem isOf_iff {file : Option String} : isOf file d = true ↔ d.file = file :=
  beq_iff_eq

/-- Where the group that starts at an index ends: where the file is another, or at the very end. -/
def groupEnd (fs : Findings) (start : Nat) (file : Option String) : Nat :=
  match (fs.drop start).findIdx? fun d => !isOf file d with
  | some offset => start + offset
  | none => fs.length

theorem groupEnd_eq {start : Nat} (h : start ≤ fs.length) (file : Option String) :
    groupEnd fs start file = start + ((fs.drop start).takeWhile (isOf file)).length := by
  rw [groupEnd]
  split
  · next offset hoffset =>
    obtain ⟨hlt, hidx⟩ := List.findIdx?_eq_some_iff_findIdx_eq.1 hoffset
    rw [List.takeWhile_eq_take_findIdx_not, List.length_take, hidx,
      Nat.min_eq_left (Nat.le_of_lt hlt)]
  · next hnone =>
    have hall : ∀ d ∈ fs.drop start, isOf file d = true := fun d hd => by
      simpa using List.findIdx?_eq_none_iff.1 hnone d hd
    rw [List.takeWhile_eq_self_iff.2 hall, List.length_drop]
    omega

theorem takeWhile_isOf_ne_nil (d : Diagnostic) (fs : Findings) :
    (d :: fs).takeWhile (isOf d.file) ≠ [] := by
  rw [List.takeWhile_cons_of_pos (isOf_iff.2 rfl)]
  exact List.cons_ne_nil _ _

theorem lt_groupEnd {start : Nat} (h : start < fs.length) :
    start < groupEnd fs start fs[start].file := by
  have hpos := List.length_pos_iff.2 (takeWhile_isOf_ne_nil fs[start] (fs.drop (start + 1)))
  rw [groupEnd_eq (Nat.le_of_lt h), List.drop_eq_getElem_cons h]
  omega

/-- The groups from an index on, which is the start of the first one. -/
def groupsFrom (fs : Findings) (start : Nat) : List Findings :=
  if h : start < fs.length then
    let stop := groupEnd fs start fs[start].file
    have : start < stop := lt_groupEnd h
    fs.extract start stop :: groupsFrom fs stop
  else []
termination_by fs.length - start

/-- The first group is what has the file of the first finding. -/
theorem groupByFile_cons (d : Diagnostic) (fs : Findings) :
    groupByFile (d :: fs) = (d :: fs).takeWhile (isOf d.file) ::
      groupByFile ((d :: fs).dropWhile (isOf d.file)) := by
  have hsame : ∀ e ∈ (d :: fs).takeWhile (isOf d.file), e.file = d.file := fun e he =>
    isOf_iff.1 (List.mem_takeWhile_imp he)
  have hchain : ((d :: fs).takeWhile (isOf d.file)).IsChain fun e f =>
      (e.file == f.file) = true :=
    (List.pairwise_of_forall_mem_list fun e he f hf =>
      beq_iff_eq.2 ((hsame e he).trans (hsame f hf).symm)).isChain
  conv_lhs => rw [← List.takeWhile_append_dropWhile (p := isOf d.file) (l := d :: fs)]
  rw [groupByFile, List.splitBy_append,
    List.splitBy_of_isChain (takeWhile_isOf_ne_nil d fs) hchain]
  · rfl
  · intro e he f hf
    have hnext := List.head?_dropWhile_not (isOf d.file) (d :: fs)
    rw [Option.mem_def.1 hf] at hnext
    rw [hsame e (List.mem_of_getLast? he)]
    exact beq_eq_false_iff_ne.2 fun h => beq_eq_false_iff_ne.1 hnext h.symm

theorem drop_length_takeWhile {α : Type} (p : α → Bool) (xs : List α) :
    xs.drop (xs.takeWhile p).length = xs.dropWhile p := by
  have hdrop := List.prefix_append_drop (xs.takeWhile_prefix p)
  have hparts : xs.takeWhile p ++ xs.dropWhile p = xs := List.takeWhile_append_dropWhile
  exact List.append_cancel_left (hdrop.symm.trans hparts.symm)

/-- **Jumping from group to group** splits the findings where the file changes. -/
theorem groupsFrom_eq (fs : Findings) (start : Nat) :
    groupsFrom fs start = groupByFile (fs.drop start) := by
  fun_induction groupsFrom fs start with
  | case1 start h stop hlt ih =>
    have hstop : stop = start + ((fs.drop start).takeWhile (isOf fs[start].file)).length :=
      groupEnd_eq (Nat.le_of_lt h) _
    have hgroup : fs.extract start stop = (fs.drop start).takeWhile (isOf fs[start].file) := by
      rw [List.extract_eq_take_drop, hstop, Nat.add_sub_cancel_left]
      exact (List.prefix_iff_eq_take.1 (List.takeWhile_prefix _)).symm
    have hrest : fs.drop stop = (fs.drop start).dropWhile (isOf fs[start].file) := by
      rw [hstop, ← List.drop_drop, drop_length_takeWhile]
    rw [ih, hgroup, hrest, List.drop_eq_getElem_cons h, groupByFile_cons]
  | case2 start h =>
    rw [List.drop_eq_nil_of_le (Nat.le_of_not_lt h)]
    rfl

/-! ## One group for each file -/

/-- The file of a group, which is that of its first finding. -/
def fileOf (group : Findings) : Option String :=
  group.head?.bind Diagnostic.file

/-- What the groups of some findings are like: one after the other they are the findings, each of
them is the findings of one file and holds at least one, and each file has one group only. -/
structure Grouped (fs : Findings) (groups : List Findings) : Prop where
  flatten : groups.flatten = fs
  nonempty : ∀ group ∈ groups, group ≠ []
  file : ∀ group ∈ groups, ∀ d ∈ group, d.file = fileOf group
  nodup : (groups.map fileOf).Nodup

theorem fileOf_of_mem_groupByFile {group : Findings} (hgroup : group ∈ groupByFile fs)
    (hd : d ∈ group) : d.file = fileOf group := by
  let SameFile (d e : Diagnostic) : Prop := (d.file == e.file) = true
  have htrans : Trans SameFile SameFile SameFile :=
    ⟨fun hde hef => beq_iff_eq.2 ((beq_iff_eq.1 hde).trans (beq_iff_eq.1 hef))⟩
  have hchain := (List.isChain_of_mem_splitBy hgroup).pairwise
  cases group with
  | nil => cases hd
  | cons e group =>
    rcases List.mem_cons.1 hd with rfl | hd
    · rfl
    · exact (beq_iff_eq.1 ((List.pairwise_cons.1 hchain).1 d hd)).symm

/-- The files of the groups of sorted findings are in order. -/
theorem pairwise_groupByFile (hsorted : fs.Pairwise fun d e => d.le e = true) :
    (groupByFile fs).Pairwise fun g h => compare (fileOf g) (fileOf h) = .lt := by
  let Before (g h : Findings) : Prop := compare (fileOf g) (fileOf h) = .lt
  have htrans : Trans Before Before Before := ⟨TransCmp.lt_trans⟩
  have hflatten : (groupByFile fs).flatten = fs := List.flatten_splitBy _ fs
  have hcut : (groupByFile fs).IsChain fun g h => ∃ hg hh,
      ((g.getLast hg).file == (h.head hh).file) = false :=
    List.isChain_getLast_head_splitBy (fun d e : Diagnostic => d.file == e.file) fs
  rw [← hflatten, List.pairwise_flatten] at hsorted
  refine (List.isChain_iff_getElem.2 fun i hi => ?_).pairwise
  -- the last finding of a group and the first one of the next group are in order, and not of one
  -- file
  obtain ⟨hlast, hhead, hother⟩ := List.isChain_iff_getElem.1 hcut i hi
  have hle := List.pairwise_iff_getElem.1 hsorted.2 i (i + 1) (by omega) hi (by omega) _
    (List.getLast_mem hlast) _ (List.head_mem hhead)
  rw [← fileOf_of_mem_groupByFile (List.getElem_mem _) (List.getLast_mem hlast),
    ← fileOf_of_mem_groupByFile (List.getElem_mem _) (List.head_mem hhead)]
  exact (Diagnostic.le_iff.1 hle).resolve_right fun h => beq_eq_false_iff_ne.1 hother h.1

/-- **Sorted findings have one group for each file.** -/
theorem grouped_groupByFile (hsorted : fs.Pairwise fun d e => d.le e = true) :
    Grouped fs (groupByFile fs) where
  flatten := List.flatten_splitBy _ fs
  nonempty _ hgroup := List.ne_nil_of_mem_splitBy hgroup
  file _ hgroup _ hd := fileOf_of_mem_groupByFile hgroup hd
  nodup := by
    refine List.pairwise_map.2 ((pairwise_groupByFile hsorted).imp fun {g h} hlt heq => ?_)
    rw [heq, compare_self] at hlt
    cases hlt

/-- There are as many groups as files. -/
theorem Grouped.length_eq {groups : List Findings} (h : Grouped fs groups) :
    groups.length = (fs.map Diagnostic.file).toFinset.card := by
  have hfiles : (groups.map fileOf).toFinset = (fs.map Diagnostic.file).toFinset := by
    ext file
    simp only [List.mem_toFinset, List.mem_map]
    constructor
    · rintro ⟨group, hgroup, rfl⟩
      obtain ⟨d, hd⟩ := List.exists_mem_of_ne_nil group (h.nonempty group hgroup)
      exact ⟨d, h.flatten ▸ List.mem_flatten_of_mem hgroup hd, h.file group hgroup d hd⟩
    · rintro ⟨d, hd, rfl⟩
      obtain ⟨group, hgroup, hd⟩ := List.mem_flatten.1 (h.flatten ▸ hd)
      exact ⟨group, hgroup, (h.file group hgroup d hd).symm⟩
  rw [← hfiles, List.toFinset_card_of_nodup h.nodup, List.length_map]

/-! ## What is printed -/

/-- How many files have a finding, told by their relative paths. -/
def filesFound (project : Project) (disk : Disk) (language : Option String) : Nat :=
  ((project.files.filter fun f => project.findingsOf disk language f ≠ []).map
    SourceFile.relative).toFinset.card

theorem card_files_check (project : Project) (disk : Disk) (language : Option String) :
    ((project.check disk language).findings.map Diagnostic.file).toFinset.card =
      filesFound project disk language := by
  rw [filesFound, ← Finset.card_image_of_injective _ (Option.some_injective String)]
  congr 1
  ext file
  simp only [List.mem_toFinset, List.mem_map, Finset.mem_image, List.mem_filter,
    decide_eq_true_eq]
  constructor
  · rintro ⟨d, hd, rfl⟩
    obtain ⟨f, hf, hd⟩ := Project.mem_findings_check.1 hd
    exact ⟨f.relative, ⟨f, ⟨hf, List.ne_nil_of_mem hd⟩, rfl⟩,
      (Project.file_of_mem_findingsOf hd).2.symm⟩
  · rintro ⟨_, ⟨f, ⟨hf, hfound⟩, rfl⟩, rfl⟩
    obtain ⟨d, hd⟩ := List.exists_mem_of_ne_nil _ hfound
    exact ⟨d, Project.mem_findings_check.2 ⟨f, hf, hd⟩, (Project.file_of_mem_findingsOf hd).2⟩

/-- The line at the end, when so many emoji were found in so many files. -/
def endingLine (terminal : Bool) (fs : Findings) (emoji files : Nat) : String :=
  let found := "Found " ++ counted emoji "emoji" ++ " in " ++ counted files "file" ++ "."
  endLine ("\n" ++
    if terminal then (if fs.hasErrors then red else yellow) ++ found ++ plain else found)

/-- Without findings, nothing is printed. -/
theorem printFindings_eq (terminal : Bool) (disk : Disk) (root : Path) (fs : Findings) :
    printFindings terminal disk root fs =
      String.join ((groupsFrom fs 0).map (printGroup terminal disk root)) ++
        if fs = [] then "" else endingLine terminal fs fs.length (groupsFrom fs 0).length := by
  rw [groupsFrom_eq, List.drop_zero, printFindings]
  cases fs with
  | nil => rfl
  | cons d fs => rfl

end CommandLine
end EmojiLint
