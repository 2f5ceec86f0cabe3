import EmojiLint.Proofs.Disk.Follow
import EmojiLint.Proofs.Settings.Exclude
import EmojiLint.Workspace

/-!
# Excluding from an editor

Excluding a path changes the settings of the workspace first, and the settings file of the root
after that.  Only the file can fail, and by then the pattern is in force: nothing is taken back.

* `isExcluded_exclude`, `diagnostics_exclude` — what is excluded and reported afterwards.
* `exclude_eq_self_iff` — when the workspace is what it was.
* `exclude_inForce` — the pattern is in force afterwards, whatever came of the settings file.
* `exclude_failed_inForce` — a workspace that is not what it was although excluding failed.
-/

set_option autoImplicit false

namespace EmojiLint
namespace Workspace

open Exclude (Matcher)

variable {ws : Workspace} {disk : Disk} {p : Path} {target : Exclude.Target} {e : SettingsError}

/-- Whether a pattern alone would exclude an open document. -/
def wouldExclude (ws : Workspace) (pattern uri : String) : Bool :=
  ((ws.document? uri).bind Document.path).any fun path =>
    (Matcher.ofPatterns [pattern]).excludes (ws.relative path)

/-- The workspace after excluding, whatever came of the settings file. -/
theorem workspace_exclude : (ws.exclude disk p target).2.1 =
    { ws with
      settings := (ws.settings.addPattern? (ws.exclusionPattern p target)).getD ws.settings } := by
  rw [exclude]
  dsimp only
  split <;> rfl

/-- Excluding fails when the settings file of the root does. -/
theorem exclude_eq_error_iff : (ws.exclude disk p target).1 = .error e ↔
    ∃ root, ws.root = some root ∧
      (Settings.addPatternToFile disk (root.child Settings.fileName)
        (ws.exclusionPattern p target)).1 = .error e := by
  rw [exclude]
  dsimp only
  rw [settingsPath?]
  cases ws.root with
  | none => simp
  | some root =>
    simp only [Option.map_some, Option.some.injEq, exists_eq_left']
    cases (Settings.addPatternToFile disk (root.child Settings.fileName)
      (ws.exclusionPattern p target)).1 <;> simp [Except.map]

/-- **The workspace is what it was only when the pattern changes nothing.** -/
theorem exclude_eq_self_iff : (ws.exclude disk p target).2.1 = ws ↔
    ws.settings.addPattern? (ws.exclusionPattern p target) = none := by
  rw [workspace_exclude]
  cases h : ws.settings.addPattern? (ws.exclusionPattern p target) with
  | none => exact iff_of_true rfl rfl
  | some settings =>
    refine iff_of_false (fun heq => ?_) (Option.some_ne_none settings)
    exact Settings.ne_of_addPattern? h (congrArg Workspace.settings heq)

theorem isExcluded_eq_any (ws : Workspace) (uri : String) : ws.isExcluded uri =
    ((ws.document? uri).bind Document.path).any fun path =>
      ws.settings.matcher.excludes (ws.relative path) := by
  rw [isExcluded]
  split
  · next h => rw [h, Option.any_none]
  · next path h => rw [h, Option.any_some]

/-- **What is excluded afterwards**: what was, and what the pattern excludes. -/
theorem isExcluded_exclude (uri : String) : (ws.exclude disk p target).2.1.isExcluded uri =
    (ws.isExcluded uri || ws.wouldExclude (ws.exclusionPattern p target) uri) := by
  rw [isExcluded_eq_any, isExcluded_eq_any, workspace_exclude, wouldExclude]
  show Option.any _ ((ws.document? uri).bind Document.path) = _
  cases (ws.document? uri).bind Document.path with
  | none => rfl
  | some path => exact Settings.excludes_getD_addPattern? _ _ (ws.relative path)

/-- **What is reported afterwards**: nothing for what the pattern excludes, and the same for the
rest. -/
theorem diagnostics_exclude (uri : String) : (ws.exclude disk p target).2.1.diagnostics uri =
    if ws.wouldExclude (ws.exclusionPattern p target) uri then [] else ws.diagnostics uri := by
  have hsettings : ∀ text language,
      diagnose (ws.exclude disk p target).2.1.settings none text language =
        diagnose ws.settings none text language := by
    intro text language
    rw [workspace_exclude]
    exact Settings.diagnose_getD_addPattern? _ _ text language
  have hdocument : (ws.exclude disk p target).2.1.document? uri = ws.document? uri := by
    rw [workspace_exclude]
    rfl
  rw [diagnostics, diagnostics, isExcluded_exclude, hdocument]
  cases ws.document? uri with
  | none => exact (ite_self []).symm
  | some doc =>
    dsimp only
    rw [hsettings]
    cases ws.wouldExclude (ws.exclusionPattern p target) uri with
    | false => rw [Bool.or_false]; rfl
    | true => rw [Bool.or_true, Bool.or_true]; rfl

/-- **After excluding the pattern is in force, whether or not the settings file could be changed.**
Excluding fails when the settings file does.  Also then the settings stay the same only if the
pattern is blank or there already, and otherwise the documents that the pattern excludes are
excluded and have no diagnostics any more. -/
theorem exclude_inForce (ws : Workspace) (disk : Disk) (p : Path) (target : Exclude.Target) :
    (∀ e, (ws.exclude disk p target).1 = .error e ↔
      ∃ root, ws.root = some root ∧
        (Settings.addPatternToFile disk (root.child Settings.fileName)
          (ws.exclusionPattern p target)).1 = .error e) ∧
    ((ws.exclude disk p target).2.1 = ws ↔
      Exclude.normalPattern (ws.exclusionPattern p target) = [] ∨
        Exclude.normalPattern (ws.exclusionPattern p target) ∈ ws.settings.normalPatterns) ∧
    (∀ uri, (ws.exclude disk p target).2.1.isExcluded uri =
      (ws.isExcluded uri || ws.wouldExclude (ws.exclusionPattern p target) uri)) ∧
    ∀ uri, (ws.exclude disk p target).2.1.diagnostics uri =
      if ws.wouldExclude (ws.exclusionPattern p target) uri then [] else ws.diagnostics uri :=
  ⟨fun _ => exclude_eq_error_iff, exclude_eq_self_iff.trans Settings.addPattern?_eq_none_iff,
    isExcluded_exclude, diagnostics_exclude⟩

/-! ## A settings file that ends too early -/

/-- A workspace with one document in its root, which is an emoji. -/
def sample : Workspace where
  documents := [("file:///w/a.txt", ⟨some (.ofText "/w/a.txt"), "😀", "plaintext", 1⟩)]
  root := some (.ofText "/w")

/-- A disk on which the settings file of the root is empty. -/
def sampleDisk : Disk where
  entries := [(["w"], .folder Disk.folderPermissions),
    (["w", ".emojieraser.json"], .file "".toUTF8 Disk.filePermissions)]

theorem addPatternToFile_sampleDisk :
    (Settings.addPatternToFile sampleDisk (.ofText "/w/.emojieraser.json") "a.txt").1 =
      .error (.invalid (.ofText "/w/.emojieraser.json") .ended) := by
  have hhops : Disk.hops (.ofText "/w/.emojieraser.json") =
      [.name "w", .name ".emojieraser.json"] := by decide
  have hfault : Disk.pathFault? (.ofText "/w/.emojieraser.json") = none := by decide
  have hleads : Disk.Leads sampleDisk Disk.linkLimit [] [.name "w", .name ".emojieraser.json"]
      Disk.linkLimit ["w", ".emojieraser.json"] :=
    .name rfl (by decide) rfl (fun _ h => nomatch h)
      (.name rfl (by decide) rfl (fun _ h => nomatch h) .done)
  have hfind : sampleDisk.find (.ofText "/w/.emojieraser.json") =
      .ok (["w", ".emojieraser.json"], .file "".toUTF8 Disk.filePermissions) :=
    Disk.find_of_leads hfault (hhops ▸ hleads) rfl
  have hread : sampleDisk.read (.ofText "/w/.emojieraser.json") = .ok "".toUTF8 := by
    rw [Disk.read, hfind]
    rfl
  have htext : String.fromUTF8? "".toUTF8 = some "" := by decide
  have hfault : Settings.read "" = .error .ended := rfl
  rw [Settings.addPatternToFile, Settings.load, hread]
  simp only [htext, hfault]
  rfl

/-- **A document loses its diagnostics although excluding it failed.** -/
theorem exclude_failed_inForce :
    (sample.exclude sampleDisk (.ofText "/w/a.txt") .file).1 =
        .error (.invalid (.ofText "/w/.emojieraser.json") .ended) ∧
      sample.settings.excludePatterns = [] ∧
      (sample.exclude sampleDisk (.ofText "/w/a.txt") .file).2.1.settings.excludePatterns =
        ["a.txt"] ∧
      sample.isExcluded "file:///w/a.txt" = false ∧
      (sample.exclude sampleDisk (.ofText "/w/a.txt") .file).2.1.isExcluded "file:///w/a.txt" =
        true ∧
      sample.diagnostics "file:///w/a.txt" = [.ofRule .emojiDetected none ⟨0, 4⟩ .error] ∧
      (sample.exclude sampleDisk (.ofText "/w/a.txt") .file).2.1.diagnostics "file:///w/a.txt" =
        [] := by
  have hpattern : sample.exclusionPattern (.ofText "/w/a.txt") .file = "a.txt" := by decide
  have hwould : sample.wouldExclude "a.txt" "file:///w/a.txt" = true := by decide
  have hpath : (Path.ofText "/w").child Settings.fileName = .ofText "/w/.emojieraser.json" := by
    decide
  refine ⟨?_, rfl, ?_, by decide, ?_, by decide +kernel, ?_⟩
  · refine exclude_eq_error_iff.2 ⟨.ofText "/w", rfl, ?_⟩
    rw [hpattern, hpath]
    exact addPatternToFile_sampleDisk
  · rw [workspace_exclude, hpattern]
    decide
  · rw [isExcluded_exclude, hpattern, hwould, Bool.or_true]
  · rw [diagnostics_exclude, hpattern, hwould, if_pos rfl]

end Workspace
end EmojiLint
