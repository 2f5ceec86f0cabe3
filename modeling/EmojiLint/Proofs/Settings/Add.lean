import EmojiLint.Proofs.Settings.Exclude
import EmojiLint.Proofs.Settings.File

/-!
# A pattern is added to the settings file once

Between loading the settings and saving them with one more pattern lie the reader, the normal forms
of the patterns and the printer.  Whatever the file held before, it holds the settings with the
pattern afterwards, and asking for the same pattern again finds it there.

* `Holds` — the settings that a settings file stands for, also when it is missing.
* `addPatternToFile_of_load` — what comes of a pattern, given the settings that were loaded.
* `addPatternToFile_persists` — what is loaded after a pattern was added, and what is left alone.
-/

set_option autoImplicit false

namespace EmojiLint
namespace Settings

variable {settings new : Settings} {disk disk' : Disk} {p : Path} {pattern : String} {added : Bool}
  {e : SettingsError}

/-! ## What a settings file holds -/

/-- A settings file holds settings: it is missing, and they are the defaults, or its text reads as
them. -/
def Holds (disk : Disk) (p : Path) (settings : Settings) : Prop :=
  (disk.read p = .error .notFound ∧ settings = {}) ∨
    ∃ text : String, disk.read p = .ok text.toUTF8 ∧ read text = .ok settings

theorem holds_of_load (h : load disk p = .ok settings) : Holds disk p settings := by
  rw [load] at h
  split at h
  · next hmissing => exact Or.inl ⟨hmissing, (Except.ok.inj h).symm⟩
  · cases h
  · next content hread =>
    split at h
    · cases h
    · next text htext =>
      rw [Disk.fromUTF8?_eq_some_iff] at htext
      refine Or.inr ⟨text, htext ▸ hread, ?_⟩
      cases hsettings : read text with
      | error fault => rw [hsettings] at h; cases h
      | ok loaded => rw [hsettings] at h; exact congrArg Except.ok (Except.ok.inj h)

/-- **The settings that a file holds are those that are loaded from it.** -/
theorem load_eq_ok_iff : load disk p = .ok settings ↔ Holds disk p settings := by
  refine ⟨holds_of_load, ?_⟩
  rintro (⟨hmissing, rfl⟩ | ⟨text, hread, hsettings⟩)
  · rw [load, hmissing]
  · rw [load, hread]
    simp only [Disk.fromUTF8?_eq_some_iff.2 rfl, hsettings]
    rfl

/-- A file that holds settings could be read, or was missing. -/
theorem Holds.read (h : Holds disk p settings) :
    disk.read p = .error .notFound ∨ ∃ content, disk.read p = .ok content :=
  h.imp And.left fun ⟨text, hread, _⟩ => ⟨text.toUTF8, hread⟩

/-! ## One more pattern -/

/-- What is saved where settings could be loaded is loaded from there. -/
theorem load_of_save_of_holds (h : new.save disk p = .ok disk') (hholds : Holds disk p settings)
    (hstored : disk.RefusesOnlyStored) : load disk' p = .ok new :=
  load_of_read (Disk.read_of_write_of_read (write_of_save h) hstored hholds.read)

/-- **What comes of a pattern**: nothing when it changes nothing; otherwise the settings with the
pattern are saved, and if that fails the disk stays as it was. -/
theorem addPatternToFile_of_load (h : load disk p = .ok settings) :
    addPatternToFile disk p pattern =
      match settings.addPattern? pattern with
      | none => (.ok false, disk)
      | some new =>
        match new.save disk p with
        | .error e => (.error e, disk)
        | .ok disk' => (.ok true, disk') := by
  unfold addPatternToFile
  cases hload : load disk p with
  | error e =>
    rw [hload] at h
    cases h
  | ok loaded =>
    obtain rfl := Except.ok.inj (hload.symm.trans h)
    rfl

/-- Settings that cannot be loaded are left alone. -/
theorem addPatternToFile_of_load_error (h : load disk p = .error e) :
    addPatternToFile disk p pattern = (.error e, disk) := by
  rw [addPatternToFile, h]

/-- A pattern that changes nothing is not written. -/
theorem addPatternToFile_of_addPattern?_eq_none (h : load disk p = .ok settings)
    (hnone : settings.addPattern? pattern = none) :
    addPatternToFile disk p pattern = (.ok false, disk) := by
  rw [addPatternToFile_of_load h, hnone]

/-- After a pattern was added, the settings with the pattern are loaded. -/
theorem load_of_addPatternToFile (hholds : Holds disk p settings)
    (hstored : disk.RefusesOnlyStored)
    (h : addPatternToFile disk p pattern = (.ok added, disk')) :
    added = (settings.addPattern? pattern).isSome ∧
      load disk' p = .ok ((settings.addPattern? pattern).getD settings) ∧
      (added = false → disk' = disk) := by
  have hload := load_eq_ok_iff.2 hholds
  rw [addPatternToFile_of_load hload] at h
  split at h
  · next hnone =>
    rw [Prod.mk.injEq, Except.ok.injEq] at h
    obtain ⟨rfl, rfl⟩ := h
    rw [hnone]
    exact ⟨rfl, hload, fun _ => rfl⟩
  · next new hnew =>
    split at h
    · cases h
    · next saved hsave =>
      rw [Prod.mk.injEq, Except.ok.injEq] at h
      obtain ⟨rfl, rfl⟩ := h
      rw [hnew]
      exact ⟨rfl, load_of_save_of_holds hsave hholds hstored, fun h => nomatch h⟩

/-- Adding a pattern to settings that were loaded fails only when they cannot be saved. -/
theorem save_eq_error_of_addPatternToFile (h : load disk p = .ok settings)
    (hfails : addPatternToFile disk p pattern = (.error e, disk')) :
    ∃ new, settings.addPattern? pattern = some new ∧ new.save disk p = .error e := by
  rw [addPatternToFile_of_load h] at hfails
  split at hfails
  · cases hfails
  · next new hnew =>
    split at hfails
    · next e' hsave =>
      rw [Prod.mk.injEq, Except.error.injEq] at hfails
      obtain ⟨rfl, rfl⟩ := hfails
      exact ⟨new, hnew, hsave⟩
    · cases hfails

/-- **A pattern is added once, and nothing else is changed.**  When the file holds settings and a
pattern was added to it, or found there, then the file holds the settings with the pattern; they
differ from those before in nothing but the patterns; if the pattern was not new, the disk is as it
was; and adding the pattern again finds it there and leaves the disk as it is.  Adding it fails only
when the settings with the pattern cannot be saved.  A file that cannot be loaded is left alone with
its error. -/
theorem addPatternToFile_persists (disk : Disk) (p : Path) (pattern : String)
    (hstored : disk.RefusesOnlyStored) :
    (∀ settings, Holds disk p settings →
      (∀ added disk', addPatternToFile disk p pattern = (.ok added, disk') →
        added = (settings.addPattern? pattern).isSome ∧
        load disk' p = .ok ((settings.addPattern? pattern).getD settings) ∧
        (∃ patterns, (settings.addPattern? pattern).getD settings =
          { settings with excludePatterns := patterns }) ∧
        (added = false → disk' = disk) ∧
        addPatternToFile disk' p pattern = (.ok false, disk')) ∧
      ∀ e disk', addPatternToFile disk p pattern = (.error e, disk') →
        ∃ new, settings.addPattern? pattern = some new ∧ new.save disk p = .error e) ∧
      ∀ e, load disk p = .error e → addPatternToFile disk p pattern = (.error e, disk) := by
  refine ⟨fun settings hholds => ⟨fun added disk' h => ?_, fun e disk' => ?_⟩,
    fun e => addPatternToFile_of_load_error⟩
  · obtain ⟨hadded, hload, hsame⟩ := load_of_addPatternToFile hholds hstored h
    refine ⟨hadded, hload, getD_addPattern?_eq settings pattern, hsame, ?_⟩
    exact addPatternToFile_of_addPattern?_eq_none hload
      (addPattern?_getD_addPattern? settings pattern)
  · exact save_eq_error_of_addPatternToFile (load_eq_ok_iff.2 hholds)

/-- Settings with a pattern in two spellings, and a blank one. -/
def untidy : Settings :=
  { severity := .hint, excludePatterns := [" a\\b ", "", "a/b"] }

/-- The same settings with one more pattern. -/
def tidied : Settings :=
  { severity := .hint, excludePatterns := ["a/b", "a/b", "c/d"] }

/-- Where the settings are kept. -/
def untidyFile : Path := .ofText "/.emojieraser.json"

/-- A disk with nothing but the settings. -/
def untidyDisk : Disk where
  entries := [([".emojieraser.json"], .file untidy.fileText.toUTF8 Disk.filePermissions)]

theorem addPatternToFile_persists_untidy :
    ∃ disk', addPatternToFile untidyDisk untidyFile "c\\d " = (.ok true, disk') ∧
      load disk' untidyFile = .ok tidied ∧
      addPatternToFile disk' untidyFile "c\\d " = (.ok false, disk') := by
  have hhops : Disk.hops untidyFile = [.name ".emojieraser.json"] := by decide
  have hfault : Disk.pathFault? untidyFile = none := by decide
  have hlength : ¬ Disk.nameLimit < ".emojieraser.json".utf8ByteSize := by decide
  have hspot (creating : Bool) :
      untidyDisk.spot creating untidyFile = .ok (.found [".emojieraser.json"]) := by
    rw [Disk.spot, hfault, hhops, Disk.follow]
    simp [untidyDisk, Disk.node?, hlength, Disk.follow]
  have hread : untidyDisk.read untidyFile = .ok untidy.fileText.toUTF8 := by
    rw [Disk.read, Disk.find, hspot]
    rfl
  have hholds : Holds untidyDisk untidyFile untidy := Or.inr ⟨_, hread, read_fileText untidy⟩
  have hnew : untidy.addPattern? "c\\d " = some tidied := by decide
  obtain ⟨disk', hsave⟩ : ∃ disk', tidied.save untidyDisk untidyFile = .ok disk' := by
    rw [save, Disk.write, hspot]
    exact ⟨_, rfl⟩
  have hadded : addPatternToFile untidyDisk untidyFile "c\\d " = (.ok true, disk') := by
    rw [addPatternToFile_of_load (load_eq_ok_iff.2 hholds), hnew]
    simp only [hsave]
  obtain ⟨-, hload, -, -, hagain⟩ :=
    ((addPatternToFile_persists untidyDisk untidyFile "c\\d " (fun _ _ h => by cases h)).1 untidy
      hholds).1 true disk' hadded
  exact ⟨disk', hadded, by rw [hload, hnew]; rfl, hagain⟩

end Settings
end EmojiLint
