import EmojiLint.Proofs.Disk.Write
import EmojiLint.Proofs.Settings.Print
import EmojiLint.Settings.File

/-!
# Settings that were saved are loaded again

Between saving and loading lie the text of the file, its bytes and the disk, and each of them gives
back what went into it.

* `load_of_save` — what was saved at a path is what is loaded from it.
* `save_survives` — no settings are changed by saving and loading, and saving what was loaded writes
  the same bytes again.
-/

set_option autoImplicit false

namespace EmojiLint
namespace Settings

variable {settings : Settings} {disk disk' : Disk} {p : Path}

theorem write_of_save (h : settings.save disk p = .ok disk') :
    disk.write p settings.fileText.toUTF8 = .ok disk' := by
  rw [save] at h
  cases hwrite : disk.write p settings.fileText.toUTF8 with
  | error e => rw [hwrite] at h; cases h
  | ok written => rw [hwrite] at h; exact congrArg Except.ok (Except.ok.inj h)

theorem load_of_read (h : disk.read p = .ok settings.fileText.toUTF8) :
    load disk p = .ok settings := by
  rw [load, h]
  simp only [Disk.fromUTF8?_eq_some_iff.2 rfl, read_fileText]
  rfl

/-- **What was saved at a path is loaded from it.** -/
theorem load_of_save (h : settings.save disk p = .ok disk')
    (hreads : ∀ loc, disk.refusal .readFile loc = none) : load disk' p = .ok settings :=
  load_of_read (Disk.read_of_write (write_of_save h) hreads)

/-- **Settings survive a save and a load.**  The text that is written reads as the settings, and
what was read is written as the same bytes.  So does the file at any path, wherever the path leads,
as long as the system lets it be written and read. -/
theorem save_survives (settings : Settings) :
    read settings.fileText = .ok settings ∧
      (∀ loaded, read settings.fileText = .ok loaded →
        loaded.fileText.toUTF8 = settings.fileText.toUTF8) ∧
      ∀ (disk disk' : Disk) (p : Path), settings.save disk p = .ok disk' →
        (∀ loc, disk.refusal .readFile loc = none) →
          disk'.read p = .ok settings.fileText.toUTF8 ∧ load disk' p = .ok settings := by
  refine ⟨read_fileText settings, ?_, ?_⟩
  · intro loaded h
    obtain rfl := Except.ok.inj (h.symm.trans (read_fileText settings))
    rfl
  · intro disk disk' p hsave hreads
    exact ⟨Disk.read_of_write (write_of_save hsave) hreads, load_of_save hsave hreads⟩

/-- Patterns may hold what a string has to escape, and nothing at all. -/
def awkward : Settings :=
  { severity := .hint, excludePatterns := ["a\"b\\c\n", "\x00😀", ""] }

theorem save_survives_awkward :
    ∃ disk', awkward.save {} (.ofText "/.emojieraser.json") = .ok disk' ∧
      load disk' (.ofText "/.emojieraser.json") = .ok awkward := by
  have hhops : Disk.hops (.ofText "/.emojieraser.json") = [.name ".emojieraser.json"] := by decide
  have hfault : Disk.pathFault? (.ofText "/.emojieraser.json") = none := by decide
  have hspot : ({} : Disk).spot true (.ofText "/.emojieraser.json") =
      .ok (.free [".emojieraser.json"]) := by
    rw [Disk.spot, hfault, hhops, Disk.follow]
    rfl
  have hsave : awkward.save {} (.ofText "/.emojieraser.json") = .ok (({} : Disk).set
      [".emojieraser.json"] (.file awkward.fileText.toUTF8 Disk.filePermissions)) := by
    rw [save, Disk.write, hspot]
    rfl
  exact ⟨_, hsave, ((save_survives awkward).2.2 _ _ _ hsave fun _ => rfl).2⟩

end Settings
end EmojiLint
