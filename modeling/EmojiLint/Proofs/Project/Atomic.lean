import EmojiLint.Proofs.Disk.Moments
import EmojiLint.Proofs.Project.Clean

/-!
# A file is rewritten in whole or not at all

Whenever somebody looks while a file is being rewritten, and wherever the rewriting stops, the file
is what it was or what it will be.  Cleaning rewrites a file only if it is a text with an emoji.

* `Disk.clean_of_forall` — what is not a text with an emoji is not written at all.
* `Disk.replace_allOrNothing` — what may be seen while a file is replaced, how that ends, and how
  cleaning does it.
-/

set_option autoImplicit false

namespace EmojiLint
namespace Disk

/-- What is not a text with an emoji is not written at all. -/
theorem clean_of_forall {disk : Disk} {p : Path}
    (h : ∀ text, disk.readText p = .ok text → Emoji.find text = []) :
    (disk.clean p).1 ≠ .ok true ∧ (disk.clean p).2 = disk := by
  rcases clean_cases disk p with
    ⟨_, -, heq⟩ | ⟨-, heq⟩ | ⟨_, -, -, heq⟩ | ⟨text, htext, hemoji, -⟩
  · simp [heq]
  · simp [heq]
  · simp [heq]
  · exact absurd (h text htext) hemoji

/-- **A file is replaced in whole or not at all.**  A path that has no place is not replaced.  With
a file or nothing at its place, whatever step fails and whenever somebody looks, the path leads to
what it led to or to all of the new content; after an error the disk is what it was, and otherwise
the path leads to the new content with the permissions that it had.  The steps of the program are
such steps, as the file of its own has a name of its own.  Cleaning replaces a text that holds an
emoji and writes nothing else. -/
theorem replace_allOrNothing (disk : Disk) (p : Path) :
    (∀ e, disk.slot p = .error e → ∀ content,
      disk.replaceSteps p content = ⟨[], disk, .error e⟩) ∧
    (∀ target, Replaceable disk p target → ∀ content,
      (∀ m, disk.Reaches p content m → AllOrNothing disk p target content m) ∧
      (p.name? ≠ some disk.freshName →
        (disk.replaceSteps p content).IsRun disk p content ∧
        Outcome disk p target content (disk.replace p content).2 (disk.replace p content).1)) ∧
    (∀ text, disk.readText p = .ok text → Emoji.find text ≠ [] →
      disk.clean p =
        (((disk.replace p (Emoji.remove text).toUTF8).1.mapError (.unwritable p)).map fun _ => true,
          (disk.replace p (Emoji.remove text).toUTF8).2)) ∧
    ((∀ text, disk.readText p = .ok text → Emoji.find text = []) →
      (disk.clean p).1 ≠ .ok true ∧ (disk.clean p).2 = disk) := by
  refine ⟨fun e hslot content => ?_, fun target htarget content =>
      ⟨fun m => allOrNothing_of_reaches htarget, fun hfresh => ?_⟩,
    fun text => clean_of_find_ne_nil, clean_of_forall⟩
  · delta replaceSteps
    rw [hslot]
  · have hrun := isRun_replaceSteps htarget hfresh content
    exact ⟨hrun, (allOrNothing_of_reaches htarget hrun.last).outcome _ rfl⟩

end Disk

namespace Project

/-- A file that was there keeps its permissions. -/
theorem replace_allOrNothing_twoFiles :
    (Disk.Replaceable twoFiles (atRoot "a").path ["a"] ∧
      (atRoot "a").path.name? ≠ some twoFiles.freshName) ∧
    (twoFiles.replace (atRoot "a").path "1".toUTF8).2.find (atRoot "a").path =
      .ok (["a"], .file "1".toUTF8 Disk.filePermissions) := by
  have hslot : twoFiles.slot (atRoot "a").path = .ok ([], "a") := slot_atRoot (by decide)
  have htarget : Disk.Replaceable twoFiles (atRoot "a").path ["a"] :=
    ⟨⟨[], "a", hslot, rfl⟩, Or.inr ⟨_, _, rfl⟩⟩
  have hfresh : (atRoot "a").path.name? ≠ some twoFiles.freshName := by decide
  have hpermissions : twoFiles.permissions? (atRoot "a").path = some Disk.filePermissions := by
    rw [Disk.permissions?, find_threeFiles.1]
  have hresult : (twoFiles.replace (atRoot "a").path "1".toUTF8).1 = .ok () := by
    delta Disk.replace Disk.replaceSteps
    rw [hslot, hpermissions]
    rfl
  obtain ⟨-, hprogram⟩ := (Disk.replace_allOrNothing twoFiles (atRoot "a").path).2.1 ["a"]
    htarget "1".toUTF8
  obtain ⟨-, houtcome⟩ := hprogram hfresh
  rw [hresult, Disk.Outcome, Disk.keptPermissions, hpermissions] at houtcome
  exact ⟨⟨htarget, hfresh⟩, houtcome.1⟩

end Project
end EmojiLint
