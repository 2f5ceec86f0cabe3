import EmojiLint.Project.Basic
import EmojiLint.Proofs.Project.File

/-!
# What a report counts

A report is put together from the outcomes of the files, one after the other.

* `CleanReport.isChange`, `isSkip`, `failure?` — what an outcome counts as, and when a file has such
  an outcome.
* `CleanReport.foldl_add` — a report counts every outcome once.
-/

set_option autoImplicit false

namespace EmojiLint
namespace CleanReport

/-- Whether an outcome says that a file was rewritten. -/
def isChange : Except FileError Bool → Bool
  | .ok changed => changed
  | .error _ => false

/-- Whether an outcome says that a file was skipped. -/
def isSkip : Except FileError Bool → Bool
  | .ok _ => false
  | .error e => e.isNotText

/-- The failure that an outcome is. -/
def failure? : Except FileError Bool → Option FileError
  | .ok _ => none
  | .error e => if e.isNotText then none else some e

theorem isChange_clean_iff {disk : Disk} {p : Path} :
    isChange (disk.clean p).1 = true ↔ ∃ text, disk.Cleans p text := by
  rw [← Disk.clean_eq_ok_true_iff]
  cases (disk.clean p).1 with
  | ok changed => rw [isChange, Except.ok.injEq]
  | error e => exact iff_of_false Bool.false_ne_true (fun h => nomatch h)

theorem isNotText_of_fails {disk : Disk} {p : Path} {e : FileError} (h : disk.Fails p e) :
    e.isNotText = false := by
  rcases h with ⟨_, _, rfl⟩ | ⟨_, _, _, _, _, rfl⟩ <;> rfl

theorem isSkip_clean_iff {disk : Disk} {p : Path} :
    isSkip (disk.clean p).1 = true ↔ disk.HoldsNoText p := by
  refine ⟨fun h => ?_, fun h => by rw [Disk.clean_eq_notText_iff.2 h]; rfl⟩
  cases hclean : (disk.clean p).1 with
  | ok changed => rw [hclean] at h; cases h
  | error e =>
    rcases Disk.clean_eq_error_iff.1 hclean with ⟨hno, -⟩ | hfails
    · exact hno
    · rw [hclean, isSkip, isNotText_of_fails hfails] at h
      cases h

theorem failure?_clean_eq_some_iff {disk : Disk} {p : Path} {e : FileError} :
    failure? (disk.clean p).1 = some e ↔ disk.Fails p e := by
  refine ⟨fun h => ?_, fun h => ?_⟩
  · cases hclean : (disk.clean p).1 with
    | ok changed => rw [hclean] at h; cases h
    | error other =>
      rw [hclean, failure?] at h
      split at h
      · cases h
      · next hother =>
        obtain rfl := Option.some_inj.1 h
        rcases Disk.clean_eq_error_iff.1 hclean with ⟨-, rfl⟩ | hfails
        · exact absurd rfl hother
        · exact hfails
  · rw [Disk.clean_eq_error_iff.2 (Or.inr h), failure?, isNotText_of_fails h]
    rfl

instance (disk : Disk) (p : Path) : Decidable (∃ text, disk.Cleans p text) :=
  decidable_of_iff _ isChange_clean_iff

instance (disk : Disk) (p : Path) : Decidable (disk.HoldsNoText p) :=
  decidable_of_iff _ isSkip_clean_iff

theorem add_eq (report : CleanReport) (outcome : Except FileError Bool) :
    report.add outcome =
      { report with
        changed := report.changed + if isChange outcome then 1 else 0
        skipped := report.skipped + if isSkip outcome then 1 else 0
        failures := report.failures ++ (failure? outcome).toList } := by
  cases outcome with
  | ok changed => cases changed <;> simp [add, isChange, isSkip, failure?]
  | error e => cases e <;> simp [add, isChange, isSkip, failure?, FileError.isNotText]

/-- Every outcome is counted once. -/
theorem foldl_add (outcomes : List (Except FileError Bool)) (report : CleanReport) :
    outcomes.foldl add report =
      { report with
        changed := report.changed + outcomes.countP isChange
        skipped := report.skipped + outcomes.countP isSkip
        failures := report.failures ++ outcomes.filterMap failure? } := by
  induction outcomes generalizing report with
  | nil => simp
  | cons outcome outcomes ih =>
    rw [List.foldl_cons, ih, add_eq, List.countP_cons, List.countP_cons, List.filterMap_cons]
    cases failure? outcome <;>
      simp only [Option.toList, List.append_nil, List.append_assoc, List.singleton_append,
        CleanReport.mk.injEq, true_and, and_true] <;>
      constructor <;> split <;> omega

end CleanReport
end EmojiLint
