import EmojiLint.Proofs.Disk.Replace
import EmojiLint.Proofs.Removal

/-!
# What comes of one file

Cleaning a file replaces it by its text without emoji, or leaves the disk as it is.

* `Disk.Cleans` — a file is a text with an emoji, which can be replaced.
* `Disk.clean_cases` — what comes of a file.
* `Disk.clean_eq_ok_true_iff`, `Disk.clean_eq_notText_iff`, `Disk.clean_eq_error_iff` — what the
  result says.
* `Disk.Alike.clean` — what comes of a file does not depend on what other files hold.
-/

set_option autoImplicit false

namespace EmojiLint
namespace Disk

variable {disk disk' : Disk} {loc : Location} {p : Path} {text : String}
  {permissions : Permissions}

/-! ## One file -/

/-- A file can be read, it is a text with an emoji, and it can be replaced by the text without. -/
def Cleans (disk : Disk) (p : Path) (text : String) : Prop :=
  disk.readText p = .ok text ∧ Emoji.find text ≠ [] ∧
    (disk.replaceText p (Emoji.remove text)).1 = .ok ()

/-- A file can be read, but it is no text. -/
def HoldsNoText (disk : Disk) (p : Path) : Prop :=
  ∃ content, disk.read p = .ok content ∧ String.fromUTF8? content = none

/-- What goes wrong with a file: it cannot be read, or its text with an emoji cannot be replaced. -/
def Fails (disk : Disk) (p : Path) (e : FileError) : Prop :=
  (∃ cause, disk.read p = .error cause ∧ e = .unreadable p cause) ∨
    ∃ text cause, disk.readText p = .ok text ∧ Emoji.find text ≠ [] ∧
      (disk.replaceText p (Emoji.remove text)).1 = .error (.unwritable p cause) ∧
      e = .unwritable p cause

theorem readText_eq_ok_iff : disk.readText p = .ok text ↔ disk.read p = .ok text.toUTF8 := by
  rw [readText]
  cases disk.read p with
  | error e => exact iff_of_false (fun h => nomatch h) (fun h => nomatch h)
  | ok content =>
    dsimp only
    rw [Except.ok.injEq, ← fromUTF8?_eq_some_iff]
    cases String.fromUTF8? content with
    | none => exact iff_of_false (fun h => nomatch h) (fun h => nomatch h)
    | some other => rw [Except.ok.injEq, Option.some_inj]

theorem remove?_of_find_ne_nil (h : Emoji.find text ≠ []) :
    Emoji.remove? text = some (Emoji.remove text) := by
  have hsome : Emoji.remove? text ≠ none := fun hnone => h (Emoji.remove?_eq_none_iff.1 hnone)
  rw [Emoji.remove?] at hsome ⊢
  split at hsome
  · next hany => exact if_pos hany
  · exact absurd rfl hsome

/-- A file with an emoji is replaced. -/
theorem clean_of_find_ne_nil (hread : disk.readText p = .ok text) (hemoji : Emoji.find text ≠ []) :
    disk.clean p =
      (((disk.replace p (Emoji.remove text).toUTF8).1.mapError (.unwritable p)).map fun _ => true,
        (disk.replace p (Emoji.remove text).toUTF8).2) := by
  rw [clean, hread]
  simp only [remove?_of_find_ne_nil hemoji]
  delta replaceText
  generalize disk.replace p (Emoji.remove text).toUTF8 = replaced
  rfl

/-- What comes of a file. -/
theorem clean_cases (disk : Disk) (p : Path) :
    (∃ cause, disk.read p = .error cause ∧ disk.clean p = (.error (.unreadable p cause), disk)) ∨
    (disk.HoldsNoText p ∧ disk.clean p = (.error (.notText p), disk)) ∨
    (∃ text, disk.readText p = .ok text ∧ Emoji.find text = [] ∧
      disk.clean p = (.ok false, disk)) ∨
    ∃ text, disk.readText p = .ok text ∧ Emoji.find text ≠ [] ∧
      disk.clean p =
        (((disk.replace p (Emoji.remove text).toUTF8).1.mapError (.unwritable p)).map fun _ => true,
          (disk.replace p (Emoji.remove text).toUTF8).2) := by
  cases hread : disk.read p with
  | error cause =>
    refine Or.inl ⟨cause, rfl, ?_⟩
    rw [clean, readText, hread]
  | ok content =>
    refine Or.inr ?_
    cases hdecoded : String.fromUTF8? content with
    | none =>
      refine Or.inl ⟨⟨content, hread, hdecoded⟩, ?_⟩
      rw [clean, readText, hread]
      simp only [hdecoded]
    | some text =>
      refine Or.inr ?_
      have htext : disk.readText p = .ok text := by
        rw [readText, hread]
        simp only [hdecoded]
      by_cases hemoji : Emoji.find text = []
      · exact Or.inl ⟨text, htext, hemoji, clean_of_find_eq_nil htext hemoji⟩
      · exact Or.inr ⟨text, htext, hemoji, clean_of_find_ne_nil htext hemoji⟩

/-- Replacing a text fails for its own file. -/
theorem replaceText_fst (disk : Disk) (p : Path) (text : String) :
    (disk.replaceText p text).1 = (disk.replace p text.toUTF8).1.mapError (.unwritable p) := by
  delta replaceText
  generalize disk.replace p text.toUTF8 = replaced
  rfl

/-- A file is rewritten when it is a text with an emoji that can be replaced. -/
theorem clean_eq_ok_true_iff : (disk.clean p).1 = .ok true ↔ ∃ text, disk.Cleans p text := by
  constructor
  · intro h
    rcases clean_cases disk p with ⟨cause, -, heq⟩ | ⟨-, heq⟩ | ⟨text, -, -, heq⟩ |
      ⟨text, htext, hemoji, heq⟩
    · rw [heq] at h; cases h
    · rw [heq] at h; cases h
    · rw [heq] at h; cases h
    · refine ⟨text, htext, hemoji, ?_⟩
      rw [heq] at h
      rw [replaceText_fst]
      cases hreplace : (disk.replace p (Emoji.remove text).toUTF8).1 with
      | ok => rfl
      | error e => rw [hreplace] at h; cases h
  · rintro ⟨text, htext, hemoji, hreplace⟩
    rw [clean, htext]
    simp only [remove?_of_find_ne_nil hemoji, hreplace]
    rfl

/-- A file is skipped when it can be read and is no text. -/
theorem clean_eq_notText_iff :
    (disk.clean p).1 = .error (.notText p) ↔ disk.HoldsNoText p := by
  constructor
  · intro h
    rcases clean_cases disk p with
      ⟨cause, -, heq⟩ | ⟨hno, -⟩ | ⟨text, -, -, heq⟩ | ⟨text, -, -, heq⟩
    · rw [heq] at h; cases h
    · exact hno
    · rw [heq] at h; cases h
    · rw [heq] at h
      cases hreplace : (disk.replace p (Emoji.remove text).toUTF8).1 with
      | ok => rw [hreplace] at h; cases h
      | error e => rw [hreplace] at h; cases h
  · rintro ⟨content, hread, hdecoded⟩
    rw [clean, readText, hread]
    simp only [hdecoded]

/-- What goes wrong with a file is that it is no text, or fails. -/
theorem clean_eq_error_iff {e : FileError} :
    (disk.clean p).1 = .error e ↔ disk.HoldsNoText p ∧ e = .notText p ∨ disk.Fails p e := by
  constructor
  · intro h
    rcases clean_cases disk p with ⟨cause, hread, heq⟩ | ⟨hno, heq⟩ | ⟨text, -, -, heq⟩ |
      ⟨text, htext, hemoji, heq⟩
    · rw [heq] at h
      exact Or.inr (Or.inl ⟨cause, hread, (Except.error.inj h).symm⟩)
    · rw [heq] at h
      exact Or.inl ⟨hno, (Except.error.inj h).symm⟩
    · rw [heq] at h; cases h
    · rw [heq] at h
      refine Or.inr (Or.inr ⟨text, ?_⟩)
      rw [replaceText_fst]
      cases hreplace : (disk.replace p (Emoji.remove text).toUTF8).1 with
      | ok => rw [hreplace] at h; cases h
      | error cause =>
        rw [hreplace] at h
        exact ⟨cause, htext, hemoji, rfl, (Except.error.inj h).symm⟩
  · rintro (⟨hno, rfl⟩ | ⟨cause, hread, rfl⟩ | ⟨text, cause, htext, hemoji, hreplace, rfl⟩)
    · exact clean_eq_notText_iff.2 hno
    · rw [clean, readText, hread]
    · rw [clean, htext]
      simp only [remove?_of_find_ne_nil hemoji, hreplace]
      rfl

/-- Cleaning leaves it to the system what it refuses. -/
theorem refusal_replace (disk : Disk) (p : Path) (content : ByteArray) :
    (disk.replace p content).2.refusal = disk.refusal := by
  delta replace replaceSteps
  cases disk.slot p with
  | error e => rfl
  | ok slot =>
    obtain ⟨folder, name⟩ := slot
    have hreplace := replaceAt_eq disk folder name (disk.permissions? p) content
    dsimp only at hreplace ⊢
    generalize disk.replaceAt folder name (disk.permissions? p) content = replacement at hreplace ⊢
    generalize disk.obstacle? _ _ _ = fault at hreplace
    cases fault with
    | some e => rw [hreplace.2]
    | none => rw [hreplace.2]; rfl

theorem refusal_clean (disk : Disk) (p : Path) : (disk.clean p).2.refusal = disk.refusal := by
  rcases clean_cases disk p with ⟨_, -, heq⟩ | ⟨-, heq⟩ | ⟨_, -, -, heq⟩ | ⟨text, -, -, heq⟩
  · rw [heq]
  · rw [heq]
  · rw [heq]
  · rw [heq]
    exact refusal_replace disk p (Emoji.remove text).toUTF8

/-! ## Disks that differ in other files -/

/-- The disk when the system refuses something else. -/
def refusing (disk : Disk) (refusal : Access → Location → Option OsError) : Disk :=
  { disk with refusal }

namespace Alike

variable (h : Alike disk disk')
include h

theorem refusing (refusal : Access → Location → Option OsError) :
    Alike (disk.refusing refusal) (disk'.refusing refusal) :=
  ⟨h.locations, h.shape⟩

theorem find_eq (hnode : ∀ loc node, disk.find p = .ok (loc, node) → disk'.node? loc = some node) :
    disk'.find p = disk.find p := by
  cases hfind : disk.find p with
  | error e => exact h.find_error hfind
  | ok found =>
    obtain ⟨loc, node⟩ := found
    obtain ⟨node', hfind', hnode', -⟩ := h.find_ok hfind
    rw [hnode loc node hfind, Option.some_inj] at hnode'
    rw [hfind', hnode']

end Alike

theorem alike_refusing (disk : Disk) (refusal : Access → Location → Option OsError) :
    Alike disk (disk.refusing refusal) :=
  ⟨rfl, fun _ => rfl⟩

theorem find_refusing (disk : Disk) (refusal : Access → Location → Option OsError) (p : Path) :
    (disk.refusing refusal).find p = disk.find p :=
  (alike_refusing disk refusal).find_eq fun _ _ (hfind : disk.find p = _) =>
    (node?_of_find hfind : disk.node? _ = _)

theorem IsPlain.refusing (h : disk.IsPlain p loc) (refusal : Access → Location → Option OsError) :
    (disk.refusing refusal).IsPlain p loc := by
  rw [IsPlain, find_refusing, (alike_refusing disk refusal).slot]
  exact h

/-- What was read is in the file that the path leads to. -/
theorem exists_find_of_read {content : ByteArray} (h : disk.read p = .ok content) :
    ∃ loc permissions, disk.find p = .ok (loc, .file content permissions) := by
  rw [read] at h
  split at h
  · cases h
  · next loc content' permissions hfind =>
    split at h
    · cases h
    · exact ⟨loc, permissions, Except.ok.inj h ▸ hfind⟩
  · cases h

/-- What comes of a file with an emoji, where the path leads to the file itself. -/
theorem clean_eq (hread : disk.readText p = .ok text) (hemoji : Emoji.find text ≠ [])
    (hfind : disk.find p = .ok (loc, .file text.toUTF8 permissions)) (hplain : disk.IsPlain p loc) :
    disk.clean p =
      match disk.fault? p with
      | some e => (.error (.unwritable p e), disk)
      | none => (.ok true, disk.set loc (.file (Emoji.remove text).toUTF8 permissions)) := by
  rw [clean_of_find_ne_nil hread hemoji, replace_eq hfind hplain]
  cases disk.fault? p with
  | some e => rfl
  | none => rfl

theorem Alike.readText (h : Alike disk disk') (hrefusal : disk'.refusal = disk.refusal)
    (hnode : ∀ loc node, disk.find p = .ok (loc, node) → disk'.node? loc = some node) :
    disk'.readText p = disk.readText p := by
  rw [Disk.readText, Disk.readText, read, read, h.find_eq hnode, hrefusal]

/-- **What comes of a file does not depend on what other files hold**, and no other file changes. -/
theorem Alike.clean (h : Alike disk disk') (hrefusal : disk'.refusal = disk.refusal)
    (hnode : ∀ loc node, disk.find p = .ok (loc, node) → disk'.node? loc = some node)
    (hplain : ∀ loc node, disk.find p = .ok (loc, node) → disk.IsPlain p loc) :
    (disk'.clean p).1 = (disk.clean p).1 ∧
      ((∀ text, ¬ disk.Cleans p text) ∧ (disk'.clean p).2 = disk' ∨
        ∃ loc text permissions, disk.Cleans p text ∧
          disk.find p = .ok (loc, .file text.toUTF8 permissions) ∧
          (disk'.clean p).2 = disk'.set loc (.file (Emoji.remove text).toUTF8 permissions)) := by
  have hfind' := h.find_eq hnode
  have hread := h.readText hrefusal hnode
  have hkept (hfalse : (disk.clean p).1 ≠ .ok true) : ∀ text, ¬ disk.Cleans p text :=
    fun text hcleans => hfalse (clean_eq_ok_true_iff.2 ⟨text, hcleans⟩)
  cases htext : disk.readText p with
  | error e =>
    rw [htext] at hread
    have hclean : disk.clean p = (.error e, disk) := by rw [Disk.clean, htext]
    have hclean' : disk'.clean p = (.error e, disk') := by rw [Disk.clean, hread]
    rw [hclean] at hkept ⊢
    rw [hclean']
    exact ⟨rfl, .inl ⟨hkept (by simp), rfl⟩⟩
  | ok text =>
    rw [htext] at hread
    by_cases hemoji : Emoji.find text = []
    · have hclean := clean_of_find_eq_nil htext hemoji
      rw [hclean] at hkept ⊢
      rw [clean_of_find_eq_nil hread hemoji]
      exact ⟨rfl, .inl ⟨hkept (by simp), rfl⟩⟩
    · obtain ⟨loc, permissions, hfind⟩ := exists_find_of_read (readText_eq_ok_iff.1 htext)
      have hloc' : disk'.IsPlain p loc := by
        rw [IsPlain, hfind', h.slot]
        exact hplain loc _ hfind
      have hclean := clean_eq htext hemoji hfind (hplain loc _ hfind)
      have hclean' := clean_eq hread hemoji (hfind'.trans hfind) hloc'
      rw [h.fault? hrefusal] at hclean'
      cases hfault : disk.fault? p with
      | some e =>
        rw [hfault] at hclean hclean'
        rw [hclean] at hkept ⊢
        rw [hclean']
        exact ⟨rfl, .inl ⟨hkept (by simp), rfl⟩⟩
      | none =>
        rw [hfault] at hclean hclean'
        have htrue : (disk.clean p).1 = .ok true := by rw [hclean]
        obtain ⟨other, hcleans⟩ := clean_eq_ok_true_iff.1 htrue
        obtain rfl := Except.ok.inj (htext.symm.trans hcleans.1)
        rw [hclean, hclean']
        exact ⟨rfl, .inr ⟨loc, text, permissions, hcleans, hfind, rfl⟩⟩

end Disk
end EmojiLint
