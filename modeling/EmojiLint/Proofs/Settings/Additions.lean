import EmojiLint.Proofs.Settings.Exclude
import Mathlib.Data.List.Induction
import Mathlib.Data.List.Nodup

/-!
# Patterns added one after the other

The patterns in the settings stay as they were spelled until one is accepted, and from then on all
of them are in normal form.  What is compared is the normal form in either case, so the call at
which the others are rewritten does not show in what is accepted later.

* `addAll`, `accepted` — the settings after some calls, and what was accepted on the way.
* `normalPatterns_addAll` — what was accepted stands behind what was there.
* `inNormalForm_addAll` — the spelling of the patterns once one was accepted.
* `accepted_eq` — what is accepted are the first occurrences of what was not there.
* `addAll_keeps_first` — all of this about any settings and any calls.
-/

set_option autoImplicit false

namespace EmojiLint
namespace Exclude

variable {pattern : String} {patterns : List String} {text : List Char} {texts : List (List Char)}

/-- The patterns that are not blank, in normal form. -/
def normalForms (patterns : List String) : List (List Char) :=
  (patterns.map normalPattern).filter fun text => !text.isEmpty

theorem normalForms_cons_of_blank (h : normalPattern pattern = []) :
    normalForms (pattern :: patterns) = normalForms patterns :=
  List.filter_cons_of_neg (by rw [h]; exact Bool.false_ne_true)

theorem normalForms_cons_of_ne (h : normalPattern pattern ≠ []) :
    normalForms (pattern :: patterns) = normalPattern pattern :: normalForms patterns :=
  List.filter_cons_of_pos (by rwa [Bool.not_eq_true', List.isEmpty_eq_false_iff])

theorem mem_normalForms_iff : text ∈ normalForms patterns ↔
    text ≠ [] ∧ ∃ pattern ∈ patterns, normalPattern pattern = text := by
  rw [normalForms, List.mem_filter, List.mem_map, Bool.not_eq_true', List.isEmpty_eq_false_iff,
    and_comm]

/-- Normal forms are left as they are. -/
theorem normalForms_map_ofList
    (h : ∀ text ∈ texts, text ≠ [] ∧ ∃ pattern, normalPattern pattern = text) :
    normalForms (texts.map String.ofList) = texts := by
  induction texts with
  | nil => rfl
  | cons text texts ih =>
    obtain ⟨⟨hne, pattern, rfl⟩, hmore⟩ := List.forall_mem_cons.1 h
    have hnormal := normalPattern_normalPattern pattern
    rw [List.map_cons, normalForms_cons_of_ne (by rwa [hnormal]), hnormal, ih hmore]

end Exclude

namespace Settings

open Exclude (normalPattern normalForms)

variable {settings new : Settings} {pattern : String} {patterns others : List String}

theorem normalPatterns_eq (settings : Settings) :
    settings.normalPatterns = normalForms settings.excludePatterns :=
  rfl

/-! ## One call -/

/-- **Which patterns are accepted**: those that are neither blank nor there in any spelling. -/
theorem isSome_addPattern?_iff : (settings.addPattern? pattern).isSome = true ↔
    normalPattern pattern ≠ [] ∧
      ∀ entry ∈ settings.excludePatterns, normalPattern entry ≠ normalPattern pattern := by
  rw [← Option.ne_none_iff_isSome, Ne, addPattern?_eq_none_iff, not_or, normalPatterns_eq,
    Exclude.mem_normalForms_iff]
  refine and_congr_right fun hne => ?_
  simp only [hne, not_false_eq_true, true_and, not_exists, not_and, ne_eq]

/-- A pattern that is accepted stands behind the others. -/
theorem normalPatterns_of_addPattern? (h : settings.addPattern? pattern = some new) :
    new.normalPatterns = settings.normalPatterns ++ [normalPattern pattern] := by
  have hne : normalPattern pattern ≠ [] :=
    (isSome_addPattern?_iff.1 (Option.isSome_of_eq_some h)).1
  rw [normalPatterns_eq, excludePatterns_of_addPattern? h]
  refine Exclude.normalForms_map_ofList fun text htext => ?_
  rcases List.mem_append.1 htext with hmem | hmem
  · obtain ⟨hfull, entry, -, hentry⟩ := Exclude.mem_normalForms_iff.1 hmem
    exact ⟨hfull, entry, hentry⟩
  · rw [List.mem_singleton.1 hmem]
    exact ⟨hne, pattern, rfl⟩

/-- No pattern is accepted twice. -/
theorem nodup_of_addPattern? (h : settings.addPattern? pattern = some new)
    (hnodup : settings.normalPatterns.Nodup) : new.normalPatterns.Nodup := by
  rw [normalPatterns_of_addPattern? h, ← List.concat_eq_append]
  refine hnodup.concat (fun hmem => ?_)
  rw [addPattern?_eq_none_iff.2 (Or.inr hmem)] at h
  cases h

/-- The patterns are stored in normal form, and none of them is blank. -/
def InNormalForm (settings : Settings) : Prop :=
  settings.excludePatterns = settings.normalPatterns.map String.ofList

/-- Accepting a pattern rewrites the others. -/
theorem inNormalForm_of_addPattern? (h : settings.addPattern? pattern = some new) :
    new.InNormalForm := by
  rw [InNormalForm, normalPatterns_of_addPattern? h, excludePatterns_of_addPattern? h]

/-! ## One call after the other -/

/-- The settings after some calls. -/
def addAll (settings : Settings) (patterns : List String) : Settings :=
  patterns.foldl (fun settings pattern => (settings.addPattern? pattern).getD settings) settings

/-- The normal forms of the patterns that were accepted. -/
def accepted (settings : Settings) : List String → List (List Char)
  | [] => []
  | pattern :: patterns =>
    match settings.addPattern? pattern with
    | none => accepted settings patterns
    | some new => normalPattern pattern :: accepted new patterns

theorem addAll_cons_of_none (h : settings.addPattern? pattern = none) (patterns : List String) :
    settings.addAll (pattern :: patterns) = settings.addAll patterns := by
  rw [addAll, List.foldl_cons, h, Option.getD_none, addAll]

theorem addAll_cons_of_some (h : settings.addPattern? pattern = some new)
    (patterns : List String) : settings.addAll (pattern :: patterns) = new.addAll patterns := by
  rw [addAll, List.foldl_cons, h, Option.getD_some, addAll]

theorem addAll_concat (settings : Settings) (patterns : List String) (pattern : String) :
    settings.addAll (patterns ++ [pattern]) =
      ((settings.addAll patterns).addPattern? pattern).getD (settings.addAll patterns) := by
  rw [addAll, List.foldl_concat, addAll]

theorem accepted_cons_of_none (h : settings.addPattern? pattern = none) (patterns : List String) :
    settings.accepted (pattern :: patterns) = settings.accepted patterns := by
  rw [accepted, h]

theorem accepted_cons_of_some (h : settings.addPattern? pattern = some new)
    (patterns : List String) :
    settings.accepted (pattern :: patterns) = normalPattern pattern :: new.accepted patterns := by
  rw [accepted, h]

/-- **What was accepted stands behind what was there.** -/
theorem normalPatterns_addAll (settings : Settings) (patterns : List String) :
    (settings.addAll patterns).normalPatterns =
      settings.normalPatterns ++ settings.accepted patterns := by
  induction patterns generalizing settings with
  | nil => exact (List.append_nil _).symm
  | cons pattern patterns ih =>
    cases h : settings.addPattern? pattern with
    | none => rw [addAll_cons_of_none h, accepted_cons_of_none h, ih]
    | some new =>
      rw [addAll_cons_of_some h, accepted_cons_of_some h, ih, normalPatterns_of_addPattern? h,
        List.append_assoc, List.singleton_append]

theorem nodup_addAll (h : settings.normalPatterns.Nodup) :
    (settings.addAll patterns).normalPatterns.Nodup := by
  induction patterns generalizing settings with
  | nil => exact h
  | cons pattern patterns ih =>
    cases hadd : settings.addPattern? pattern with
    | none => exact addAll_cons_of_none hadd patterns ▸ ih h
    | some new => exact addAll_cons_of_some hadd patterns ▸ ih (nodup_of_addPattern? hadd h)

/-- As long as nothing was accepted, the settings are as they were. -/
theorem addAll_eq_self (h : settings.accepted patterns = []) :
    settings.addAll patterns = settings := by
  induction patterns with
  | nil => rfl
  | cons pattern patterns ih =>
    cases hadd : settings.addPattern? pattern with
    | none => rw [addAll_cons_of_none hadd, ih (accepted_cons_of_none hadd patterns ▸ h)]
    | some new =>
      rw [accepted_cons_of_some hadd] at h
      cases h

theorem InNormalForm.addAll (h : settings.InNormalForm) :
    (settings.addAll patterns).InNormalForm := by
  induction patterns generalizing settings with
  | nil => exact h
  | cons pattern patterns ih =>
    cases hadd : settings.addPattern? pattern with
    | none => exact addAll_cons_of_none hadd patterns ▸ ih h
    | some new => exact addAll_cons_of_some hadd patterns ▸ ih (inNormalForm_of_addPattern? hadd)

/-- **Once a pattern was accepted all of them are in normal form.** -/
theorem inNormalForm_addAll (h : settings.accepted patterns ≠ []) :
    (settings.addAll patterns).InNormalForm := by
  induction patterns with
  | nil => exact absurd rfl h
  | cons pattern patterns ih =>
    cases hadd : settings.addPattern? pattern with
    | none =>
      rw [addAll_cons_of_none hadd]
      exact ih (accepted_cons_of_none hadd patterns ▸ h)
    | some new =>
      rw [addAll_cons_of_some hadd]
      exact (inNormalForm_of_addPattern? hadd).addAll

/-- Only the patterns change. -/
theorem addAll_eq (settings : Settings) (patterns : List String) : settings.addAll patterns =
    { settings with excludePatterns := (settings.addAll patterns).excludePatterns } := by
  induction patterns using List.reverseRecOn with
  | nil => rfl
  | append_singleton patterns pattern ih =>
    obtain ⟨entries, hentries⟩ := getD_addPattern?_eq (settings.addAll patterns) pattern
    rw [addAll_concat, hentries, ih]

theorem addAll_eq_of_accepted (h : settings.accepted patterns ≠ []) :
    settings.addAll patterns = { settings with
      excludePatterns := (settings.normalPatterns ++ settings.accepted patterns).map
        String.ofList } := by
  rw [← normalPatterns_addAll, ← inNormalForm_addAll h, ← addAll_eq]

/-! ## What is accepted -/

/-- **What is accepted are the first occurrences of what was not there.** -/
theorem accepted_eq (settings : Settings) (patterns : List String) : settings.accepted patterns =
    ((normalForms patterns).removeAll settings.normalPatterns).eraseDups := by
  induction patterns generalizing settings with
  | nil => rfl
  | cons pattern patterns ih =>
    by_cases hblank : normalPattern pattern = []
    · rw [accepted_cons_of_none (addPattern?_eq_none_iff.2 (Or.inl hblank)), ih,
        Exclude.normalForms_cons_of_blank hblank]
    rw [Exclude.normalForms_cons_of_ne hblank, List.cons_removeAll]
    cases hadd : settings.addPattern? pattern with
    | none =>
      have hmem := (addPattern?_eq_none_iff.1 hadd).resolve_left hblank
      rw [accepted_cons_of_none hadd, ih, if_neg (by simpa using hmem)]
    | some new =>
      have hmem : normalPattern pattern ∉ settings.normalPatterns := fun hmem => by
        rw [addPattern?_eq_none_iff.2 (Or.inr hmem)] at hadd
        cases hadd
      -- From here on the pattern is there, and its later occurrences are passed over.
      have hlater : (normalForms patterns).removeAll new.normalPatterns =
          ((normalForms patterns).removeAll settings.normalPatterns).filter fun text =>
            !text == normalPattern pattern := by
        rw [normalPatterns_of_addPattern? hadd, List.removeAll, List.removeAll, List.filter_filter]
        refine List.filter_congr fun text _ => ?_
        rw [Bool.eq_iff_iff]
        simp [and_comm]
      rw [accepted_cons_of_some hadd, ih, if_pos (by simpa using hmem), List.eraseDups_cons, hlater]

/-- How the patterns are spelled makes no difference to what is accepted, nor to the settings. -/
theorem addAll_congr (h : others.map normalPattern = patterns.map normalPattern) :
    settings.addAll others = settings.addAll patterns := by
  have haccepted : settings.accepted others = settings.accepted patterns := by
    rw [accepted_eq, accepted_eq, normalForms, h, ← normalForms]
  by_cases hnone : settings.accepted patterns = []
  · rw [addAll_eq_self hnone, addAll_eq_self (haccepted.trans hnone)]
  · rw [addAll_eq_of_accepted hnone, addAll_eq_of_accepted (haccepted.symm ▸ hnone), haccepted]

/-- **What calls leave of the patterns**, whatever the settings and the calls.

A call is accepted when its pattern is neither blank nor there in any spelling, and otherwise leaves
the settings as they are.  While no call was accepted the settings stay as they were spelled; after
that the patterns are those that were there, in normal form and without the blank ones, and behind
them those that were accepted, which are the first occurrences of what was not there.  From the
defaults on, that is the first occurrence of every pattern that is not blank, and there are no
duplicates.  The calls may spell the patterns as they like. -/
theorem addAll_keeps_first (settings : Settings) (patterns : List String) :
    (∀ front pattern back, patterns = front ++ pattern :: back →
      (((settings.addAll front).addPattern? pattern).isSome = true ↔
        normalPattern pattern ≠ [] ∧ ∀ entry ∈ (settings.addAll front).excludePatterns,
          normalPattern entry ≠ normalPattern pattern) ∧
      ((settings.addAll front).addPattern? pattern = none →
        settings.addAll (front ++ [pattern]) = settings.addAll front)) ∧
    (settings.accepted patterns = [] → settings.addAll patterns = settings) ∧
    (settings.accepted patterns ≠ [] → settings.addAll patterns = { settings with
      excludePatterns := (normalForms settings.excludePatterns ++ settings.accepted patterns).map
        String.ofList }) ∧
    settings.accepted patterns =
      ((normalForms patterns).removeAll (normalForms settings.excludePatterns)).eraseDups ∧
    (addAll {} patterns).excludePatterns = (normalForms patterns).eraseDups.map String.ofList ∧
    (addAll {} patterns).excludePatterns.Nodup ∧
    ∀ others, others.map normalPattern = patterns.map normalPattern →
      settings.addAll others = settings.addAll patterns := by
  have hdefault : (addAll {} patterns).InNormalForm := InNormalForm.addAll rfl
  have hnone : (({} : Settings).normalPatterns).Nodup := List.nodup_nil
  refine ⟨fun front pattern back _ => ⟨isSome_addPattern?_iff, fun hnone => ?_⟩, addAll_eq_self,
    addAll_eq_of_accepted, accepted_eq settings patterns, ?_, ?_, fun _ => addAll_congr⟩
  · rw [addAll_concat, hnone, Option.getD_none]
  · rw [hdefault, normalPatterns_addAll, accepted_eq]
    exact congrArg _ (congrArg List.eraseDups List.removeAll_nil)
  · rw [hdefault]
    exact (nodup_addAll hnone).map fun _ _ h => String.ofList_injective h

/-- Two spellings of one pattern, a blank one, and a pattern that was there in another spelling. -/
example : ((({ excludePatterns := [" a\\b ", ""] } : Settings).addAll
    ["a/b", " ", "*.md ", "c\\d", "*.md", "c/d"])).excludePatterns = ["a/b", "*.md", "c/d"] := by
  decide

end Settings
end EmojiLint
