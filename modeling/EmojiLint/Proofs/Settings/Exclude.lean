import EmojiLint.Check
import EmojiLint.Proofs.Path.Segments
import EmojiLint.Proofs.Text.Blank
import EmojiLint.Settings.Exclude

/-!
# What one more pattern excludes

Adding a pattern rewrites the patterns that are there in normal form.  A pattern and its normal form
have the same globs, so nothing changes but that the globs of the new pattern are added.

* `normalPattern_normalPattern` — the normal form of a pattern in normal form is itself.
* `addPattern?_eq_none_iff` — which patterns change nothing.
* `globs_of_addPattern?`, `mem_globs_of_addPattern?_eq_none` — the globs of the settings afterwards.
* `excludes_adding` — so what is excluded afterwards, whether the pattern was added or not.
-/

set_option autoImplicit false

namespace EmojiLint
namespace Exclude

variable {pattern other : String}

/-- Slashes and backslashes are no blanks. -/
theorem trim_forwardSlashes (cs : List Char) :
    Text.trim (Path.forwardSlashes cs) = Path.forwardSlashes (Text.trim cs) := by
  refine Text.trim_map (fun c => ?_) cs
  split
  · next h => rw [h]; decide
  · rfl

/-- **The normal form of a pattern in normal form is itself.** -/
theorem normalPattern_normalPattern (pattern : String) :
    normalPattern (String.ofList (normalPattern pattern)) = normalPattern pattern := by
  rw [normalPattern, String.toList_ofList, normalPattern, trim_forwardSlashes, Text.trim_trim,
    Path.forwardSlashes_forwardSlashes]

namespace Matcher

theorem compile_of_blank (h : normalPattern pattern = []) : compile pattern = [] := by
  rw [compile, h]
  rfl

/-- Only the normal form of a pattern counts. -/
theorem compile_congr (h : normalPattern pattern = normalPattern other) :
    compile pattern = compile other := by
  rw [compile, h, compile]

/-- The patterns that are not blank have in normal form the globs that they had. -/
theorem flatMap_compile_normalPattern (patterns : List String) :
    (((patterns.map normalPattern).filter fun text => !text.isEmpty).map String.ofList).flatMap
      compile = patterns.flatMap compile := by
  induction patterns with
  | nil => rfl
  | cons pattern patterns ih =>
    rw [List.map_cons, List.filter_cons, List.flatMap_cons]
    split
    · rw [List.map_cons, List.flatMap_cons, ih,
        compile_congr (normalPattern_normalPattern pattern)]
    · next h =>
      have hblank : normalPattern pattern = [] := by
        rwa [Bool.not_eq_true, Bool.not_eq_false', List.isEmpty_iff] at h
      rw [ih, compile_of_blank hblank, List.nil_append]

end Matcher
end Exclude

namespace Settings

open Exclude (normalPattern Matcher)

variable {settings new : Settings} {pattern : String}

/-- **Which patterns change nothing**: those that are blank, and those that are there already. -/
theorem addPattern?_eq_none_iff :
    settings.addPattern? pattern = none ↔
      normalPattern pattern = [] ∨ normalPattern pattern ∈ settings.normalPatterns := by
  rw [addPattern?, ite_eq_left_iff]
  simp only [Bool.or_eq_true, List.isEmpty_iff, List.contains_iff_mem, reduceCtorEq, imp_false,
    Decidable.not_not]

theorem excludePatterns_of_addPattern? (h : settings.addPattern? pattern = some new) :
    new.excludePatterns =
      (settings.normalPatterns ++ [normalPattern pattern]).map String.ofList := by
  rw [addPattern?] at h
  split at h
  · cases h
  · rw [← Option.some_inj.1 h]

/-- A pattern that was added is there: adding it once more changes nothing. -/
theorem addPattern?_of_addPattern? (h : settings.addPattern? pattern = some new) :
    new.addPattern? pattern = none := by
  have hnormal := Exclude.normalPattern_normalPattern pattern
  have hblank : normalPattern pattern ≠ [] := fun hblank => by
    rw [addPattern?_eq_none_iff.2 (Or.inl hblank)] at h
    cases h
  have hlast : String.ofList (normalPattern pattern) ∈ new.excludePatterns := by
    rw [excludePatterns_of_addPattern? h]
    exact List.mem_map_of_mem (List.mem_append_right _ List.mem_cons_self)
  refine addPattern?_eq_none_iff.2 (Or.inr ?_)
  refine List.mem_filter.2 ⟨List.mem_map.2 ⟨_, hlast, hnormal⟩, ?_⟩
  rwa [Bool.not_eq_true', List.isEmpty_eq_false_iff]

/-- Settings to which a pattern was added are others. -/
theorem ne_of_addPattern? (h : settings.addPattern? pattern = some new) : new ≠ settings := by
  rintro rfl
  rw [addPattern?_of_addPattern? h] at h
  cases h

/-- Adding a pattern once is as good as adding it twice. -/
theorem addPattern?_getD_addPattern? (settings : Settings) (pattern : String) :
    ((settings.addPattern? pattern).getD settings).addPattern? pattern = none := by
  cases h : settings.addPattern? pattern with
  | none => exact h
  | some new => exact addPattern?_of_addPattern? h

/-- Only the patterns change when one is added. -/
theorem getD_addPattern?_eq (settings : Settings) (pattern : String) :
    ∃ patterns, (settings.addPattern? pattern).getD settings =
      { settings with excludePatterns := patterns } := by
  rw [addPattern?]
  split
  · exact ⟨settings.excludePatterns, rfl⟩
  · exact ⟨_, rfl⟩

/-! ## The globs afterwards -/

/-- **A pattern that was added brings its globs along**, and the patterns that were rewritten have
the globs that they had. -/
theorem globs_of_addPattern? (h : settings.addPattern? pattern = some new) :
    new.matcher.globs = settings.matcher.globs ++ Matcher.compile pattern := by
  rw [matcher, excludePatterns_of_addPattern? h, List.map_append, Matcher.ofPatterns,
    List.flatMap_append, normalPatterns, Matcher.flatMap_compile_normalPattern, List.map_singleton,
    List.flatMap_singleton,
    Matcher.compile_congr (Exclude.normalPattern_normalPattern pattern)]
  rfl

/-- **The globs of a pattern that changes nothing are there.**  A blank pattern has none. -/
theorem mem_globs_of_addPattern?_eq_none (h : settings.addPattern? pattern = none) {glob : Glob}
    (hglob : glob ∈ Matcher.compile pattern) : glob ∈ settings.matcher.globs := by
  rcases addPattern?_eq_none_iff.1 h with hblank | hmem
  · rw [Matcher.compile_of_blank hblank] at hglob
    exact absurd hglob List.not_mem_nil
  · obtain ⟨other, hother, hnormal⟩ := List.mem_map.1 (List.mem_filter.1 hmem).1
    rw [← Matcher.compile_congr hnormal] at hglob
    exact List.mem_flatMap.2 ⟨other, hother, hglob⟩

/-- What is excluded after a pattern was to be added: what was excluded before, and what the pattern
excludes by itself. -/
theorem excludes_getD_addPattern? (settings : Settings) (pattern path : String) :
    ((settings.addPattern? pattern).getD settings).matcher.excludes path =
      (settings.matcher.excludes path || (Matcher.ofPatterns [pattern]).excludes path) := by
  have hpattern : (Matcher.ofPatterns [pattern]).globs = Matcher.compile pattern :=
    List.flatMap_singleton _ _
  rw [Matcher.excludes, Matcher.excludes, Matcher.excludes, hpattern, ← List.any_append]
  cases h : settings.addPattern? pattern with
  | some new => rw [Option.getD_some, globs_of_addPattern? h]
  | none =>
    rw [Option.getD_none, List.any_append, eq_comm, Bool.or_eq_left_iff_imp, List.any_eq_true,
      List.any_eq_true]
    rintro ⟨glob, hglob, haccepts⟩
    exact ⟨glob, mem_globs_of_addPattern?_eq_none h hglob, haccepts⟩

/-- **Adding a pattern excludes what the pattern excludes by itself, and changes nothing else.**
The pattern is refused exactly when it is blank or there already, and then its globs are among those
of the settings.  Otherwise the stored patterns are rewritten, but their globs stay the same ones in
the same order, and those of the new pattern follow. -/
theorem excludes_adding (settings : Settings) (pattern : String) :
    (settings.addPattern? pattern = none ↔
      normalPattern pattern = [] ∨ normalPattern pattern ∈ settings.normalPatterns) ∧
    (settings.addPattern? pattern = none →
      ∀ glob ∈ Matcher.compile pattern, glob ∈ settings.matcher.globs) ∧
    (∀ new, settings.addPattern? pattern = some new →
      new.matcher.globs = settings.matcher.globs ++ Matcher.compile pattern) ∧
    ∀ path, ((settings.addPattern? pattern).getD settings).matcher.excludes path = true ↔
      settings.matcher.excludes path = true ∨
        (Matcher.ofPatterns [pattern]).excludes path = true := by
  refine ⟨addPattern?_eq_none_iff, fun h _ => mem_globs_of_addPattern?_eq_none h,
    fun _ => globs_of_addPattern?, fun path => ?_⟩
  rw [excludes_getD_addPattern?, Bool.or_eq_true]

/-- Patterns do not change what is reported of a text. -/
theorem diagnose_getD_addPattern? (settings : Settings) (pattern text language : String) :
    diagnose ((settings.addPattern? pattern).getD settings) none text language =
      diagnose settings none text language := by
  rw [addPattern?]
  split <;> rfl

end Settings
end EmojiLint
