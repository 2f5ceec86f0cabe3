import EmojiLint.Exclude.Matcher
import EmojiLint.Proofs.Exclude.Glob
import EmojiLint.Proofs.Path.Segments
import EmojiLint.Proofs.Text.Blank
import Mathlib.Data.List.Infix
import Mathlib.Logic.Basic
import Mathlib.Tactic.SplitIfs
import Mathlib.Tactic.Tauto

/-!
# Which paths a pattern excludes

A pattern is expanded into one, two or four globs, each of which speaks of the whole path.  What
they exclude together is simple: a plain name excludes what has a segment of that name, a name with
wildcards what has such a last segment, and a pattern with a slash what it matches from end to end.

* `Selects` — the rule, for one pattern in normal form.
* `exists_expand_matches_iff` — the globs of a pattern together match what the pattern selects.
* `excludes_iff` — a matcher excludes what a glob of one of its patterns matches.
* `excludes_singleton_iff`, `excludes_singleton_iff_selects` — what one pattern excludes by itself.
* `excludes_iff_selects` — a matcher excludes what one of its patterns selects.
-/

set_option autoImplicit false

namespace EmojiLint
namespace Exclude

open Glob (Matches)

variable {text path : List Char} {pattern : String} {patterns : List String}

/-- A pattern in normal form selects a path. -/
def Selects (text path : List Char) : Prop :=
  if '/' ∈ text then Matches text path
  else if '*' ∉ text ∧ '?' ∉ text then text ∈ Path.segments path
  else if ['*', '*'] <:+: text then
    Matches text path ∨ ∃ front below, path = front ++ '/' :: below ∧ Matches text below
  else Matches text (Path.baseName path)

/-! ## The globs of a pattern -/

theorem expand_of_slash (h : '/' ∈ text) : expand text = [text] := by
  rw [expand, if_pos (List.contains_iff_mem.2 h)]

theorem expand_of_wildcard (hslash : '/' ∉ text) (hwild : '*' ∈ text ∨ '?' ∈ text) :
    expand text = [text, anyFolder ++ text] := by
  rw [expand, if_neg (List.contains_iff_mem.not.2 hslash), if_pos]
  simpa only [Bool.or_eq_true, List.contains_iff_mem] using hwild

theorem expand_of_plain (hslash : '/' ∉ text) (hstar : '*' ∉ text) (hmark : '?' ∉ text) :
    expand text = [text, anyFolder ++ text, text ++ anythingBelow,
      anyFolder ++ text ++ anythingBelow] := by
  rw [expand, if_neg (List.contains_iff_mem.not.2 hslash), if_neg]
  simpa only [Bool.or_eq_true, List.contains_iff_mem, not_or] using And.intro hstar hmark

/-- Below any folder means after any slash. -/
theorem matches_anyFolder_iff (hpath : '\n' ∉ path) :
    Matches (anyFolder ++ text) path ↔
      ∃ front below, path = front ++ '/' :: below ∧ Matches text below := by
  rw [anyFolder, List.cons_append, List.cons_append, List.singleton_append,
    Glob.matches_anyRun_iff]
  constructor
  · rintro ⟨front, rest, rfl, -, h⟩
    obtain ⟨below, rfl, hbelow⟩ := (Glob.matches_literal_iff (by decide) (by decide)).1 h
    exact ⟨front, below, rfl, hbelow⟩
  · rintro ⟨front, below, rfl, h⟩
    refine ⟨front, '/' :: below, rfl, fun hmem => hpath (List.mem_append_left _ hmem), ?_⟩
    exact (Glob.matches_literal_iff (by decide) (by decide)).2 ⟨below, rfl, h⟩

/-- Below a folder means after its name and a slash. -/
theorem matches_append_anythingBelow_iff (hstar : '*' ∉ text) (hmark : '?' ∉ text) :
    Matches (text ++ anythingBelow) path ↔
      ∃ below, path = text ++ '/' :: below ∧ '\n' ∉ below := by
  rw [Glob.matches_append_iff hstar hmark, anythingBelow]
  constructor
  · rintro ⟨rest, rfl, h⟩
    obtain ⟨after, rfl, hafter⟩ := (Glob.matches_literal_iff (by decide) (by decide)).1 h
    obtain ⟨below, last, rfl, hbelow, hlast⟩ := Glob.matches_anyRun_iff.1 hafter
    obtain rfl := Glob.matches_nil_iff.1 hlast
    exact ⟨below ++ [], rfl, by rwa [List.append_nil]⟩
  · rintro ⟨below, rfl, hbelow⟩
    refine ⟨'/' :: below, rfl,
      (Glob.matches_literal_iff (by decide) (by decide)).2 ⟨below, rfl, ?_⟩⟩
    exact Glob.matches_anyRun_iff.2 ⟨below, [], (List.append_nil _).symm, hbelow, .done⟩

/-- A plain name stands for the segments of that name. -/
theorem exists_expand_matches_iff_mem_segments (hslash : '/' ∉ text) (hstar : '*' ∉ text)
    (hmark : '?' ∉ text) (hpath : '\n' ∉ path) :
    (∃ glob ∈ expand text, Matches glob path) ↔ text ∈ Path.segments path := by
  have hbelow : ∀ {rest}, '\n' ∉ rest →
      (Matches (text ++ anythingBelow) rest ↔ ∃ below, rest = text ++ '/' :: below) := by
    intro rest hrest
    rw [matches_append_anythingBelow_iff hstar hmark]
    refine exists_congr fun below => and_iff_left_of_imp ?_
    rintro rfl hmem
    exact hrest (List.mem_append_right _ (List.mem_cons_of_mem _ hmem))
  rw [Path.mem_segments_iff, expand_of_plain hslash hstar hmark]
  simp only [List.mem_cons, List.not_mem_nil, or_false, exists_eq_or_imp, exists_eq_left,
    List.append_assoc, matches_anyFolder_iff hpath, Glob.matches_plain_iff hstar hmark,
    hbelow hpath, hslash, not_false_eq_true, true_and]
  refine or_congr Iff.rfl (or_congr ?_ (or_congr Iff.rfl ?_))
  · exact ⟨fun ⟨front, below, h, heq⟩ => ⟨front, heq ▸ h⟩, fun ⟨front, h⟩ => ⟨front, _, h, rfl⟩⟩
  · constructor
    · rintro ⟨front, rest, rfl, h⟩
      have hrest : '\n' ∉ rest := fun hmem =>
        hpath (List.mem_append_right _ (List.mem_cons_of_mem _ hmem))
      obtain ⟨below, rfl⟩ := (hbelow hrest).1 h
      exact ⟨front, below, rfl⟩
    · rintro ⟨front, below, rfl⟩
      have hrest : '\n' ∉ text ++ '/' :: below := fun hmem =>
        hpath (List.mem_append_right _ (List.mem_cons_of_mem _ hmem))
      exact ⟨front, _, rfl, (hbelow hrest).2 ⟨below, rfl⟩⟩

/-- A name with single stars or question marks stands for a last segment. -/
theorem exists_expand_matches_iff_baseName (hslash : '/' ∉ text) (hwild : '*' ∈ text ∨ '?' ∈ text)
    (hpair : ¬ ['*', '*'] <:+: text) (hpath : '\n' ∉ path) :
    (∃ glob ∈ expand text, Matches glob path) ↔ Matches text (Path.baseName path) := by
  rw [expand_of_wildcard hslash hwild]
  simp only [List.mem_cons, List.not_mem_nil, or_false, exists_eq_or_imp, exists_eq_left,
    matches_anyFolder_iff hpath]
  constructor
  · rintro (h | ⟨front, below, rfl, h⟩)
    · rwa [Path.baseName_of_notMem (Glob.slash_notMem_of_matches h hslash hpair)]
    · rwa [Path.baseName_append_cons front (Glob.slash_notMem_of_matches h hslash hpair)]
  · intro h
    rcases Path.eq_baseName_or path with heq | ⟨front, heq⟩
    · exact Or.inl (heq ▸ h)
    · exact Or.inr ⟨front, _, heq, h⟩

/-- **The globs of a pattern together match what the pattern selects.** -/
theorem exists_expand_matches_iff (hpath : '\n' ∉ path) :
    (∃ glob ∈ expand text, Matches glob path) ↔ Selects text path := by
  rw [Selects]
  split_ifs with hslash hplain hpair
  · simp only [expand_of_slash hslash, List.mem_singleton, exists_eq_left]
  · exact exists_expand_matches_iff_mem_segments hslash hplain.1 hplain.2 hpath
  · have hwild : '*' ∈ text ∨ '?' ∈ text := by tauto
    rw [expand_of_wildcard hslash hwild]
    simp only [List.mem_cons, List.not_mem_nil, or_false, exists_eq_or_imp, exists_eq_left,
      matches_anyFolder_iff hpath]
  · have hwild : '*' ∈ text ∨ '?' ∈ text := by tauto
    exact exists_expand_matches_iff_baseName hslash hwild hpair hpath

/-! ## Matchers -/

/-- The globs of a pattern are all of a size that can be compiled. -/
def Fits (pattern : String) : Prop :=
  ∀ glob ∈ expand (normalPattern pattern), (Glob.compile? glob).isSome

instance (pattern : String) : Decidable (Fits pattern) :=
  inferInstanceAs (Decidable (∀ glob ∈ _, _))

theorem length_le_of_mem_expand {glob : List Char} (h : glob ∈ expand text) :
    glob.length ≤ text.length + 6 := by
  rw [expand] at h
  split at h
  · rw [List.mem_singleton.1 h]
    omega
  · split at h <;>
      · simp only [List.mem_cons, List.not_mem_nil, or_false] at h
        rcases h with rfl | rfl | rfl | rfl <;> simp [anyFolder, anythingBelow]

/-- **A pattern of ordinary length fits.** -/
theorem fits_of_length_le (h : pattern.toList.length ≤ 17000) : Fits pattern := by
  intro glob hglob
  have hsize := Glob.size_le (Glob.ofText glob)
  have hparse := Glob.length_parse_le (Path.forwardSlashes glob)
  have hexpand := length_le_of_mem_expand hglob
  have htrim := Text.length_trim_le pattern.toList
  rw [Glob.ofText, Path.forwardSlashes] at hsize
  rw [normalPattern, Path.forwardSlashes, List.length_map] at hexpand
  rw [Path.forwardSlashes, List.length_map] at hparse
  rw [Glob.compile?, if_pos]
  · rfl
  · rw [Glob.ofText, Path.forwardSlashes, Glob.sizeLimit]
    omega

theorem backslash_notMem_normalPattern (pattern : String) : '\\' ∉ normalPattern pattern :=
  Path.backslash_notMem_forwardSlashes _

/-- Expanding a pattern brings in slashes and stars only. -/
theorem backslash_notMem_of_mem_expand {glob : List Char} (h : '\\' ∉ text)
    (hglob : glob ∈ expand text) : '\\' ∉ glob := by
  have hfolder : '\\' ∉ anyFolder := by decide
  have hbelow : '\\' ∉ anythingBelow := by decide
  rw [expand] at hglob
  split at hglob
  · rwa [List.mem_singleton.1 hglob]
  · split at hglob <;>
      · simp only [List.mem_cons, List.not_mem_nil, or_false] at hglob
        rcases hglob with rfl | rfl | rfl | rfl <;> simp [h, hfolder, hbelow]

namespace Matcher

theorem mem_compile_iff {glob : Glob} :
    glob ∈ compile pattern ↔ normalPattern pattern ≠ [] ∧
      ∃ text ∈ expand (normalPattern pattern), Glob.compile? text = some glob := by
  rw [compile]
  by_cases hblank : normalPattern pattern = []
  · simp only [hblank, List.isEmpty_nil, if_true, List.not_mem_nil, ne_eq, not_true_eq_false,
      false_and]
  · simp only [List.isEmpty_iff, hblank, if_false, List.mem_filterMap, ne_eq, not_false_eq_true,
      true_and]

/-- **A matcher excludes what a glob of one of its patterns matches.** -/
theorem excludes_iff {path : String} :
    (ofPatterns patterns).excludes path = true ↔
      ∃ pattern ∈ patterns, normalPattern pattern ≠ [] ∧
        ∃ text ∈ expand (normalPattern pattern), (Glob.compile? text).isSome ∧
          Matches text (Path.forwardSlashes path.toList) := by
  have haccepts : ∀ {pattern : String} {text : List Char} {glob : Glob},
      text ∈ expand (normalPattern pattern) → Glob.compile? text = some glob →
      (glob.accepts (Path.forwardSlashes path.toList) = true ↔
        Matches text (Path.forwardSlashes path.toList)) := by
    intro pattern text glob htext hcompile
    have hglob : glob = Glob.ofText text := by
      rw [Glob.compile?] at hcompile
      split at hcompile
      · exact (Option.some_inj.1 hcompile).symm
      · cases hcompile
    rw [hglob, Glob.accepts_ofText_iff, Path.forwardSlashes_of_notMem]
    exact backslash_notMem_of_mem_expand (backslash_notMem_normalPattern pattern) htext
  simp only [excludes, ofPatterns, List.any_eq_true, List.mem_flatMap, mem_compile_iff]
  constructor
  · rintro ⟨glob, ⟨pattern, hpattern, hblank, text, htext, hcompile⟩, h⟩
    exact ⟨pattern, hpattern, hblank, text, htext, Option.isSome_of_eq_some hcompile,
      (haccepts htext hcompile).1 h⟩
  · rintro ⟨pattern, hpattern, hblank, text, htext, hcompile, h⟩
    obtain ⟨glob, hglob⟩ := Option.isSome_iff_exists.1 hcompile
    exact ⟨glob, ⟨pattern, hpattern, hblank, text, htext, hglob⟩, (haccepts htext hglob).2 h⟩

/-- A pattern that fits selects a path when one of its globs matches it. -/
theorem exists_compiled_matches_iff (hfits : Fits pattern) (hpath : '\n' ∉ path) :
    (∃ text ∈ expand (normalPattern pattern), (Glob.compile? text).isSome ∧ Matches text path) ↔
      Selects (normalPattern pattern) path := by
  rw [← exists_expand_matches_iff hpath]
  constructor
  · rintro ⟨text, htext, -, h⟩
    exact ⟨text, htext, h⟩
  · rintro ⟨text, htext, h⟩
    exact ⟨text, htext, hfits text htext, h⟩

/-- What a pattern that fits excludes by itself. -/
theorem excludes_singleton_iff {path : String} (hfits : Fits pattern) :
    (ofPatterns [pattern]).excludes path = true ↔ normalPattern pattern ≠ [] ∧
      ∃ text ∈ expand (normalPattern pattern),
        Matches text (Path.forwardSlashes path.toList) := by
  rw [excludes_iff]
  simp only [List.mem_singleton, exists_eq_left]
  refine and_congr_right fun _ => exists_congr fun text => and_congr_right fun htext => ?_
  exact and_iff_right (hfits text htext)

/-- A pattern that fits excludes by itself what it selects. -/
theorem excludes_singleton_iff_selects {path : String} (hfits : Fits pattern)
    (hpath : '\n' ∉ path.toList) :
    (ofPatterns [pattern]).excludes path = true ↔ normalPattern pattern ≠ [] ∧
      Selects (normalPattern pattern) (Path.forwardSlashes path.toList) := by
  rw [excludes_singleton_iff hfits,
    exists_expand_matches_iff (Path.lineFeed_notMem_forwardSlashes hpath)]

/-- A plain name excludes by itself what has a segment of that name. -/
theorem excludes_singleton_iff_mem_segments {path : String} (hfits : Fits pattern)
    (hslash : '/' ∉ normalPattern pattern) (hstar : '*' ∉ normalPattern pattern)
    (hmark : '?' ∉ normalPattern pattern) (hpath : '\n' ∉ path.toList) :
    (ofPatterns [pattern]).excludes path = true ↔ normalPattern pattern ≠ [] ∧
      normalPattern pattern ∈ Path.segments (Path.forwardSlashes path.toList) := by
  rw [excludes_singleton_iff_selects hfits hpath, Selects, if_neg hslash, if_pos ⟨hstar, hmark⟩]

/-- **A matcher excludes what one of its patterns selects.** -/
theorem excludes_iff_selects {path : String} (hfits : ∀ pattern ∈ patterns, Fits pattern)
    (hpath : '\n' ∉ path.toList) :
    (ofPatterns patterns).excludes path = true ↔
      ∃ pattern ∈ patterns, normalPattern pattern ≠ [] ∧
        Selects (normalPattern pattern) (Path.forwardSlashes path.toList) := by
  rw [excludes_iff]
  refine exists_congr fun pattern => and_congr_right fun hpattern => and_congr_right fun _ => ?_
  exact exists_compiled_matches_iff (hfits pattern hpattern)
    (Path.lineFeed_notMem_forwardSlashes hpath)

/-- A folder in the middle of a path is excluded by its name. -/
theorem excludes_iff_selects_folder :
    (∀ pattern ∈ ["*.md", " node_modules "], Fits pattern) ∧
      '\n' ∉ "a/node_modules/b.js".toList ∧
      (ofPatterns ["*.md", " node_modules "]).excludes "a/node_modules/b.js" = true ∧
      ∃ pattern ∈ ["*.md", " node_modules "], normalPattern pattern ≠ [] ∧
        Selects (normalPattern pattern) (Path.forwardSlashes "a/node_modules/b.js".toList) := by
  have hfits : ∀ pattern ∈ ["*.md", " node_modules "], Fits pattern := by decide
  have hpath : '\n' ∉ "a/node_modules/b.js".toList := by decide
  have hexcludes :
      (ofPatterns ["*.md", " node_modules "]).excludes "a/node_modules/b.js" = true := by decide
  exact ⟨hfits, hpath, hexcludes, (excludes_iff_selects hfits hpath).1 hexcludes⟩

end Matcher
end Exclude
end EmojiLint
