import EmojiLint.Proofs.Exclude.Matcher
import EmojiLint.Proofs.Path.Below

/-!
# What the built patterns exclude

A pattern is built from the path of a file or a folder as it is seen from the root, and is then read
like any other.  So a file at the top is a plain name, which stands for whatever is called so; and
the root, which is seen as the empty text, gives a pattern that begins with a slash, as no path
does.  All of this is about patterns that can be compiled, as those of ordinary length can
(`fits_of_length_le`).

* `IsPlain` — the texts that mean themselves in a pattern.
* `excludes_extensionPattern_iff`, `excludes_folderPattern_iff` — what a built pattern excludes.
* `excludes_extensionPattern` — the files of an extension, or what is called like the file.
* `excludes_filePattern` — one file and nothing else, unless it is at the top.
* `excludesBelow_iff` — what lies below a folder and nothing else, unless it is the root.
-/

set_option autoImplicit false

namespace EmojiLint
namespace Exclude

open Matcher (ofPatterns)
open EmojiLint.Path (LiesBelow IsClean baseName segments)

variable {file folder path pattern : String} {text extension : List Char}

/-- A text means itself in a pattern: it has no wildcards, and no blanks around it that would be cut
off. -/
structure IsPlain (text : List Char) : Prop where
  no_star : '*' ∉ text
  no_mark : '?' ∉ text
  trimmed : Text.trim text = text

instance (text : List Char) : Decidable (IsPlain text) :=
  decidable_of_iff ('*' ∉ text ∧ '?' ∉ text ∧ Text.trim text = text)
    ⟨fun ⟨h₁, h₂, h₃⟩ => ⟨h₁, h₂, h₃⟩, fun ⟨h₁, h₂, h₃⟩ => ⟨h₁, h₂, h₃⟩⟩

theorem normalPattern_of_trim (htext : pattern.toList = text) (hback : '\\' ∉ text)
    (htrim : Text.trim text = text) : normalPattern pattern = text := by
  rw [normalPattern, htext, htrim, Path.forwardSlashes_of_notMem hback]

/-- A pattern that is a plain name excludes the paths that have a segment of that name. -/
theorem excludes_iff_mem_segments (htext : pattern.toList = text) (hback : '\\' ∉ text)
    (hplain : IsPlain text) (hne : text ≠ []) (hslash : '/' ∉ text) (hfits : Fits pattern)
    (hnew : '\n' ∉ path.toList) (hpath : '\\' ∉ path.toList) :
    (ofPatterns [pattern]).excludes path = true ↔ text ∈ segments path.toList := by
  have hnormal := normalPattern_of_trim htext hback hplain.trimmed
  subst hnormal
  rw [Matcher.excludes_singleton_iff_mem_segments hfits hslash hplain.no_star hplain.no_mark hnew,
    Path.forwardSlashes_of_notMem hpath, and_iff_right hne]

/-! ## The files of an extension -/

theorem extensionPattern_of_some (hback : '\\' ∉ file.toList)
    (h : Path.extension? file.toList = some extension) :
    extensionPattern file = String.ofList ('*' :: '.' :: extension) := by
  simp only [extensionPattern, Path.forwardSlashes_of_notMem hback, h]

theorem extensionPattern_of_none (hback : '\\' ∉ file.toList)
    (h : Path.extension? file.toList = none) :
    extensionPattern file = String.ofList (baseName file.toList) := by
  simp only [extensionPattern, Path.forwardSlashes_of_notMem hback, h]

/-- **What the pattern of an extension excludes**: the names that end in it. -/
theorem excludes_extensionPattern_iff (hback : '\\' ∉ file.toList)
    (h : Path.extension? file.toList = some extension) (hplain : IsPlain extension)
    (hfits : Fits (extensionPattern file)) (hnew : '\n' ∉ path.toList)
    (hpath : '\\' ∉ path.toList) :
    (ofPatterns [extensionPattern file]).excludes path = true ↔
      '.' :: extension <:+ baseName path.toList := by
  have hpart : ∀ {c}, c ∈ extension → c ∈ baseName file.toList := fun hc =>
    (Path.suffix_baseName_of_extension? h).subset (List.mem_cons_of_mem '.' hc)
  have hslash : '/' ∉ '*' :: '.' :: extension := by
    simpa using fun hmem => Path.slash_notMem_baseName _ (hpart hmem)
  have hbacks : '\\' ∉ '*' :: '.' :: extension := by
    simpa using fun hmem => hback (Path.mem_of_mem_baseName (hpart hmem))
  have hstar : '*' ∉ '.' :: extension := by simpa using hplain.no_star
  have hmark : '?' ∉ '.' :: extension := by simpa using hplain.no_mark
  have hpair : ¬ ['*', '*'] <:+: '*' :: '.' :: extension := by
    rw [List.infix_cons_iff, not_or]
    refine ⟨fun hstart => ?_, fun hlater => hstar (hlater.subset List.mem_cons_self)⟩
    have := (List.cons_prefix_cons.1 hstart).2
    exact absurd (List.cons_prefix_cons.1 this).1 (by decide)
  have hdot : Text.trim ['*', '.'] = ['*', '.'] := rfl
  have htext : (extensionPattern file).toList = '*' :: '.' :: extension := by
    rw [extensionPattern_of_some hback h, String.toList_ofList]
  have hnormal : normalPattern (extensionPattern file) = '*' :: '.' :: extension :=
    normalPattern_of_trim htext hbacks (Text.trim_append hdot hplain.trimmed)
  rw [Matcher.excludes_singleton_iff_selects hfits hnew, hnormal, Selects, if_neg hslash,
    if_neg fun hnone => hnone.1 List.mem_cons_self, if_neg hpair,
    Path.forwardSlashes_of_notMem hpath, and_iff_right (List.cons_ne_nil _ _),
    Glob.matches_segmentRun_iff_suffix hstar hmark (Path.slash_notMem_baseName _)]

/-- **What the pattern that is built for an extension excludes.**

If the file has an extension, these are the files whose names end in a dot and that extension: the
file itself and every file with the same extension, at any depth.  If it has none, the pattern is
its name, which stands for whatever has a segment of that name in its path. -/
theorem excludes_extensionPattern (hback : '\\' ∉ file.toList) (hnew : '\n' ∉ file.toList)
    (hfits : Fits (extensionPattern file)) :
    (∀ extension, Path.extension? file.toList = some extension → IsPlain extension →
      (∀ path : String, '\n' ∉ path.toList → '\\' ∉ path.toList →
        ((ofPatterns [extensionPattern file]).excludes path = true ↔
          '.' :: extension <:+ baseName path.toList)) ∧
      (ofPatterns [extensionPattern file]).excludes file = true ∧
      ∀ path : String, '\n' ∉ path.toList → '\\' ∉ path.toList →
        Path.extension? path.toList = some extension →
          (ofPatterns [extensionPattern file]).excludes path = true) ∧
    (Path.extension? file.toList = none →
      extensionPattern file = String.ofList (baseName file.toList) ∧
      (baseName file.toList ≠ [] → IsPlain (baseName file.toList) →
        ∀ path : String, '\n' ∉ path.toList → '\\' ∉ path.toList →
          ((ofPatterns [extensionPattern file]).excludes path = true ↔
            baseName file.toList ∈ segments path.toList))) := by
  constructor
  · intro extension h hplain
    have hiff {path : String} (hnew : '\n' ∉ path.toList) (hpath : '\\' ∉ path.toList) :=
      excludes_extensionPattern_iff hback h hplain hfits hnew hpath
    refine ⟨fun path => hiff, (hiff hnew hback).2 (Path.suffix_baseName_of_extension? h), ?_⟩
    intro path hnew hpath hsame
    exact (hiff hnew hpath).2 (Path.suffix_baseName_of_extension? hsame)
  · intro h
    have hpattern := extensionPattern_of_none hback h
    refine ⟨hpattern, fun hne hplain path hnew hpath => ?_⟩
    have htext : (extensionPattern file).toList = baseName file.toList := by
      rw [hpattern, String.toList_ofList]
    have hbacks : '\\' ∉ baseName file.toList := fun hmem => hback (Path.mem_of_mem_baseName hmem)
    exact excludes_iff_mem_segments htext hbacks hplain hne (Path.slash_notMem_baseName _) hfits
      hnew hpath

/-- A name with two dots, and one with none. -/
theorem excludes_extensionPattern_archive :
    ('\\' ∉ "dir.d/a.tar.gz".toList ∧ '\n' ∉ "dir.d/a.tar.gz".toList ∧
      Fits (extensionPattern "dir.d/a.tar.gz") ∧
      (ofPatterns [extensionPattern "dir.d/a.tar.gz"]).excludes "b/.gz" = true) ∧
    '\\' ∉ "dir.d/Makefile".toList ∧ '\n' ∉ "dir.d/Makefile".toList ∧
      Fits (extensionPattern "dir.d/Makefile") ∧
      (ofPatterns [extensionPattern "dir.d/Makefile"]).excludes "Makefile/b.txt" = true := by
  have hback : '\\' ∉ "dir.d/a.tar.gz".toList := by decide
  have hnew : '\n' ∉ "dir.d/a.tar.gz".toList := by decide
  have hfits : Fits (extensionPattern "dir.d/a.tar.gz") := fits_of_length_le (by decide)
  have hback' : '\\' ∉ "dir.d/Makefile".toList := by decide
  have hnew' : '\n' ∉ "dir.d/Makefile".toList := by decide
  have hfits' : Fits (extensionPattern "dir.d/Makefile") := fits_of_length_le (by decide)
  have harchive := (excludes_extensionPattern hback hnew hfits).1 "gz".toList rfl (by decide)
  have hmakefile :=
    ((excludes_extensionPattern hback' hnew' hfits').2 rfl).2 (by decide) (by decide)
  exact ⟨⟨hback, hnew, hfits, (harchive.1 "b/.gz" (by decide) (by decide)).2 (by decide)⟩,
    hback', hnew', hfits', (hmakefile "Makefile/b.txt" (by decide) (by decide)).2 (by decide)⟩

/-! ## One file -/

theorem filePattern_eq (hback : '\\' ∉ file.toList) : filePattern file = file := by
  rw [filePattern, Path.normalize, Path.forwardSlashes_of_notMem hback, String.ofList_toList]

/-- With a slash in its path, a file is excluded by the whole of it. -/
theorem excludes_filePattern_iff_eq (hback : '\\' ∉ file.toList) (hplain : IsPlain file.toList)
    (hfits : Fits (filePattern file)) (hslash : '/' ∈ file.toList) (hpath : '\\' ∉ path.toList) :
    (ofPatterns [filePattern file]).excludes path = true ↔ path = file := by
  rw [Matcher.excludes_singleton_iff hfits, filePattern_eq hback,
    normalPattern_of_trim rfl hback hplain.trimmed, expand_of_slash hslash,
    Path.forwardSlashes_of_notMem hpath, and_iff_right (List.ne_nil_of_mem hslash)]
  simp only [List.mem_singleton, exists_eq_left,
    Glob.matches_plain_iff hplain.no_star hplain.no_mark, String.toList_inj]

/-- Without a slash, a file is excluded by its name, wherever that stands. -/
theorem excludes_filePattern_iff_mem (hback : '\\' ∉ file.toList) (hplain : IsPlain file.toList)
    (hne : file ≠ "") (hfits : Fits (filePattern file)) (hslash : '/' ∉ file.toList)
    (hnew : '\n' ∉ path.toList) (hpath : '\\' ∉ path.toList) :
    (ofPatterns [filePattern file]).excludes path = true ↔
      file.toList ∈ segments path.toList := by
  rw [filePattern_eq hback] at hfits ⊢
  exact excludes_iff_mem_segments rfl hback hplain (by simpa using hne) hslash hfits hnew hpath

/-- **What the pattern that is built for a file excludes.**

It excludes that file and nothing else exactly when there is a slash in its path.  A file at the top
is excluded by its name, and with it whatever has a segment of that name in its path: other files of
that name and all that is in folders of that name. -/
theorem excludes_filePattern (hback : '\\' ∉ file.toList) (hnew : '\n' ∉ file.toList)
    (hplain : IsPlain file.toList) (hne : file ≠ "") (hfits : Fits (filePattern file)) :
    ((∀ path : String, '\\' ∉ path.toList →
      ((ofPatterns [filePattern file]).excludes path = true ↔ path = file)) ↔
        '/' ∈ file.toList) ∧
    ('/' ∉ file.toList → ∀ path : String, '\n' ∉ path.toList → '\\' ∉ path.toList →
      ((ofPatterns [filePattern file]).excludes path = true ↔
        file.toList ∈ segments path.toList)) := by
  have hmem {path : String} (hslash : '/' ∉ file.toList) (hnew : '\n' ∉ path.toList)
      (hpath : '\\' ∉ path.toList) :=
    excludes_filePattern_iff_mem hback hplain hne hfits hslash hnew hpath
  refine ⟨⟨fun hlaw => ?_, fun hslash path => ?_⟩, fun hslash path => hmem hslash⟩
  · by_contra hslash
    -- A file of the same name in some folder is excluded as well.
    have hother : (String.ofList ('x' :: '/' :: file.toList)).toList =
        ['x'] ++ '/' :: file.toList := String.toList_ofList
    have hpath : '\\' ∉ (String.ofList ('x' :: '/' :: file.toList)).toList := by
      simpa [hother] using hback
    have hexcludes := (hmem hslash (by simpa [hother] using hnew) hpath).2 <| by
      rw [hother, Path.segments_append_cons, Path.segments_of_notMem hslash]
      exact List.mem_append_right _ List.mem_cons_self
    have heq := congrArg String.toList ((hlaw _ hpath).1 hexcludes)
    rw [hother] at heq
    exact hslash (heq ▸ List.mem_append_right _ List.mem_cons_self)
  · exact excludes_filePattern_iff_eq hback hplain hfits hslash

/-- A file in a folder. -/
theorem excludes_filePattern_nested :
    '\\' ∉ "src/lib.rs".toList ∧ '\n' ∉ "src/lib.rs".toList ∧ IsPlain "src/lib.rs".toList ∧
      "src/lib.rs" ≠ "" ∧ Fits (filePattern "src/lib.rs") ∧
      (ofPatterns [filePattern "src/lib.rs"]).excludes "src/lib.rs" = true := by
  have hback : '\\' ∉ "src/lib.rs".toList := by decide
  have hnew : '\n' ∉ "src/lib.rs".toList := by decide
  have hplain : IsPlain "src/lib.rs".toList := by decide
  have hfits : Fits (filePattern "src/lib.rs") := fits_of_length_le (by decide)
  have hlaw := (excludes_filePattern hback hnew hplain (by decide) hfits).1.2 (by decide)
  exact ⟨hback, hnew, hplain, by decide, hfits, (hlaw "src/lib.rs" hback).2 rfl⟩

/-- The pattern of a file at the top excludes other files as well. -/
theorem exists_excludes_filePattern_ne : ∃ file path : String,
    ('\\' ∉ file.toList ∧ '\n' ∉ file.toList ∧ IsPlain file.toList ∧ IsClean file) ∧
    ('\\' ∉ path.toList ∧ '\n' ∉ path.toList ∧ IsClean path) ∧
      (ofPatterns [filePattern file]).excludes path = true ∧ path ≠ file :=
  ⟨"a.txt", "docs/a.txt", by decide, by decide, by decide, by decide⟩

/-! ## A folder -/

/-- The text of a folder without the slash that may stand at its end. -/
def folderStem (text : List Char) : List Char :=
  if text.getLast? = some '/' then text.dropLast else text

theorem eq_folderStem_or (text : List Char) :
    text = folderStem text ∨ text = folderStem text ++ ['/'] := by
  rw [folderStem]
  split
  · next h =>
    obtain ⟨front, rfl⟩ := List.getLast?_eq_some_iff.1 h
    rw [List.dropLast_concat]
    exact Or.inr rfl
  · exact Or.inl rfl

theorem mem_of_mem_folderStem {c : Char} (h : c ∈ folderStem text) : c ∈ text := by
  rcases eq_folderStem_or text with heq | heq <;> rw [heq]
  · exact h
  · exact List.mem_append_left _ h

theorem folderPattern_eq (hback : '\\' ∉ folder.toList) :
    folderPattern folder = String.ofList (folderStem folder.toList ++ anythingBelow) := by
  rw [folderPattern, Path.forwardSlashes_of_notMem hback, folderStem]
  split
  · next h =>
    obtain ⟨front, hfront⟩ := List.getLast?_eq_some_iff.1 h
    rw [hfront, List.dropLast_concat, List.append_assoc]
    rfl
  · rfl

theorem trim_folderStem_append (h : Text.trim text = text) :
    Text.trim (folderStem text ++ anythingBelow) = folderStem text ++ anythingBelow := by
  rcases eq_folderStem_or text with heq | heq
  · rw [← heq]
    exact Text.trim_append h rfl
  · have hsplit : folderStem text ++ anythingBelow = text ++ ['*', '*'] := by
      conv_rhs => rw [heq, List.append_assoc]
      rfl
    rw [hsplit]
    exact Text.trim_append h rfl

/-- **What the pattern of a folder excludes**: what is spelled behind the folder. -/
theorem excludes_folderPattern_iff (hback : '\\' ∉ folder.toList) (hplain : IsPlain folder.toList)
    (hfits : Fits (folderPattern folder)) (hpath : '\\' ∉ path.toList) :
    (ofPatterns [folderPattern folder]).excludes path = true ↔
      ∃ below, path.toList = folderStem folder.toList ++ '/' :: below ∧ '\n' ∉ below := by
  have htext : (folderPattern folder).toList = folderStem folder.toList ++ anythingBelow := by
    rw [folderPattern_eq hback, String.toList_ofList]
  have hbacks : '\\' ∉ folderStem folder.toList ++ anythingBelow := by
    rw [List.mem_append, not_or]
    exact ⟨fun hmem => hback (mem_of_mem_folderStem hmem), by decide⟩
  have hslash : '/' ∈ folderStem folder.toList ++ anythingBelow :=
    List.mem_append_right _ (by decide)
  have hnormal : normalPattern (folderPattern folder) = folderStem folder.toList ++ anythingBelow :=
    normalPattern_of_trim htext hbacks (trim_folderStem_append hplain.trimmed)
  rw [Matcher.excludes_singleton_iff hfits, hnormal, expand_of_slash hslash,
    Path.forwardSlashes_of_notMem hpath, and_iff_right (List.ne_nil_of_mem hslash)]
  simp only [List.mem_singleton, exists_eq_left]
  exact matches_append_anythingBelow_iff (fun hmem => hplain.no_star (mem_of_mem_folderStem hmem))
    fun hmem => hplain.no_mark (mem_of_mem_folderStem hmem)

/-- The pattern of a folder excludes all that lies below it and nothing else. -/
def ExcludesBelow (folder : String) : Prop :=
  ∀ path : String, IsClean path → '\n' ∉ path.toList → '\\' ∉ path.toList →
    ((ofPatterns [folderPattern folder]).excludes path = true ↔ LiesBelow path folder)

theorem liesBelow_folderStem_iff (hanchor : (Path.ofText folder).anchor = [])
    (hclean : IsClean (String.ofList (folderStem folder.toList))) :
    LiesBelow path (String.ofList (folderStem folder.toList)) ↔ LiesBelow path folder := by
  rcases eq_folderStem_or folder.toList with heq | heq
  · rw [← heq, String.ofList_toList]
  · have hfolder : folder = String.ofList (folderStem folder.toList) ++ "/" := by
      rw [← String.toList_inj, String.toList_append, String.toList_ofList]
      exact heq
    rw [hfolder] at hanchor
    conv_rhs => rw [hfolder]
    exact (Path.liesBelow_append_slash hclean.anchor hanchor).symm

/-- **What the pattern that is built for a folder excludes.**

It excludes what is spelled behind the folder and a slash.  For paths that are spelled plainly this
means what lies below the folder and nothing else, exactly when the folder is spelled plainly too.
The root is not: seen from itself it is the empty text, everything lies below it, and its pattern
excludes nothing. -/
theorem excludesBelow_iff (hback : '\\' ∉ folder.toList) (hnew : '\n' ∉ folder.toList)
    (hplain : IsPlain folder.toList) (hfits : Fits (folderPattern folder)) :
    (∀ path : String, '\\' ∉ path.toList →
      ((ofPatterns [folderPattern folder]).excludes path = true ↔
        ∃ below, path.toList = folderStem folder.toList ++ '/' :: below ∧ '\n' ∉ below)) ∧
    ((Path.ofText folder).anchor = [] →
      (ExcludesBelow folder ↔ IsClean (String.ofList (folderStem folder.toList)))) ∧
    ∀ root p : Path, root.components ≠ [] → p.Same root → p.relativeTo root = folder →
      folder = "" ∧ ∀ path : String, IsClean path → '\\' ∉ path.toList →
        LiesBelow path folder ∧ (ofPatterns [folderPattern folder]).excludes path = false := by
  have hiff {path : String} (hpath : '\\' ∉ path.toList) :=
    excludes_folderPattern_iff hback hplain hfits hpath
  refine ⟨fun path => hiff,
    fun hanchor => ⟨fun hlaw => ?_, fun hclean path hfile hline hpath => ?_⟩,
    fun root p hroot hsame hseen => ?_⟩
  · -- Something lies below the folder, is excluded, and so begins with the text of the folder.
    obtain ⟨path, hfile, hbelow, hchars⟩ := Path.exists_liesBelow hanchor
    have hother : ∀ c ∉ folder.toList, c ≠ '/' → c ≠ 'x' → c ∉ path.toList :=
      fun c hc hslash hx hmem => (hchars c hmem).elim hslash fun h => h.elim hx hc
    have hpath := hother '\\' hback (by decide) (by decide)
    have hexcludes := (hlaw path hfile (hother '\n' hnew (by decide) (by decide)) hpath).2 hbelow
    obtain ⟨below, heq, -⟩ := (hiff hpath).1 hexcludes
    exact hfile.of_toList_eq heq
  · rw [hiff hpath, ← liesBelow_folderStem_iff hanchor hclean, Path.liesBelow_iff hfile hclean,
      String.toList_ofList]
    refine exists_congr fun below => and_iff_left_of_imp fun heq hmem => hline ?_
    rw [heq]
    exact List.mem_append_right _ (List.mem_cons_of_mem _ hmem)
  · rw [Path.relativeTo_of_same hsame hroot] at hseen
    subst hseen
    refine ⟨rfl, fun path hfile hpath => ⟨Path.liesBelow_empty hfile, ?_⟩⟩
    rw [Bool.eq_false_iff, Ne, hiff hpath]
    rintro ⟨below, heq, -⟩
    exact hfile.head?_ne (by rw [heq]; rfl)

/-- A folder in a folder. -/
theorem excludesBelow_iff_nested :
    '\\' ∉ "docs/api".toList ∧ '\n' ∉ "docs/api".toList ∧ IsPlain "docs/api".toList ∧
      Fits (folderPattern "docs/api") ∧ ExcludesBelow "docs/api" := by
  have hback : '\\' ∉ "docs/api".toList := by decide
  have hnew : '\n' ∉ "docs/api".toList := by decide
  have hplain : IsPlain "docs/api".toList := by decide
  have hfits : Fits (folderPattern "docs/api") := fits_of_length_le (by decide)
  exact ⟨hback, hnew, hplain, hfits,
    ((excludesBelow_iff hback hnew hplain hfits).2.1 rfl).2 (by decide)⟩

/-- The pattern of the root excludes nothing of what lies below it. -/
theorem exists_not_excludes_root : ∃ (root : Path) (path : String),
    root.relativeTo root = "" ∧ IsPlain "".toList ∧
    ('\\' ∉ path.toList ∧ '\n' ∉ path.toList ∧ IsClean path) ∧ LiesBelow path "" ∧
      (ofPatterns [folderPattern (root.relativeTo root)]).excludes path = false := by
  have hclean : IsClean "a.txt" := by decide
  exact ⟨Path.ofText "/w", "a.txt", by decide, by decide, by decide, Path.liesBelow_empty hclean,
    by decide⟩

end Exclude
end EmojiLint
