import EmojiLint.Proofs.Exclude.Below
import EmojiLint.Proofs.Exclude.Matcher

/-!
# Folders that a pattern covers

A pattern that excludes a folder need not exclude what is below it.  It does when one of its globs
matches the folder and reaches below, and then everything below is excluded; a plain name always has
such a glob.

* `Matcher.coversFolder` — whether a glob that reaches below matches a folder.
* `Matcher.excludes_of_coversFolder` — everything below a covered folder is excluded.
* `Matcher.coversFolder_iff_forall` — a single pattern covers those folders below which it excludes
  everything.
* `Matcher.coversFolder_of_plain` — a plain name covers every folder that it excludes.
-/

set_option autoImplicit false

namespace EmojiLint
namespace Glob

variable {glob back : Glob} {path : List Char} {c : Char} {n : Nat}

/-! ## Reading globs that reach below -/

/-- A text without wildcards is read character by character. -/
theorem parse_append {plain text : List Char} (hstar : '*' ∉ plain) (hmark : '?' ∉ plain) :
    parse (plain ++ text) = plain.map .literal ++ parse text := by
  induction plain with
  | nil => rfl
  | cons c plain ih =>
    rw [List.cons_append, parse_literal (List.ne_of_not_mem_cons hstar).symm
      (List.ne_of_not_mem_cons hmark).symm, ih (List.not_mem_of_not_mem_cons hstar)
      (List.not_mem_of_not_mem_cons hmark)]
    rfl

theorem parse_anyFolder_append (text : List Char) :
    parse (Exclude.anyFolder ++ text) = .anyRun :: .literal '/' :: parse text := by
  rw [Exclude.anyFolder, List.cons_append, List.cons_append, List.singleton_append, parse_anyRun,
    parse_literal (by decide) (by decide)]

theorem mem_of_literal_mem_parse {text : List Char} (h : .literal c ∈ parse text) : c ∈ text := by
  fun_induction parse text with
  | case1 => cases h
  | case2 d =>
    split_ifs at h <;> simp_all
  | case3 cs ih =>
    rcases List.mem_cons.1 h with h | h
    · cases h
    · exact List.mem_cons_of_mem _ (List.mem_cons_of_mem _ (ih h))
  | case4 d cs hd ih =>
    rcases List.mem_cons.1 h with h | h
    · cases h
    · exact List.mem_cons_of_mem _ (ih h)
  | case5 d cs hc ih =>
    rcases List.mem_cons.1 h with h | h
    · cases h
    · exact List.mem_cons_of_mem _ (ih h)
  | case6 c d cs hc hd ih =>
    rcases List.mem_cons.1 h with h | h
    · rw [GlobPiece.literal.inj h]
      exact List.mem_cons_self
    · exact List.mem_cons_of_mem _ (ih h)

/-- Nothing but two stars in a row and a slash matches a slash. -/
theorem slash_notMem_of_accepts (h : accepts glob path = true) (hrun : .anyRun ∉ glob)
    (hslash : .literal '/' ∉ glob) : '/' ∉ path := by
  induction glob generalizing path with
  | nil =>
    rw [accepts_nil, List.isEmpty_iff] at h
    rw [h]
    exact List.not_mem_nil
  | cons piece glob ih =>
    obtain ⟨run, rest, rfl, htakes, hrest⟩ := accepts_cons_iff.1 h
    have hhead : '/' ∉ run := by
      cases piece with
      | anyRun => exact absurd List.mem_cons_self hrun
      | segmentRun => exact htakes
      | segmentChar =>
        obtain ⟨c, hc, rfl⟩ := htakes
        exact fun hmem => hc (List.mem_singleton.1 hmem).symm
      | literal c =>
        obtain rfl : run = [c] := htakes
        exact fun hmem => List.ne_of_not_mem_cons hslash (by rw [List.mem_singleton.1 hmem])
    rw [List.mem_append, not_or]
    exact ⟨hhead, ih hrest (List.not_mem_of_not_mem_cons hrun)
      (List.not_mem_of_not_mem_cons hslash)⟩

/-- Without slashes, an end of stars and slashes is open. -/
theorem isOpen_of_forall (hback : ∀ piece ∈ back, piece = .segmentRun ∨ piece = .literal '/')
    (hslash : .literal '/' ∉ back) : isOpen back = true := by
  induction back with
  | nil => rfl
  | cons piece back ih =>
    obtain rfl : piece = .segmentRun := (hback piece List.mem_cons_self).resolve_right fun h =>
      List.ne_of_not_mem_cons hslash h.symm
    exact ih (fun piece hmem => hback piece (List.mem_cons_of_mem _ hmem))
      (List.not_mem_of_not_mem_cons hslash)

/-- Where a name is to be found does not matter to whether it ends in stars. -/
theorem reachesBelow_of_mem (hrun : .anyRun ∈ glob) (hslash : .literal '/' ∉ glob)
    (hn : glob.length + 2 < n)
    (h : accepts glob (path ++ slashes n) = true ∨
      accepts (.anyRun :: .literal '/' :: glob) (path ++ slashes n) = true) :
    reachesBelow glob = true := by
  have hend : EndsLoose glob := by
    rcases h with h | h
    · exact endsLoose_of_accepts_slashes (by omega) h
    · obtain ⟨front, back, heq, hback⟩ := endsLoose_of_accepts_slashes hn h
      match front with
      | [] =>
        obtain rfl := (List.cons.inj heq).2
        simpa using hback _ (List.mem_cons_of_mem _ hrun)
      | [_] => simpa using (List.cons.inj (List.cons.inj heq).2).1
      | _ :: _ :: front => exact ⟨front, back, (List.cons.inj (List.cons.inj heq).2).2, hback⟩
  obtain ⟨front, back, rfl, hback⟩ := hend
  refine reachesBelow_iff.2 ⟨front, back, rfl, isOpen_of_forall hback fun hmem => hslash ?_⟩
  exact List.mem_append_right _ (List.mem_cons_of_mem _ hmem)

end Glob

namespace Exclude

open Glob (Matches reachesBelow)

variable {text path : List Char} {pattern folder below : String} {patterns : List String}
  {m : Matcher}

/-- The globs of a plain name that speak of what is below reach below. -/
theorem reachesBelow_parse_append (hstar : '*' ∉ text) (hmark : '?' ∉ text) :
    reachesBelow (Glob.parse (text ++ anythingBelow)) = true := by
  have hbelow : Glob.parse anythingBelow = [.literal '/', .anyRun] := by decide
  rw [Glob.parse_append hstar hmark, hbelow, Glob.reachesBelow_iff]
  exact ⟨text.map .literal ++ [.literal '/'], [], by simp, rfl⟩

theorem reachesBelow_cons {piece : GlobPiece} {glob : Glob} (h : reachesBelow glob = true) :
    reachesBelow (piece :: glob) = true := by
  rw [reachesBelow, h, Bool.or_true]

/-- A plain name at any depth is no folder with a slash at its end. -/
theorem not_accepts_anyFolder_append (hblank : text ≠ []) (hslash : '/' ∉ text)
    (hstar : '*' ∉ text) (hmark : '?' ∉ text) :
    ¬ Glob.accepts (Glob.parse (anyFolder ++ text)) (path ++ ['/']) = true := by
  intro h
  obtain ⟨front, last, hconcat⟩ := (List.eq_nil_or_concat text).resolve_left hblank
  rw [List.concat_eq_append] at hconcat
  subst hconcat
  rw [Glob.accepts_parse_iff, anyFolder, List.cons_append, List.cons_append, List.singleton_append,
    Glob.matches_anyRun_iff] at h
  obtain ⟨run, rest, heq, -, h⟩ := h
  obtain rfl := (Glob.matches_plain_iff (by simpa using hstar) (by simpa using hmark)).1 h
  rw [← List.cons_append, ← List.append_assoc] at heq
  obtain ⟨-, hlast⟩ := List.append_inj' heq rfl
  rw [← (List.cons.inj hlast).1] at hslash
  exact hslash (List.mem_append_right _ List.mem_cons_self)

namespace Matcher

/-- Whether a glob that reaches below matches a folder. -/
def coversFolder (m : Matcher) (folder : String) : Bool :=
  m.globs.any fun glob =>
    glob.reachesBelow && glob.accepts (Path.forwardSlashes folder.toList ++ ['/'])

theorem toList_below (folder below : String) :
    Path.forwardSlashes (folder ++ "/" ++ below).toList =
      Path.forwardSlashes folder.toList ++ '/' :: Path.forwardSlashes below.toList := by
  rw [String.toList_append, String.toList_append, Path.forwardSlashes_append,
    Path.forwardSlashes_append, List.append_assoc]
  rfl

/-- **Everything below a covered folder is excluded.** -/
theorem excludes_of_coversFolder (h : m.coversFolder folder = true)
    (hpath : '\n' ∉ (folder ++ "/" ++ below).toList) :
    m.excludes (folder ++ "/" ++ below) = true := by
  have hnew := Path.lineFeed_notMem_forwardSlashes hpath
  rw [toList_below] at hnew
  obtain ⟨glob, hglob, hcovers⟩ := List.any_eq_true.1 h
  obtain ⟨hreach, haccepts⟩ := Bool.and_eq_true_iff.1 hcovers
  refine List.any_eq_true.2 ⟨glob, hglob, ?_⟩
  rw [toList_below]
  rw [List.mem_append, List.mem_cons, not_or, not_or] at hnew
  exact (Glob.reachesBelow_iff_forall hnew.1).1 ⟨hreach, haccepts⟩ _ hnew.2.2

theorem exists_parse_of_mem_compile {glob : Glob} (h : glob ∈ compile pattern) :
    ∃ text ∈ expand (normalPattern pattern), glob = Glob.parse text := by
  obtain ⟨-, text, htext, hcompile⟩ := mem_compile_iff.1 h
  refine ⟨text, htext, ?_⟩
  rw [Glob.compile?] at hcompile
  split at hcompile
  · rw [← Option.some_inj.1 hcompile, Glob.ofText, Path.forwardSlashes_of_notMem]
    exact backslash_notMem_of_mem_expand (backslash_notMem_normalPattern pattern) htext
  · cases hcompile

/-- The globs of a pattern together match everything below a folder. -/
def MatchBelow (globs : List Glob) (folder : List Char) : Prop :=
  ∀ below, '\n' ∉ below → '\\' ∉ below →
    ∃ glob ∈ globs, Glob.accepts glob (folder ++ '/' :: below) = true

section

variable {globs : List Glob} (h : MatchBelow globs path)
include h

theorem MatchBelow.root : ∃ glob ∈ globs, Glob.accepts glob (path ++ ['/']) = true :=
  h [] List.not_mem_nil List.not_mem_nil

theorem MatchBelow.slashes (n : Nat) :
    ∃ glob ∈ globs, Glob.accepts glob (path ++ Glob.slashes (n + 1)) = true :=
  h (Glob.slashes n) (Glob.notMem_slashes (by decide) n) (Glob.notMem_slashes (by decide) n)

theorem MatchBelow.steps (n : Nat) :
    ∃ glob ∈ globs, Glob.accepts glob (path ++ Glob.steps (n + 1)) = true := by
  refine h ('-' :: Glob.steps n) ?_ ?_ <;>
    exact List.not_mem_cons_of_ne_of_not_mem (by decide)
      (Glob.notMem_steps (by decide) (by decide) n)

/-- One glob has to do everything by itself. -/
theorem MatchBelow.exists_of_eq {glob : Glob}
    (heq : ∀ other ∈ globs, ∀ below, '/' ∈ below → Glob.accepts other below = true →
      other = glob) :
    ∃ glob ∈ globs, reachesBelow glob = true ∧ Glob.accepts glob (path ++ ['/']) = true := by
  obtain ⟨other, hmem, hroot⟩ := h.root
  obtain rfl := heq other hmem _ (by simp) hroot
  refine ⟨other, hmem, ?_, hroot⟩
  obtain ⟨slashed, hslashed, hslashes⟩ := h.slashes other.length
  obtain ⟨stepped, hstepped, hsteps⟩ := h.steps other.length
  obtain rfl := heq slashed hslashed _ (by simp [Glob.slashes]) hslashes
  obtain rfl := heq stepped hstepped _ (by simp [Glob.steps]) hsteps
  exact Glob.reachesBelow_of_accepts (Nat.lt_succ_self _) hslashes hsteps

/-- A pattern with a slash has one glob. -/
theorem MatchBelow.exists_of_slash (hslash : '/' ∈ text)
    (hglobs : ∀ glob ∈ globs, ∃ other ∈ expand text, glob = Glob.parse other) :
    ∃ glob ∈ globs, reachesBelow glob = true ∧ Glob.accepts glob (path ++ ['/']) = true := by
  have hone : ∀ glob ∈ globs, glob = Glob.parse text := by
    intro glob hglob
    obtain ⟨other, hother, rfl⟩ := hglobs glob hglob
    rw [expand_of_slash hslash, List.mem_singleton] at hother
    rw [hother]
  exact h.exists_of_eq fun glob hglob _ _ _ => hone glob hglob

/-- A name with a wildcard has a glob for the name and one for the name at any depth. -/
theorem MatchBelow.exists_of_wildcard (hslash : '/' ∉ text) (hwild : '*' ∈ text ∨ '?' ∈ text)
    (hglobs : ∀ glob ∈ globs, ∃ other ∈ expand text, glob = Glob.parse other) :
    ∃ glob ∈ globs, reachesBelow glob = true ∧ Glob.accepts glob (path ++ ['/']) = true := by
  have hliteral : .literal '/' ∉ Glob.parse text := fun hmem =>
    hslash (Glob.mem_of_literal_mem_parse hmem)
  rw [expand_of_wildcard hslash hwild] at hglobs
  have hcases : ∀ glob ∈ globs, glob = Glob.parse text ∨
      glob = .anyRun :: .literal '/' :: Glob.parse text := by
    intro glob hglob
    obtain ⟨other, hother, rfl⟩ := hglobs glob hglob
    simp only [List.mem_cons, List.not_mem_nil, or_false] at hother
    rcases hother with rfl | rfl
    · exact Or.inl rfl
    · exact Or.inr (Glob.parse_anyFolder_append text)
  by_cases hrun : .anyRun ∈ Glob.parse text
  · -- The name has two stars in a row itself, and both globs end as it does.
    obtain ⟨glob, hglob, hslashes⟩ := h.slashes ((Glob.parse text).length + 2)
    have hreach : reachesBelow (Glob.parse text) = true := by
      rcases hcases glob hglob with rfl | rfl
      · exact Glob.reachesBelow_of_mem hrun hliteral (Nat.lt_succ_self _) (Or.inl hslashes)
      · exact Glob.reachesBelow_of_mem hrun hliteral (Nat.lt_succ_self _) (Or.inr hslashes)
    obtain ⟨glob, hglob, hroot⟩ := h.root
    refine ⟨glob, hglob, ?_, hroot⟩
    rcases hcases glob hglob with rfl | rfl
    · exact hreach
    · exact reachesBelow_cons (reachesBelow_cons hreach)
  · -- Only the glob with two stars in front can match a slash.
    have hone : ∀ glob ∈ globs, ∀ below, '/' ∈ below → Glob.accepts glob below = true →
        glob = .anyRun :: .literal '/' :: Glob.parse text := by
      intro glob hglob below hbelow haccepts
      refine (hcases glob hglob).resolve_left ?_
      rintro rfl
      exact Glob.slash_notMem_of_accepts haccepts hrun hliteral hbelow
    exact h.exists_of_eq hone

/-- Of the globs of a plain name, the two for what is below reach below, and the other two do not
match a folder with a slash at its end. -/
theorem MatchBelow.exists_of_plain (hblank : text ≠ []) (hslash : '/' ∉ text) (hstar : '*' ∉ text)
    (hmark : '?' ∉ text)
    (hglobs : ∀ glob ∈ globs, ∃ other ∈ expand text, glob = Glob.parse other) :
    ∃ glob ∈ globs, reachesBelow glob = true ∧ Glob.accepts glob (path ++ ['/']) = true := by
  obtain ⟨glob, hglob, hroot⟩ := h.root
  refine ⟨glob, hglob, ?_, hroot⟩
  obtain ⟨other, hother, rfl⟩ := hglobs glob hglob
  rw [expand_of_plain hslash hstar hmark] at hother
  simp only [List.mem_cons, List.not_mem_nil, or_false] at hother
  rcases hother with rfl | rfl | rfl | rfl
  · rw [Glob.accepts_parse_iff, Glob.matches_plain_iff hstar hmark] at hroot
    exact absurd (hroot ▸ List.mem_append_right _ List.mem_cons_self) hslash
  · exact absurd hroot (not_accepts_anyFolder_append hblank hslash hstar hmark)
  · exact reachesBelow_parse_append hstar hmark
  · rw [List.append_assoc, Glob.parse_anyFolder_append]
    exact reachesBelow_cons (reachesBelow_cons (reachesBelow_parse_append hstar hmark))

/-- **Of the globs of a pattern that together match everything below a folder, one reaches below by
itself.** -/
theorem MatchBelow.exists_reachesBelow (hblank : text ≠ [])
    (hglobs : ∀ glob ∈ globs, ∃ other ∈ expand text, glob = Glob.parse other) :
    ∃ glob ∈ globs, reachesBelow glob = true ∧ Glob.accepts glob (path ++ ['/']) = true := by
  by_cases hslash : '/' ∈ text
  · exact h.exists_of_slash hslash hglobs
  by_cases hwild : '*' ∈ text ∨ '?' ∈ text
  · exact h.exists_of_wildcard hslash hwild hglobs
  · obtain ⟨hstar, hmark⟩ := not_or.1 hwild
    exact h.exists_of_plain hblank hslash hstar hmark hglobs

end

/-- **A pattern covers the folders below which it excludes everything.** -/
theorem coversFolder_iff_forall (hfolder : '\n' ∉ folder.toList) :
    (ofPatterns [pattern]).coversFolder folder = true ↔
      ∀ below : String, '\n' ∉ below.toList →
        (ofPatterns [pattern]).excludes (folder ++ "/" ++ below) = true := by
  constructor
  · intro h below hbelow
    refine excludes_of_coversFolder h ?_
    simpa [hfolder] using hbelow
  · intro h
    have hglobs : (ofPatterns [pattern]).globs = compile pattern := List.flatMap_singleton ..
    have hmatch : MatchBelow (compile pattern) (Path.forwardSlashes folder.toList) := by
      intro below hnew hback
      have hexcludes := h (String.ofList below) (by rwa [String.toList_ofList])
      rw [excludes, toList_below, String.toList_ofList, Path.forwardSlashes_of_notMem hback, hglobs]
        at hexcludes
      exact List.any_eq_true.1 hexcludes
    have hblank : normalPattern pattern ≠ [] := by
      intro hblank
      obtain ⟨glob, hglob, -⟩ := hmatch.root
      exact (mem_compile_iff.1 hglob).1 hblank
    obtain ⟨glob, hglob, hreach, haccepts⟩ :=
      hmatch.exists_reachesBelow hblank fun glob => exists_parse_of_mem_compile
    refine List.any_eq_true.2 ⟨glob, hglobs ▸ hglob, ?_⟩
    rw [hreach, haccepts, Bool.and_self]

/-- **A plain name covers every folder that it excludes.** -/
theorem coversFolder_of_plain (hfits : Fits pattern)
    (hslash : '/' ∉ normalPattern pattern) (hstar : '*' ∉ normalPattern pattern)
    (hmark : '?' ∉ normalPattern pattern) (hfolder : '\n' ∉ folder.toList)
    (h : (ofPatterns [pattern]).excludes folder = true ∨
      (ofPatterns [pattern]).excludes (folder ++ "/") = true) :
    (ofPatterns [pattern]).coversFolder folder = true := by
  have hselects {path : String} (hpath : '\n' ∉ path.toList) :=
    excludes_singleton_iff_mem_segments hfits hslash hstar hmark hpath
  have hsegments : ∀ below : String, Path.segments
      (Path.forwardSlashes (folder ++ "/" ++ below).toList) =
        Path.segments (Path.forwardSlashes folder.toList) ++
          Path.segments (Path.forwardSlashes below.toList) := by
    intro below
    rw [toList_below, Path.segments_append_cons]
  have hname : normalPattern pattern ≠ [] ∧
      normalPattern pattern ∈ Path.segments (Path.forwardSlashes folder.toList) := by
    rcases h with h | h
    · exact (hselects hfolder).1 h
    · have hslashed : folder ++ "/" = folder ++ "/" ++ "" := String.append_empty.symm
      rw [hslashed, hselects (by simpa using hfolder), hsegments] at h
      refine ⟨h.1, (List.mem_append.1 h.2).resolve_right fun hmem => h.1 ?_⟩
      exact List.mem_singleton.1 hmem
  refine (coversFolder_iff_forall hfolder).2 fun below hbelow => ?_
  rw [hselects (by simpa [hfolder] using hbelow), hsegments]
  exact ⟨hname.1, List.mem_append_left _ hname.2⟩

end Matcher
end Exclude
end EmojiLint
