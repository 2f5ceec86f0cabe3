import EmojiLint.Exclude.Glob

/-!
# What globs match

A glob is read from left to right: two stars in a row stand for any characters but line feeds, one
star for any characters but slashes, a question mark for one character that is not a slash, and
every other character for itself.  `Glob.Matches` says so of the text of a glob, without reading it
into pieces first and without the rows by which a match is decided.

* `accepts_run_iff`, `accepts_segmentChar_iff`, `accepts_literal_iff` — what the rows decide, piece
  by piece.
* `accepts_ofText_iff` — a glob accepts the paths that its text matches.
-/

set_option autoImplicit false

namespace EmojiLint

/-- The character at which a run of characters ends. -/
def GlobPiece.stop? : GlobPiece → Option Char
  | anyRun => some '\n'
  | segmentRun => some '/'
  | segmentChar => none
  | literal _ => none

namespace Glob

/-- A path matches the text of a glob. -/
inductive Matches : List Char → List Char → Prop
  /-- The empty glob matches the empty path. -/
  | done : Matches [] []
  /-- Two stars stand for any characters but line feeds. -/
  | anyRun {run text rest : List Char} (hrun : '\n' ∉ run) (h : Matches text rest) :
      Matches ('*' :: '*' :: text) (run ++ rest)
  /-- A star that is not the first of two stands for any characters but slashes. -/
  | segmentRun {run text rest : List Char} (hlone : text.head? ≠ some '*') (hrun : '/' ∉ run)
      (h : Matches text rest) : Matches ('*' :: text) (run ++ rest)
  /-- A question mark stands for one character that is not a slash. -/
  | segmentChar {c : Char} {text rest : List Char} (hc : c ≠ '/') (h : Matches text rest) :
      Matches ('?' :: text) (c :: rest)
  /-- Every other character stands for itself. -/
  | literal {c : Char} {text rest : List Char} (hstar : c ≠ '*') (hmark : c ≠ '?')
      (h : Matches text rest) : Matches (c :: text) (c :: rest)

variable {glob : Glob} {piece : GlobPiece} {c stop : Char} {path text : List Char}

/-! ## The pieces of a glob, one by one -/

/-- The row of a path goes on with the row of the path without its first character. -/
theorem tail_rows (glob : Glob) (c : Char) (path : List Char) :
    (rows glob (c :: path)).tail = rows glob path := by
  induction glob with
  | nil => rfl
  | cons piece glob ih =>
    show extend piece path (rows glob (c :: path)).tail = extend piece path (rows glob path)
    rw [ih]

theorem accepts_nil : accepts [] path = path.isEmpty := by
  cases path <;> rfl

theorem accepts_run_nil (h : piece.stop? = some stop) :
    accepts (piece :: glob) [] = accepts glob [] := by
  cases piece with
  | anyRun | segmentRun => rfl
  | segmentChar | literal _ => cases h

theorem accepts_run_cons (h : piece.stop? = some stop) :
    accepts (piece :: glob) (c :: path) =
      (accepts glob (c :: path) || (c != stop && accepts (piece :: glob) path)) := by
  cases piece with
  | anyRun | segmentRun =>
    cases h
    show (_ || (_ != _ && (extend _ path (rows glob (c :: path)).tail).headD false)) = _
    rw [tail_rows]
    rfl
  | segmentChar | literal _ => cases h

/-- A run takes any characters up to the one at which it ends. -/
theorem accepts_run_iff (h : piece.stop? = some stop) :
    accepts (piece :: glob) path = true ↔
      ∃ run rest, path = run ++ rest ∧ stop ∉ run ∧ accepts glob rest = true := by
  induction path with
  | nil =>
    rw [accepts_run_nil h]
    refine ⟨fun haccepts => ⟨[], [], rfl, List.not_mem_nil, haccepts⟩, ?_⟩
    rintro ⟨run, rest, hpath, -, haccepts⟩
    rw [(List.append_eq_nil_iff.1 hpath.symm).2] at haccepts
    exact haccepts
  | cons c path ih =>
    rw [accepts_run_cons h, Bool.or_eq_true, Bool.and_eq_true, bne_iff_ne, ih]
    constructor
    · rintro (haccepts | ⟨hc, run, rest, rfl, hrun, haccepts⟩)
      · exact ⟨[], c :: path, rfl, List.not_mem_nil, haccepts⟩
      · exact ⟨c :: run, rest, rfl, List.not_mem_cons_of_ne_of_not_mem hc.symm hrun, haccepts⟩
    · rintro ⟨run, rest, hpath, hrun, haccepts⟩
      cases run with
      | nil => exact Or.inl (hpath ▸ haccepts)
      | cons d run =>
        obtain ⟨rfl, rfl⟩ := List.cons.inj hpath
        have hc := List.ne_of_not_mem_cons hrun
        exact Or.inr ⟨hc.symm, run, rest, rfl, List.not_mem_of_not_mem_cons hrun, haccepts⟩

theorem accepts_segmentChar_iff :
    accepts (.segmentChar :: glob) path = true ↔
      ∃ c rest, path = c :: rest ∧ c ≠ '/' ∧ accepts glob rest = true := by
  cases path with
  | nil => exact iff_of_false Bool.false_ne_true (by rintro ⟨c, rest, hpath, -⟩; cases hpath)
  | cons c path =>
    have haccepts : accepts (.segmentChar :: glob) (c :: path) =
        (c != '/' && (rows glob (c :: path)).tail.headD false) := rfl
    rw [haccepts, tail_rows, Bool.and_eq_true, bne_iff_ne]
    constructor
    · rintro ⟨hc, hrest⟩
      exact ⟨c, path, rfl, hc, hrest⟩
    · rintro ⟨d, rest, hpath, hd, hrest⟩
      obtain ⟨rfl, rfl⟩ := List.cons.inj hpath
      exact ⟨hd, hrest⟩

theorem accepts_literal_iff :
    accepts (.literal c :: glob) path = true ↔
      ∃ rest, path = c :: rest ∧ accepts glob rest = true := by
  cases path with
  | nil => exact iff_of_false Bool.false_ne_true (by rintro ⟨rest, hpath, -⟩; cases hpath)
  | cons d path =>
    have haccepts : accepts (.literal c :: glob) (d :: path) =
        (d == c && (rows glob (d :: path)).tail.headD false) := rfl
    rw [haccepts, tail_rows, Bool.and_eq_true, beq_iff_eq]
    constructor
    · rintro ⟨rfl, hrest⟩
      exact ⟨path, rfl, hrest⟩
    · rintro ⟨rest, hpath, hrest⟩
      obtain ⟨rfl, rfl⟩ := List.cons.inj hpath
      exact ⟨rfl, hrest⟩

/-! ## Reading a glob -/

theorem parse_anyRun (text : List Char) : parse ('*' :: '*' :: text) = .anyRun :: parse text := by
  rw [parse, if_pos rfl, if_pos rfl]

theorem parse_segmentRun (h : text.head? ≠ some '*') :
    parse ('*' :: text) = .segmentRun :: parse text := by
  cases text with
  | nil => rfl
  | cons d text =>
    have hd : d ≠ '*' := fun hd => h (congrArg some hd)
    rw [parse, if_pos rfl, if_neg hd]

theorem parse_segmentChar (text : List Char) :
    parse ('?' :: text) = .segmentChar :: parse text := by
  cases text with
  | nil => rfl
  | cons d text => rw [parse, if_neg (by decide), if_pos rfl]

theorem parse_literal (hstar : c ≠ '*') (hmark : c ≠ '?') (text : List Char) :
    parse (c :: text) = .literal c :: parse text := by
  cases text with
  | nil => simp only [parse, if_neg hstar, if_neg hmark]
  | cons d text => rw [parse, if_neg hstar, if_neg hmark]

theorem accepts_parse_of_matches (h : Matches text path) : accepts (parse text) path = true := by
  induction h with
  | done => rfl
  | anyRun hrun _ ih =>
    rw [parse_anyRun]
    exact (accepts_run_iff rfl).2 ⟨_, _, rfl, hrun, ih⟩
  | segmentRun hlone hrun _ ih =>
    rw [parse_segmentRun hlone]
    exact (accepts_run_iff rfl).2 ⟨_, _, rfl, hrun, ih⟩
  | segmentChar hc _ ih =>
    rw [parse_segmentChar]
    exact accepts_segmentChar_iff.2 ⟨_, _, rfl, hc, ih⟩
  | literal hstar hmark _ ih =>
    rw [parse_literal hstar hmark]
    exact accepts_literal_iff.2 ⟨_, rfl, ih⟩

theorem matches_of_accepts_parse (h : accepts (parse text) path = true) : Matches text path := by
  induction hn : text.length using Nat.strongRecOn generalizing text path with
  | ind n ih =>
    subst hn
    match text with
    | [] =>
      rw [parse, accepts_nil, List.isEmpty_iff] at h
      rw [h]
      exact .done
    | c :: text =>
      have hshort : text.length < (c :: text).length := Nat.lt_succ_self _
      by_cases hstar : c = '*'
      · subst hstar
        by_cases hlone : text.head? = some '*'
        · obtain ⟨text, rfl⟩ := List.head?_eq_some_iff.1 hlone
          rw [parse_anyRun] at h
          obtain ⟨run, rest, rfl, hrun, hrest⟩ := (accepts_run_iff rfl).1 h
          exact .anyRun hrun (ih _ (Nat.lt_trans (Nat.lt_succ_self _) hshort) hrest rfl)
        · rw [parse_segmentRun hlone] at h
          obtain ⟨run, rest, rfl, hrun, hrest⟩ := (accepts_run_iff rfl).1 h
          exact .segmentRun hlone hrun (ih _ hshort hrest rfl)
      · by_cases hmark : c = '?'
        · subst hmark
          rw [parse_segmentChar] at h
          obtain ⟨d, rest, rfl, hd, hrest⟩ := accepts_segmentChar_iff.1 h
          exact .segmentChar hd (ih _ hshort hrest rfl)
        · rw [parse_literal hstar hmark] at h
          obtain ⟨rest, rfl, hrest⟩ := accepts_literal_iff.1 h
          exact .literal hstar hmark (ih _ hshort hrest rfl)

theorem accepts_parse_iff : accepts (parse text) path = true ↔ Matches text path :=
  ⟨matches_of_accepts_parse, accepts_parse_of_matches⟩

/-- **A glob accepts the paths that its text matches.** -/
theorem accepts_ofText_iff :
    accepts (ofText text) path = true ↔ Matches (Path.forwardSlashes text) path :=
  accepts_parse_iff

/-! ## Matching, from the front -/

theorem matches_nil_iff : Matches [] path ↔ path = [] := by
  rw [← accepts_parse_iff, parse, accepts_nil, List.isEmpty_iff]

theorem matches_anyRun_iff :
    Matches ('*' :: '*' :: text) path ↔
      ∃ run rest, path = run ++ rest ∧ '\n' ∉ run ∧ Matches text rest := by
  simp only [← accepts_parse_iff, parse_anyRun]
  exact accepts_run_iff rfl

theorem matches_segmentRun_iff (hlone : text.head? ≠ some '*') :
    Matches ('*' :: text) path ↔
      ∃ run rest, path = run ++ rest ∧ '/' ∉ run ∧ Matches text rest := by
  simp only [← accepts_parse_iff, parse_segmentRun hlone]
  exact accepts_run_iff rfl

theorem matches_literal_iff (hstar : c ≠ '*') (hmark : c ≠ '?') :
    Matches (c :: text) path ↔ ∃ rest, path = c :: rest ∧ Matches text rest := by
  simp only [← accepts_parse_iff, parse_literal hstar hmark]
  exact accepts_literal_iff

/-- A text without wildcards stands for itself. -/
theorem matches_append_iff {plain : List Char} (hstar : '*' ∉ plain) (hmark : '?' ∉ plain) :
    Matches (plain ++ text) path ↔ ∃ rest, path = plain ++ rest ∧ Matches text rest := by
  induction plain generalizing path with
  | nil =>
    refine ⟨fun h => ⟨path, rfl, h⟩, ?_⟩
    rintro ⟨rest, rfl, h⟩
    exact h
  | cons c plain ih =>
    have hc := List.ne_of_not_mem_cons hstar
    have hd := List.ne_of_not_mem_cons hmark
    have hstar := List.not_mem_of_not_mem_cons hstar
    have hmark := List.not_mem_of_not_mem_cons hmark
    rw [List.cons_append, matches_literal_iff hc.symm hd.symm]
    constructor
    · rintro ⟨rest, rfl, h⟩
      obtain ⟨rest, rfl, hrest⟩ := (ih hstar hmark).1 h
      exact ⟨rest, rfl, hrest⟩
    · rintro ⟨rest, rfl, h⟩
      exact ⟨plain ++ rest, rfl, (ih hstar hmark).2 ⟨rest, rfl, h⟩⟩

theorem matches_plain_iff (hstar : '*' ∉ text) (hmark : '?' ∉ text) :
    Matches text path ↔ path = text := by
  rw [← List.append_nil text, matches_append_iff hstar hmark]
  simp only [matches_nil_iff, exists_eq_right]

/-- A star before a text without wildcards stands for what comes before it in a segment. -/
theorem matches_segmentRun_iff_suffix (hstar : '*' ∉ text) (hmark : '?' ∉ text)
    (hpath : '/' ∉ path) : Matches ('*' :: text) path ↔ text <:+ path := by
  have hlone : text.head? ≠ some '*' := fun hhead => hstar (List.mem_of_head? hhead)
  rw [matches_segmentRun_iff hlone]
  simp only [matches_plain_iff hstar hmark]
  constructor
  · rintro ⟨run, rest, rfl, -, rfl⟩
    exact List.suffix_append run rest
  · rintro ⟨run, rfl⟩
    exact ⟨run, text, rfl, fun hmem => hpath (List.mem_append_left _ hmem), rfl⟩

/-- Without two stars in a row nothing but a slash matches a slash. -/
theorem slash_notMem_of_matches (h : Matches text path) (hslash : '/' ∉ text)
    (hpair : ¬ ['*', '*'] <:+: text) : '/' ∉ path := by
  induction h with
  | done => exact List.not_mem_nil
  | @anyRun run text rest hrun h ih =>
    exact absurd (List.prefix_append ['*', '*'] text).isInfix hpair
  | segmentRun hlone hrun h ih =>
    have hrest := ih (List.not_mem_of_not_mem_cons hslash) fun hpart =>
      hpair (hpart.trans (List.suffix_cons _ _).isInfix)
    exact fun hmem => (List.mem_append.1 hmem).elim hrun hrest
  | segmentChar hc h ih =>
    have hrest := ih (List.not_mem_of_not_mem_cons hslash) fun hpart =>
      hpair (hpart.trans (List.suffix_cons _ _).isInfix)
    exact List.not_mem_cons_of_ne_of_not_mem hc.symm hrest
  | literal hstar hmark h ih =>
    have hrest := ih (List.not_mem_of_not_mem_cons hslash) fun hpart =>
      hpair (hpart.trans (List.suffix_cons _ _).isInfix)
    exact List.not_mem_cons_of_ne_of_not_mem (List.ne_of_not_mem_cons hslash) hrest

/-! ## Size -/

theorem pieceSize_le (piece : GlobPiece) : pieceSize piece ≤ 600 := by
  cases piece with
  | anyRun | segmentRun | segmentChar => exact Nat.le_refl 600
  | literal c =>
    have := c.utf8Size_le_four
    rw [pieceSize]
    omega

theorem size_le (glob : Glob) : size glob ≤ 600 * glob.length := by
  induction glob with
  | nil => exact Nat.le_refl 0
  | cons piece glob ih =>
    have := pieceSize_le piece
    rw [size, List.foldr_cons, ← size, List.length_cons]
    omega

theorem length_parse_le (text : List Char) : (parse text).length ≤ text.length := by
  fun_induction parse text with
  | case1 => exact Nat.le_refl 0
  | case2 c => exact Nat.le_refl 1
  | case3 cs ih => exact Nat.succ_le_succ (Nat.le_succ_of_le ih)
  | case4 d cs hd ih => exact Nat.succ_le_succ ih
  | case5 d cs hc ih => exact Nat.succ_le_succ ih
  | case6 c d cs hstar hmark ih => exact Nat.succ_le_succ ih

end Glob
end EmojiLint
