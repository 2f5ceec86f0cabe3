import EmojiLint.Proofs.Exclude.Glob
import Mathlib.Data.List.Induction
import Mathlib.Tactic.ByContra

/-!
# Globs that reach below folders

A glob that matches a folder need not match what is below it: `build*` matches the folder `build1`
but not the file `build1/a`.  A glob does reach below when it has two stars in a row after which
nothing comes but stars and slashes with a star behind them.

* `accepts_cons_iff`, `accepts_append_iff` — a path is matched piece by piece.
* `reachesBelow` — whether a glob reaches below folders.
* `accepts_append_of_reachesBelow` — such a glob goes on matching whatever is added to a path.
* `reachesBelow_of_accepts` — any other glob fails on one of two paths below a folder, one of which
  is nothing but slashes.
* `reachesBelow_iff_forall` — the globs that reach below are those that match everything below a
  folder that they match.
-/

set_option autoImplicit false

namespace EmojiLint

/-- The texts that a piece can stand for. -/
def GlobPiece.Takes : GlobPiece → List Char → Prop
  | anyRun, run => '\n' ∉ run
  | segmentRun, run => '/' ∉ run
  | segmentChar, run => ∃ c, c ≠ '/' ∧ run = [c]
  | literal c, run => run = [c]

namespace Glob

variable {glob front back : Glob} {piece : GlobPiece} {path folder more : List Char} {c : Char}
  {n : Nat}

/-! ## Pieces together -/

theorem accepts_cons_iff : accepts (piece :: glob) path = true ↔
    ∃ run rest, path = run ++ rest ∧ piece.Takes run ∧ accepts glob rest = true := by
  cases piece with
  | anyRun => exact accepts_run_iff rfl
  | segmentRun => exact accepts_run_iff rfl
  | segmentChar =>
    rw [accepts_segmentChar_iff]
    constructor
    · rintro ⟨c, rest, rfl, hc, h⟩
      exact ⟨[c], rest, rfl, ⟨c, hc, rfl⟩, h⟩
    · rintro ⟨run, rest, rfl, ⟨c, hc, rfl⟩, h⟩
      exact ⟨c, rest, rfl, hc, h⟩
  | literal c =>
    rw [accepts_literal_iff]
    constructor
    · rintro ⟨rest, rfl, h⟩
      exact ⟨[c], rest, rfl, rfl, h⟩
    · rintro ⟨run, rest, rfl, rfl, h⟩
      exact ⟨rest, rfl, h⟩

theorem accepts_append_iff : accepts (front ++ back) path = true ↔
    ∃ before after, path = before ++ after ∧ accepts front before = true ∧
      accepts back after = true := by
  induction front generalizing path with
  | nil =>
    constructor
    · exact fun h => ⟨[], path, rfl, rfl, h⟩
    · rintro ⟨before, after, rfl, hbefore, h⟩
      rw [accepts_nil, List.isEmpty_iff] at hbefore
      rwa [hbefore]
  | cons piece front ih =>
    rw [List.cons_append, accepts_cons_iff]
    constructor
    · rintro ⟨run, rest, rfl, hrun, h⟩
      obtain ⟨before, after, rfl, hbefore, hafter⟩ := ih.1 h
      exact ⟨run ++ before, after, (List.append_assoc ..).symm,
        accepts_cons_iff.2 ⟨run, before, rfl, hrun, hbefore⟩, hafter⟩
    · rintro ⟨before, after, rfl, hbefore, hafter⟩
      obtain ⟨run, rest, rfl, hrun, hrest⟩ := accepts_cons_iff.1 hbefore
      exact ⟨run, rest ++ after, List.append_assoc .., hrun, ih.2 ⟨rest, after, rfl, hrest, hafter⟩⟩

theorem accepts_concat_iff : accepts (glob ++ [piece]) path = true ↔
    ∃ before run, path = before ++ run ∧ accepts glob before = true ∧ piece.Takes run := by
  have hlast : ∀ {run}, accepts [piece] run = true ↔ piece.Takes run := by
    intro run
    simp only [accepts_cons_iff, accepts_nil, List.isEmpty_iff]
    constructor
    · rintro ⟨taken, rest, rfl, h, rfl⟩
      rwa [List.append_nil]
    · exact fun h => ⟨run, [], (List.append_nil run).symm, h, rfl⟩
  simp only [accepts_append_iff, hlast]

/-! ## Globs that reach below -/

/-- Whether there is nothing but stars, and slashes with a star behind them. -/
def isOpen : Glob → Bool
  | [] => true
  | .segmentRun :: glob => isOpen glob
  | .literal c :: .segmentRun :: glob => c == '/' && isOpen glob
  | _ => false

/-- Whether a glob matches everything below the folders that it matches: the last thing that it
insists on comes before two stars in a row. -/
def reachesBelow : Glob → Bool
  | [] => false
  | piece :: glob => (piece == .anyRun && isOpen glob) || reachesBelow glob

theorem reachesBelow_iff : reachesBelow glob = true ↔
    ∃ front back, glob = front ++ .anyRun :: back ∧ isOpen back = true := by
  induction glob with
  | nil => exact iff_of_false Bool.false_ne_true (by rintro ⟨front, back, h, -⟩; simp at h)
  | cons piece glob ih =>
    rw [reachesBelow, Bool.or_eq_true, Bool.and_eq_true, beq_iff_eq, ih]
    constructor
    · rintro (⟨rfl, h⟩ | ⟨front, back, rfl, h⟩)
      · exact ⟨[], glob, rfl, h⟩
      · exact ⟨piece :: front, back, rfl, h⟩
    · rintro ⟨front, back, heq, h⟩
      cases front with
      | nil =>
        obtain ⟨rfl, rfl⟩ := List.cons.inj heq
        exact Or.inl ⟨rfl, h⟩
      | cons head front =>
        obtain ⟨rfl, rfl⟩ := List.cons.inj heq
        exact Or.inr ⟨front, back, rfl, h⟩

/-- A path is its first segment and what follows from a slash on. -/
theorem exists_first_segment (path : List Char) : ∃ run rest, path = run ++ rest ∧ '/' ∉ run ∧
    rest.head?.all (· == '/') = true := by
  induction path with
  | nil => exact ⟨[], [], rfl, List.not_mem_nil, rfl⟩
  | cons c path ih =>
    by_cases hc : c = '/'
    · exact ⟨[], c :: path, rfl, List.not_mem_nil, by rw [hc]; rfl⟩
    · obtain ⟨run, rest, rfl, hrun, hrest⟩ := ih
      exact ⟨c :: run, rest, rfl, List.not_mem_cons_of_ne_of_not_mem (Ne.symm hc) hrun, hrest⟩

/-- An open end matches from any slash on, if as many slashes are left as it has. -/
theorem accepts_of_isOpen (h : isOpen glob = true)
    (hcount : path.count '/' = glob.count (.literal '/')) (hstart : path.head?.all (· == '/')) :
    accepts glob path = true := by
  fun_induction isOpen glob generalizing path with
  | case1 =>
    cases path with
    | nil => rfl
    | cons c path =>
      obtain rfl : c = '/' := by simpa using hstart
      simp at hcount
  | case2 glob ih =>
    rw [List.count_cons_of_ne (by decide)] at hcount
    exact accepts_cons_iff.2 ⟨[], path, rfl, List.not_mem_nil, ih h hcount hstart⟩
  | case3 c glob ih =>
    obtain ⟨hc, h⟩ := Bool.and_eq_true_iff.1 h
    obtain rfl := beq_iff_eq.1 hc
    rw [List.count_cons_self, List.count_cons_of_ne (by decide)] at hcount
    cases path with
    | nil => simp at hcount
    | cons c path =>
      obtain rfl : c = '/' := by simpa using hstart
      -- The star takes everything up to the next slash.
      obtain ⟨run, rest, rfl, hrun, hrest⟩ := exists_first_segment path
      have hleft : rest.count '/' = glob.count (.literal '/') := by
        rw [List.count_cons_self, List.count_append, List.count_eq_zero_of_not_mem hrun] at hcount
        omega
      refine accepts_cons_iff.2 ⟨['/'], run ++ rest, rfl, rfl, ?_⟩
      exact accepts_cons_iff.2 ⟨run, rest, rfl, hrun, ih h hleft hrest⟩
  | case4 => cases h

/-- Every slash of a glob matches a slash. -/
theorem count_le_of_accepts (h : accepts glob path = true) :
    glob.count (.literal '/') ≤ path.count '/' := by
  induction glob generalizing path with
  | nil => exact Nat.zero_le _
  | cons piece glob ih =>
    obtain ⟨run, rest, rfl, hrun, hrest⟩ := accepts_cons_iff.1 h
    have := ih hrest
    rw [List.count_append]
    by_cases hpiece : piece = .literal '/'
    · subst hpiece
      obtain rfl : run = ['/'] := hrun
      rw [List.count_cons_self, List.count_cons_self]
      omega
    · rw [List.count_cons_of_ne hpiece]
      omega

/-- A path can be cut off at the slash that leaves a given number of slashes. -/
theorem exists_append_count (h : n ≤ path.count '/') :
    ∃ before after, path = before ++ after ∧ after.count '/' = n ∧
      after.head?.all (· == '/') = true := by
  induction path with
  | nil => exact ⟨[], [], rfl, (Nat.le_zero.1 h).symm, rfl⟩
  | cons c path ih =>
    by_cases hpath : n ≤ path.count '/'
    · obtain ⟨before, after, rfl, hafter⟩ := ih hpath
      exact ⟨c :: before, after, rfl, hafter⟩
    · have hc : c = '/' := by
        by_contra hne
        exact hpath (by rwa [List.count_cons_of_ne hne] at h)
      subst hc
      rw [List.count_cons_self] at h
      exact ⟨[], '/' :: path, rfl, by rw [List.count_cons_self]; omega, rfl⟩

/-- **A glob that reaches below goes on matching.** -/
theorem accepts_append_of_reachesBelow (hreach : reachesBelow glob = true)
    (h : accepts glob path = true) (hpath : '\n' ∉ path ++ more) :
    accepts glob (path ++ more) = true := by
  obtain ⟨front, back, rfl, hopen⟩ := reachesBelow_iff.1 hreach
  obtain ⟨before, after, rfl, hbefore, hafter⟩ := accepts_append_iff.1 h
  obtain ⟨run, rest, rfl, hrun, hrest⟩ := accepts_cons_iff.1 hafter
  have hcount : back.count (.literal '/') ≤ (run ++ rest ++ more).count '/' := by
    have := count_le_of_accepts hrest
    simp only [List.count_append]
    omega
  obtain ⟨skipped, kept, hsplit, hkept, hstart⟩ := exists_append_count hcount
  rw [List.append_assoc before, hsplit] at hpath ⊢
  have hskipped : '\n' ∉ skipped := fun hmem =>
    hpath (List.mem_append_right _ (List.mem_append_left _ hmem))
  refine accepts_append_iff.2 ⟨before, _, rfl, hbefore, ?_⟩
  exact accepts_cons_iff.2 ⟨skipped, kept, rfl, hskipped, accepts_of_isOpen hopen hkept hstart⟩

/-! ## Globs that do not -/

/-- Two paths below a folder tell whether a glob reaches below: one is nothing but slashes, -/
def slashes (n : Nat) : List Char :=
  List.replicate n '/'

/-- and in the other one no two slashes follow one another. -/
def steps : Nat → List Char
  | 0 => []
  | n + 1 => '/' :: '-' :: steps n

/-- Behind the last two stars in a row there is nothing but stars and slashes. -/
def EndsLoose (glob : Glob) : Prop :=
  ∃ front back, glob = front ++ .anyRun :: back ∧
    ∀ piece ∈ back, piece = .segmentRun ∨ piece = .literal '/'

theorem EndsLoose.concat (h : EndsLoose glob)
    (hpiece : piece = .segmentRun ∨ piece = .literal '/') : EndsLoose (glob ++ [piece]) := by
  obtain ⟨front, back, rfl, hback⟩ := h
  refine ⟨front, back ++ [piece], by rw [List.append_assoc, List.cons_append], ?_⟩
  intro other hmem
  rcases List.mem_append.1 hmem with hmem | hmem
  · exact hback other hmem
  · rwa [List.mem_singleton.1 hmem]

/-- What is cut off at the end of slashes ends with a slash. -/
theorem eq_nil_or_of_append_slashes {before run : List Char}
    (h : path ++ slashes (n + 1) = before ++ run) :
    run = [] ∨ ∃ run', run = run' ++ ['/'] ∧ path ++ slashes n = before ++ run' := by
  rcases List.eq_nil_or_concat run with hnil | ⟨run', c, hconcat⟩
  · exact Or.inl hnil
  · rw [slashes, List.replicate_succ', ← List.append_assoc, hconcat, List.concat_eq_append,
      ← List.append_assoc] at h
    obtain ⟨hfront, hlast⟩ := List.append_inj' h rfl
    exact Or.inr ⟨run', by rw [hconcat, List.concat_eq_append, hlast], hfront⟩

/-- What matches more slashes than the glob has pieces can end in stars and slashes only. -/
theorem endsLoose_of_accepts_slashes (hn : glob.length < n)
    (h : accepts glob (path ++ slashes n) = true) : EndsLoose glob := by
  induction glob using List.reverseRecOn generalizing n with
  | nil =>
    rw [accepts_nil, List.isEmpty_iff, List.append_eq_nil_iff, slashes, List.replicate_eq_nil_iff]
      at h
    exact absurd h.2 (Nat.ne_of_gt hn)
  | append_singleton glob piece ih =>
    rw [List.length_append, List.length_singleton] at hn
    cases n with
    | zero => exact absurd hn (Nat.not_lt_zero _)
    | succ n =>
      obtain ⟨before, run, heq, hbefore, hrun⟩ := accepts_concat_iff.1 h
      have hcut := eq_nil_or_of_append_slashes heq
      cases piece with
      | anyRun => exact ⟨glob, [], rfl, fun _ h => nomatch h⟩
      | segmentRun =>
        obtain rfl : run = [] := by
          refine hcut.resolve_right ?_
          rintro ⟨run', rfl, -⟩
          exact hrun (List.mem_append_right _ List.mem_cons_self)
        rw [List.append_nil] at heq
        exact (ih (Nat.lt_of_succ_lt hn) (heq ▸ hbefore)).concat (Or.inl rfl)
      | segmentChar =>
        obtain ⟨c, hc, rfl⟩ := hrun
        obtain ⟨run', hrun', -⟩ := hcut.resolve_left (List.cons_ne_nil c [])
        obtain ⟨-, hlast⟩ := List.append_inj' ((List.nil_append _).trans hrun') rfl
        exact absurd (List.cons.inj hlast).1 hc
      | literal c =>
        obtain rfl : run = [c] := hrun
        obtain ⟨run', hrun', hfront⟩ := hcut.resolve_left (List.cons_ne_nil c [])
        obtain ⟨rfl, hlast⟩ := List.append_inj' ((List.nil_append _).trans hrun') rfl
        rw [List.append_nil] at hfront
        obtain rfl := (List.cons.inj hlast).1
        exact (ih (Nat.lt_of_succ_lt_succ hn) (hfront ▸ hbefore)).concat (Or.inr rfl)

/-- Without two stars in a row a glob matches no more slashes than it has pieces. -/
theorem count_le_length_of_accepts (h : accepts glob path = true) (hrun : .anyRun ∉ glob) :
    path.count '/' ≤ glob.length := by
  induction glob generalizing path with
  | nil =>
    rw [accepts_nil, List.isEmpty_iff] at h
    rw [h]
    exact Nat.zero_le _
  | cons piece glob ih =>
    obtain ⟨run, rest, rfl, htakes, hrest⟩ := accepts_cons_iff.1 h
    have hone : run.count '/' ≤ 1 := by
      cases piece with
      | anyRun => exact absurd List.mem_cons_self hrun
      | segmentRun => rw [List.count_eq_zero_of_not_mem htakes]; exact Nat.zero_le _
      | segmentChar =>
        obtain ⟨c, -, rfl⟩ := htakes
        exact List.count_le_length
      | literal c =>
        obtain rfl : run = [c] := htakes
        exact List.count_le_length
    have := ih hrest (List.not_mem_of_not_mem_cons hrun)
    rw [List.count_append, List.length_cons]
    omega

/-- Behind every slash of a path that goes down step by step something else stands. -/
theorem exists_of_steps_eq (h : steps n = path ++ '/' :: more) :
    ∃ c more', more = c :: more' ∧ c ≠ '/' := by
  induction n generalizing path with
  | zero => simp [steps] at h
  | succ n ih =>
    match path with
    | [] => exact ⟨'-', steps n, (List.cons.inj h).2.symm, by decide⟩
    | [_] => exact absurd (List.cons.inj (List.cons.inj h).2).1 (by decide)
    | _ :: _ :: path => exact ih (List.cons.inj (List.cons.inj h).2).2

theorem count_steps (n : Nat) : (steps n).count '/' = n := by
  induction n with
  | zero => rfl
  | succ n ih => rw [steps, List.count_cons_self, List.count_cons_of_ne (by decide), ih]

/-- Stars and slashes that match where no two slashes follow one another are an open end. -/
theorem isOpen_of_accepts (hback : ∀ piece ∈ back, piece = .segmentRun ∨ piece = .literal '/')
    (h : accepts back path = true)
    (hpath : ∀ before after, path = before ++ '/' :: after →
      ∃ c rest, after = c :: rest ∧ c ≠ '/') : isOpen back = true := by
  fun_induction isOpen back generalizing path with
  | case1 => rfl
  | case2 glob ih =>
    obtain ⟨run, rest, rfl, -, hrest⟩ := accepts_cons_iff.1 h
    refine ih (fun piece hmem => hback piece (List.mem_cons_of_mem _ hmem)) hrest ?_
    rintro before after rfl
    exact hpath (run ++ before) after (List.append_assoc ..).symm
  | case3 c glob ih =>
    have hc : c = '/' := by simpa using hback (.literal c) List.mem_cons_self
    obtain ⟨_, _, rfl, -, hmore⟩ := accepts_cons_iff.1 h
    obtain ⟨_, rest, rfl, -, hrest⟩ := accepts_cons_iff.1 hmore
    rw [hc, beq_self_eq_true, Bool.true_and]
    refine ih (fun piece hmem => hback piece ?_) hrest ?_
    · exact List.mem_cons_of_mem _ (List.mem_cons_of_mem _ hmem)
    · rintro before after rfl
      exact hpath _ after (by rw [← List.append_assoc, ← List.append_assoc])
  | case4 back hnil hstar hslash =>
    -- The end starts with a slash, and neither its end nor a slash can follow.
    exfalso
    cases back with
    | nil => exact hnil rfl
    | cons piece back =>
      rcases hback piece List.mem_cons_self with rfl | rfl
      · exact hstar back rfl
      · obtain ⟨run, rest, rfl, rfl, hrest⟩ := accepts_cons_iff.1 h
        obtain ⟨c, rest, rfl, hc⟩ := hpath [] _ rfl
        cases back with
        | nil => rw [accepts_nil] at hrest; cases hrest
        | cons piece back =>
          rcases hback piece (List.mem_cons_of_mem _ List.mem_cons_self) with rfl | rfl
          · exact hslash '/' back rfl
          · obtain ⟨run, rest, heq, rfl, -⟩ := accepts_cons_iff.1 hrest
            exact hc (List.cons.inj heq).1

/-- A glob that matches both paths reaches below. -/
theorem reachesBelow_of_accepts (hn : glob.length < n)
    (hslashes : accepts glob (path ++ slashes n) = true)
    (hsteps : accepts glob (path ++ steps n) = true) : reachesBelow glob = true := by
  obtain ⟨front, back, rfl, hback⟩ := endsLoose_of_accepts_slashes hn hslashes
  obtain ⟨before, after, heq, -, hafter⟩ := accepts_append_iff.1 hsteps
  obtain ⟨run, rest, rfl, -, hrest⟩ := accepts_cons_iff.1 hafter
  have hcount : rest.count '/' < n := by
    have hnone : .anyRun ∉ back := fun hmem => by simpa using hback _ hmem
    have := count_le_length_of_accepts hrest hnone
    rw [List.length_append, List.length_cons] at hn
    omega
  -- The end has too few slashes to reach back to the folder.
  have hrestSteps : ∃ skipped, steps n = skipped ++ rest := by
    rw [← List.append_assoc] at heq
    rcases List.append_eq_append_iff.1 heq with ⟨skipped, -, h⟩ | ⟨kept, -, h⟩
    · exact ⟨skipped, h⟩
    · rw [h, List.count_append, count_steps] at hcount
      omega
  obtain ⟨skipped, hskipped⟩ := hrestSteps
  refine reachesBelow_iff.2 ⟨front, back, rfl, isOpen_of_accepts hback hrest ?_⟩
  rintro before after rfl
  exact exists_of_steps_eq (hskipped.trans (List.append_assoc ..).symm)

theorem notMem_slashes {c : Char} (hslash : c ≠ '/') (n : Nat) : c ∉ slashes n :=
  fun h => hslash (List.eq_of_mem_replicate h)

theorem notMem_steps {c : Char} (hslash : c ≠ '/') (hdash : c ≠ '-') (n : Nat) : c ∉ steps n := by
  induction n with
  | zero => exact List.not_mem_nil
  | succ n ih => simpa [steps, hslash, hdash] using ih

/-- **The globs that match a folder and reach below are those that match everything below it.** -/
theorem reachesBelow_iff_forall (hfolder : '\n' ∉ folder) :
    reachesBelow glob = true ∧ accepts glob (folder ++ ['/']) = true ↔
      ∀ below, '\n' ∉ below → accepts glob (folder ++ '/' :: below) = true := by
  constructor
  · rintro ⟨hreach, h⟩ below hbelow
    rw [← List.singleton_append, ← List.append_assoc]
    refine accepts_append_of_reachesBelow hreach h ?_
    simpa [hfolder] using hbelow
  · intro h
    refine ⟨reachesBelow_of_accepts (Nat.lt_succ_self _)
      (h (slashes glob.length) (notMem_slashes (by decide) _))
      (h ('-' :: steps glob.length) ?_), h [] List.not_mem_nil⟩
    exact List.not_mem_cons_of_ne_of_not_mem (by decide) (notMem_steps (by decide) (by decide) _)

end Glob
end EmojiLint
