import EmojiLint.Proofs.Emoji.Grammar

/-!
# Emoji as a pattern

The emoji as a regular expression for a backtracking search: of two alternatives the first one that
leads to a match is taken, and what may be repeated or left out is tried before it is left out.
Such a search does not ask for the longest match, it takes the first.

* `Pattern.run` — the search, with what is to match behind the pattern as a continuation.
* `pattern` — the emoji.
* `first?_pattern` — the first match that the search comes upon is the one that `tail?` measures.

Backtracking never happens where something can still follow, because what follows may be left out
as well: `run_maybe_char` and `run_star_joinedPattern` only ask that the continuation succeeds
behind the longest match.
-/

set_option autoImplicit false

namespace EmojiLint
namespace Emoji

/-- A regular expression. -/
inductive Pattern
  /-- One character of a kind. -/
  | char (kind : Char → Bool)
  | seq (p q : Pattern)
  /-- The first pattern, or else the second one. -/
  | alt (p q : Pattern)
  /-- The pattern, or else nothing. -/
  | maybe (p : Pattern)
  /-- The pattern as often as possible. -/
  | star (p : Pattern)

namespace Pattern

/-- Match a pattern at the start of a text, and then what is to come behind it.  The result is the
one of the first way to match that leads to one. -/
def run (p : Pattern) (next : List Char → Option (List Char)) (cs : List Char) :
    Option (List Char) :=
  match p with
  | char kind =>
    match cs with
    | [] => none
    | c :: cs => if kind c then next cs else none
  | seq p q => p.run (fun rest => q.run next rest) cs
  | alt p q => (p.run next cs).or (q.run next cs)
  | maybe p => (p.run next cs).or (next cs)
  | star p =>
    -- Repeating nothing would go on forever.
    let again := fun rest => if rest.length < cs.length then (star p).run next rest else none
    (p.run again cs).or (next cs)
termination_by (sizeOf p, cs.length)

/-- The text behind the first match at the start of a text. -/
def first? (p : Pattern) (cs : List Char) : Option (List Char) :=
  p.run some cs

/-- One certain character. -/
def lit (c : Char) : Pattern :=
  char (· == c)

/-- The pattern at least once. -/
def plus (p : Pattern) : Pattern :=
  seq p (star p)

end Pattern

open Pattern

/-! ## The emoji -/

def flagPattern : Pattern :=
  seq (char isRegionalIndicator) (char isRegionalIndicator)

def selectorPattern : Pattern :=
  maybe (lit variationSelector)

def keycapPattern : Pattern :=
  seq (char isKeycapBase) (seq selectorPattern (lit keycapFrame))

def tagRunPattern : Pattern :=
  seq (plus (char isTag)) (lit cancelTag)

/-- A joiner and the pictograph that it joins. -/
def joinedPattern : Pattern :=
  seq (lit joiner) (seq (char isPictograph) (seq selectorPattern (maybe (char isModifier))))

/-- An emoji by itself, perhaps decorated. -/
def basePattern : Pattern :=
  seq (char isBase) (seq selectorPattern (maybe (alt (char isModifier) tagRunPattern)))

def sequencePattern : Pattern :=
  seq basePattern (star joinedPattern)

/-- **All emoji**: flags, then keycaps, then everything else. -/
def pattern : Pattern :=
  alt flagPattern (alt keycapPattern sequencePattern)

/-! ## Single characters -/

namespace Pattern

variable {kind : Char → Bool} {next : List Char → Option (List Char)} {c : Char} {cs : List Char}

theorem run_char_nil : (char kind).run next [] = none := by
  rw [run]

theorem run_char_of_pos (hc : kind c = true) : (char kind).run next (c :: cs) = next cs := by
  rw [run, if_pos hc]

theorem run_char_of_neg (hc : kind c = false) : (char kind).run next (c :: cs) = none := by
  rw [run, if_neg (by rw [hc]; exact Bool.false_ne_true)]

theorem run_char : (char kind).run next cs =
    if countFirst kind cs = 0 then none else next (cs.drop (countFirst kind cs)) := by
  cases cs with
  | nil => exact run_char_nil
  | cons c cs =>
    cases hc : kind c with
    | true => rw [run_char_of_pos hc, countFirst, if_pos hc, if_neg Nat.one_ne_zero]; rfl
    | false => rw [run_char_of_neg hc, countFirst, hc]; rfl

theorem run_lit_nil : (lit c).run next [] = none :=
  run_char_nil

theorem run_lit_self : (lit c).run next (c :: cs) = next cs :=
  run_char_of_pos (beq_self_eq_true c)

theorem run_lit_of_ne {d : Char} (h : d ≠ c) : (lit c).run next (d :: cs) = none :=
  run_char_of_neg (beq_eq_false_iff_ne.2 h)

/-- A character that may be left out is taken, if the search succeeds behind it. -/
theorem run_maybe_char (h : (next (cs.drop (countFirst kind cs))).isSome = true) :
    (maybe (char kind)).run next cs = next (cs.drop (countFirst kind cs)) := by
  rw [run, run_char]
  split
  · next hzero => rw [Option.none_or, hzero, List.drop_zero]
  · exact Option.or_of_isSome h

end Pattern

/-! ## Tags and skin tones -/

section Decoration

variable {next : List Char → Option (List Char)} {c : Char} {cs : List Char}

theorem ne_cancelTag_of_isTag (hc : isTag c = true) : c ≠ cancelTag := by
  rintro rfl
  rw [not_isTag_cancelTag] at hc
  cases hc

/-- Giving a tag back does not help, since no tag ends a run. -/
theorem run_star_isTag (cs : List Char) : (star (char isTag)).run ((lit cancelTag).run next) cs =
    (lit cancelTag).run next (cs.dropWhile isTag) := by
  induction cs with
  | nil => rw [run, run_char_nil, Option.none_or, List.dropWhile_nil]
  | cons c cs ih =>
    rw [run]
    cases hc : isTag c with
    | true =>
      have hlt : cs.length < (c :: cs).length := Nat.lt_succ_self _
      rw [run_char_of_pos hc, if_pos hlt, ih, run_lit_of_ne (ne_cancelTag_of_isTag hc),
        Option.or_none, List.dropWhile_cons_of_pos hc]
    | false =>
      rw [run_char_of_neg hc, Option.none_or,
        List.dropWhile_cons_of_neg (by rw [hc]; exact Bool.false_ne_true)]

theorem drop_length_takeWhile (kind : Char → Bool) (cs : List Char) :
    cs.drop (cs.takeWhile kind).length = cs.dropWhile kind := by
  calc cs.drop (cs.takeWhile kind).length
      = (cs.takeWhile kind ++ cs.dropWhile kind).drop (cs.takeWhile kind).length := by
        rw [List.takeWhile_append_dropWhile]
    _ = cs.dropWhile kind := List.drop_left

/-- Behind the tags stands what ends them, or there is no run. -/
theorem tagLength_cons (hc : isTag c = true) (cs : List Char) : tagLength (c :: cs) =
    if (cs.dropWhile isTag).head? = some cancelTag then (cs.takeWhile isTag).length + 2 else 0 := by
  simp only [tagLength, List.takeWhile_cons_of_pos hc, List.length_cons, List.drop_succ_cons,
    drop_length_takeWhile, List.isEmpty_cons, Bool.not_false, Bool.true_and, beq_iff_eq]

theorem tagLength_of_head (hc : isTag c = false) (cs : List Char) : tagLength (c :: cs) = 0 := by
  rw [tagLength, List.takeWhile_cons_of_neg (by rw [hc]; exact Bool.false_ne_true)]
  rfl

/-- A run of tags is taken as a whole or not at all. -/
theorem run_tagRunPattern (cs : List Char) : tagRunPattern.run next cs =
    if tagLength cs = 0 then none else next (cs.drop (tagLength cs)) := by
  rw [tagRunPattern, run, plus, run]
  cases cs with
  | nil => exact run_char_nil
  | cons c cs =>
    cases hc : isTag c with
    | false => rw [run_char_of_neg hc, tagLength_of_head hc, if_pos rfl]
    | true =>
      rw [run_char_of_pos hc, run_star_isTag]
      cases hrest : cs.dropWhile isTag with
      | nil =>
        have hzero : tagLength (c :: cs) = 0 := by
          rw [tagLength_cons hc, hrest]
          rfl
        rw [run_lit_nil, hzero, if_pos rfl]
      | cons d ds =>
        by_cases hd : d = cancelTag
        · have hlength : tagLength (c :: cs) = (cs.takeWhile isTag).length + 2 := by
            rw [tagLength_cons hc, hrest, hd, List.head?_cons, if_pos rfl]
          have hdrop : (c :: cs).drop ((cs.takeWhile isTag).length + 2) = ds := by
            rw [List.drop_succ_cons, ← List.drop_drop, drop_length_takeWhile, hrest,
              List.drop_succ_cons, List.drop_zero]
          rw [hlength, hdrop, if_neg (Nat.succ_ne_zero _), hd, run_lit_self]
        · have hzero : tagLength (c :: cs) = 0 := by
            rw [tagLength_cons hc, hrest]
            exact if_neg fun h => hd (Option.some_inj.1 h)
          rw [run_lit_of_ne hd, hzero, if_pos rfl]

/-- A decoration that may be left out is taken, if the search succeeds behind it. -/
theorem run_decoration (h : (next (cs.drop (decorationLength cs))).isSome = true) :
    (maybe (alt (char isModifier) tagRunPattern)).run next cs =
      next (cs.drop (decorationLength cs)) := by
  rw [run, run, run_tagRunPattern, run_char]
  rw [decorationLength, modifierLength] at h ⊢
  split
  · next hzero =>
    rw [if_pos hzero] at h
    split
    · next hnone => rw [Option.none_or, Option.none_or, hnone, List.drop_zero]
    · rw [Option.none_or, Option.or_of_isSome h]
  · next hsome =>
    have hone : countFirst isModifier cs = 1 :=
      Nat.le_antisymm (countFirst_le_one isModifier cs) (Nat.pos_of_ne_zero hsome)
    rw [if_neg hsome] at h
    rw [hone, Option.or_of_isSome h, Option.or_of_isSome h]

end Decoration

/-! ## Joined pictographs -/

section Joining

variable {next : List Char → Option (List Char)} {cs : List Char}

theorem run_joinedPattern_eq_none
    (h : ∀ p rest, cs = joiner :: p :: rest → isPictograph p = false) :
    joinedPattern.run next cs = none := by
  rw [joinedPattern, run]
  cases cs with
  | nil => exact run_lit_nil
  | cons j cs =>
    by_cases hj : j = joiner
    · subst hj
      rw [run_lit_self, run]
      cases cs with
      | nil => exact run_char_nil
      | cons p cs => exact run_char_of_neg (h p cs rfl)
    · exact run_lit_of_ne hj

/-- One joined pictograph takes its variation selector and its skin tone, if the search succeeds
behind them. -/
theorem run_joinedPattern {p : Char} (hp : isPictograph p = true) {v m : Nat}
    (hv : v = variationLength cs) (hm : m = modifierLength (cs.drop v))
    (h : (next ((cs.drop v).drop m)).isSome = true) :
    joinedPattern.run next (joiner :: p :: cs) = next ((cs.drop v).drop m) := by
  have hmodifier : (maybe (char isModifier)).run next (cs.drop v) = next ((cs.drop v).drop m) := by
    rw [hm] at h ⊢
    exact run_maybe_char h
  have hselector : selectorPattern.run (fun rest => (maybe (char isModifier)).run next rest) cs =
      (maybe (char isModifier)).run next (cs.drop v) := by
    subst hv
    refine run_maybe_char ?_
    rw [show countFirst (· == variationSelector) cs = variationLength cs from rfl, hmodifier]
    exact h
  rw [joinedPattern, run, run_lit_self, run, run_char_of_pos hp, run, hselector, hmodifier]

/-- **Joining never has to give anything back.** -/
theorem run_star_joinedPattern (h : (next (cs.drop (joinedLength cs))).isSome = true) :
    (star joinedPattern).run next cs = next (cs.drop (joinedLength cs)) := by
  rw [run]
  fun_induction joinedLength cs with
  | case1 j p cs hjoined variation modifier ih =>
    have hdrop : (j :: p :: cs).drop
        (2 + variation + modifier + joinedLength (cs.drop (variation + modifier))) =
        (cs.drop (variation + modifier)).drop (joinedLength (cs.drop (variation + modifier))) := by
      rw [List.drop_drop, Nat.add_assoc, Nat.add_assoc, Nat.add_comm, List.drop_succ_cons,
        List.drop_succ_cons, Nat.add_assoc]
    have hlt : ((cs.drop variation).drop modifier).length < (j :: p :: cs).length := by
      rw [List.drop_drop, List.length_drop, List.length_cons, List.length_cons]
      omega
    rw [hdrop] at h ⊢
    have hagain : (star joinedPattern).run next ((cs.drop variation).drop modifier) =
        next ((cs.drop (variation + modifier)).drop
          (joinedLength (cs.drop (variation + modifier)))) := by
      rw [List.drop_drop, run]
      exact ih h
    rw [hjoined.1] at hlt ⊢
    rw [run_joinedPattern hjoined.2 rfl rfl]
    · rw [if_pos hlt, hagain]
      exact Option.or_of_isSome h
    · rw [if_pos hlt, hagain]
      exact h
  | case2 j p cs hnot =>
    rw [run_joinedPattern_eq_none, Option.none_or, List.drop_zero]
    intro q rest hcs
    rw [List.cons.injEq, List.cons.injEq] at hcs
    rw [Bool.eq_false_iff, ← hcs.2.1]
    exact fun hp => hnot ⟨hcs.1, hp⟩
  | case3 cs hshort =>
    rw [run_joinedPattern_eq_none, Option.none_or, List.drop_zero]
    intro q rest hcs
    exact absurd hcs (hshort _ _ _)

end Joining

/-! ## All emoji -/

theorem first?_flagPattern (c : Char) (cs : List Char) : flagPattern.first? (c :: cs) =
    if isRegionalIndicator c = true ∧ countFirst isRegionalIndicator cs = 1 then some (cs.drop 1)
    else none := by
  rw [first?, flagPattern, run]
  cases hc : isRegionalIndicator c with
  | false =>
    rw [run_char_of_neg hc]
    exact (if_neg fun h => Bool.false_ne_true h.1).symm
  | true =>
    rw [run_char_of_pos hc, run_char]
    by_cases hcs : countFirst isRegionalIndicator cs = 1
    · rw [hcs, if_neg Nat.one_ne_zero, if_pos ⟨rfl, rfl⟩]
    · have hzero : countFirst isRegionalIndicator cs = 0 := by
        have hle := countFirst_le_one isRegionalIndicator cs
        omega
      rw [if_pos hzero, if_neg fun h => hcs h.2]

/-- With a variation selector or without, only the frame makes a keycap. -/
theorem first?_keycapPattern (c : Char) (cs : List Char) : keycapPattern.first? (c :: cs) =
    if isKeycapBase c then (keycapTail? cs).map fun n => cs.drop n else none := by
  rw [first?, keycapPattern, run]
  cases hc : isKeycapBase c with
  | false =>
    rw [run_char_of_neg hc]
    rfl
  | true =>
    rw [run_char_of_pos hc, run, if_pos rfl, selectorPattern, run]
    have hne : keycapFrame ≠ variationSelector := by decide
    cases cs with
    | nil =>
      rw [run_lit_nil, run_lit_nil]
      rfl
    | cons d ds =>
      rw [keycapTail?]
      by_cases hframe : d = keycapFrame
      · rw [hframe, run_lit_of_ne hne, run_lit_self, if_pos rfl]
        rfl
      rw [if_neg hframe, run_lit_of_ne hframe, Option.or_none]
      by_cases hselector : d = variationSelector
      · rw [hselector, run_lit_self]
        cases ds with
        | nil =>
          rw [run_lit_nil]
          rfl
        | cons e es =>
          by_cases he : e = keycapFrame
          · rw [he, run_lit_self, if_pos ⟨rfl, rfl⟩]
            rfl
          · rw [run_lit_of_ne he, if_neg fun h => he (Option.some_inj.1 h.2)]
            rfl
      · rw [run_lit_of_ne hselector, if_neg fun h => hselector h.1]
        rfl

theorem first?_sequencePattern (c : Char) (cs : List Char) : sequencePattern.first? (c :: cs) =
    if isBase c then some (cs.drop (baseTail cs)) else none := by
  have hjoined : ∀ rest, (star joinedPattern).run some rest =
      some (rest.drop (joinedLength rest)) := fun _ => run_star_joinedPattern rfl
  have hdecoration : ∀ rest, (maybe (alt (char isModifier) tagRunPattern)).run
      (fun rest => (star joinedPattern).run some rest) rest =
        some ((rest.drop (decorationLength rest)).drop
          (joinedLength (rest.drop (decorationLength rest)))) := by
    intro rest
    rw [run_decoration (by rw [hjoined]; rfl), hjoined]
  rw [first?, sequencePattern, run, basePattern, run]
  cases hc : isBase c with
  | false =>
    rw [run_char_of_neg hc]
    rfl
  | true =>
    rw [run_char_of_pos hc, run, if_pos rfl, selectorPattern, lit,
      run_maybe_char (by rw [hdecoration]; rfl), hdecoration]
    simp only [baseTail, List.drop_drop, variationLength]

theorem first?_pattern_nil : pattern.first? [] = none := by
  rw [first?, pattern, run, run, flagPattern, run, run_char_nil, keycapPattern, run, run_char_nil,
    sequencePattern, run, basePattern, run, run_char_nil]
  rfl

/-- **The first match is the one that `tail?` measures.** -/
theorem first?_pattern (c : Char) (cs : List Char) :
    pattern.first? (c :: cs) = (tail? c cs).map fun n => cs.drop n := by
  have hrun : pattern.first? (c :: cs) = (flagPattern.first? (c :: cs)).or
      ((keycapPattern.first? (c :: cs)).or (sequencePattern.first? (c :: cs))) := by
    rw [first?, pattern, run, run]
    rfl
  rw [hrun, first?_flagPattern, first?_keycapPattern, first?_sequencePattern, tail?]
  by_cases hflag : isRegionalIndicator c = true ∧ countFirst isRegionalIndicator cs = 1
  · rw [if_pos hflag, if_pos hflag]
    rfl
  rw [if_neg hflag, if_neg hflag, Option.none_or]
  cases hkeycap : isKeycapBase c with
  | true =>
    rw [if_pos rfl, if_pos rfl, not_isBase_of_isKeycapBase hkeycap, if_neg Bool.false_ne_true,
      Option.or_none]
  | false =>
    rw [if_neg Bool.false_ne_true, if_neg Bool.false_ne_true, Option.none_or]
    cases isBase c <;> rfl

end Emoji
end EmojiLint
