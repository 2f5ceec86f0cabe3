import EmojiLint.Proofs.Text.Lines
import Mathlib.Data.List.DropRight
import Mathlib.Data.Prod.Lex
import Mathlib.Order.Bounds.Basic

/-!
# The position of every offset

An offset may lie between two characters, inside one, or past the end of the text.  Its position is
the one of the last boundary at or before it, and the position of a boundary is a matter of
counting: the line feeds before it, and the UTF-16 units since the last of them.

## What is here

* `Position.behind` — the position behind a text, by counting; `behind_le_of_isPrefix` — it moves on
  with every character.
* `Text.exists_boundary`, `Text.isGreatest_byteLength` — the last boundary at or before an offset.
* `lineOf?`, `positionOf?` — the conversion with every step that could fail: the search may end
  before the first line, a step back may leave the text, and a cut may go through a character.
* `monotone_positionOf` — positions come in the order of the offsets.
* `positionOf_exact` — no step fails, and what comes out is the position by counting.
-/

set_option autoImplicit false

namespace EmojiLint

open Text (byteLength unitLength)

variable {before after front line cs : List Char} {m n q : Nat}

/-! ## Positions in order -/

namespace Position

/-- Positions are ordered by their lines, and on one line by their columns. -/
instance : Preorder Position :=
  Preorder.lift fun p => toLex (p.line, p.column)

theorem le_iff {p q : Position} :
    p ≤ q ↔ p.line < q.line ∨ p.line = q.line ∧ p.column ≤ q.column :=
  Prod.Lex.toLex_le_toLex

/-- The position behind a text: the number of its line feeds, and the UTF-16 units of what follows
the last of them. -/
def behind (before : List Char) : Position :=
  ⟨before.count '\n', unitLength (before.rtakeWhile (· != '\n'))⟩

theorem line_behind (before : List Char) : (behind before).line = before.count '\n' :=
  rfl

theorem behind_concat_lineFeed (before : List Char) :
    behind (before ++ ['\n']) = ⟨(behind before).line + 1, 0⟩ := by
  rw [behind, LineIndex.count_concat_lineFeed, List.rtakeWhile_concat_neg _ _ _ (by decide)]
  rfl

theorem behind_concat {c : Char} (hc : c ≠ '\n') (before : List Char) :
    behind (before ++ [c]) =
      ⟨(behind before).line, (behind before).column + Text.units c⟩ := by
  have hkept : (c != '\n') = true := bne_iff_ne.2 hc
  rw [behind, LineIndex.count_concat_of_ne hc,
    List.rtakeWhile_concat_pos (· != '\n') _ _ hkept, Text.unitLength_append]
  rfl

/-- One more character moves the position on. -/
theorem behind_le_concat (before : List Char) (c : Char) :
    behind before ≤ behind (before ++ [c]) := by
  rw [le_iff]
  by_cases hc : c = '\n'
  · rw [hc, behind_concat_lineFeed]
    exact Or.inl (Nat.lt_succ_self _)
  · rw [behind_concat hc]
    exact Or.inr ⟨rfl, Nat.le_add_right _ _⟩

/-- **The longer of two beginnings has the later position.** -/
theorem behind_le_of_isPrefix (h : before <+: cs) : behind before ≤ behind cs := by
  obtain ⟨ds, rfl⟩ := h
  induction ds using List.reverseRecOn with
  | nil => rw [List.append_nil]
  | append_singleton ds c ih =>
    rw [← List.append_assoc]
    exact ih.trans (behind_le_concat _ c)

/-- A line feed takes a byte, and a character at least as many bytes as UTF-16 units. -/
theorem line_add_column_behind_le (before : List Char) :
    (behind before).line + (behind before).column ≤ byteLength before := by
  induction before using List.reverseRecOn with
  | nil => exact Nat.le_refl _
  | append_singleton before c ih =>
    rw [Text.byteLength_append, byteLength, byteLength, Nat.add_zero]
    by_cases hc : c = '\n'
    · have hpos := Char.utf8Size_pos c
      rw [hc, behind_concat_lineFeed]
      rw [hc] at hpos
      simp only
      omega
    · have hunits := LineIndex.units_le_utf8Size c
      rw [behind_concat hc]
      simp only
      omega

end Position

/-- The two parts of what stands before a place give its position by counting. -/
theorem LineIndex.IsLine.behind_eq (h : IsLine front line) :
    Position.behind (front ++ line) = ⟨front.count '\n', unitLength line⟩ := by
  induction line using List.reverseRecOn with
  | nil =>
    have hover : front.rtakeWhile (· != '\n') = [] := by
      rw [List.rtakeWhile_eq_nil_iff]
      intro hne
      rw [h.ended _ (List.getLast?_eq_some_getLast hne)]
      decide
    rw [List.append_nil, Position.behind, hover]
  | append_singleton line c ih =>
    have hc : c ≠ '\n' := fun hc => h.begun (hc ▸ List.mem_concat_self)
    have hline := ih ⟨h.ended, fun hmem => h.begun (List.mem_append_left _ hmem)⟩
    rw [← List.append_assoc, Position.behind_concat hc, hline, Text.unitLength_append]
    rfl

/-! ## The last boundary at or before an offset -/

namespace Text

/-- Every offset is at a place of the text, inside the character behind it, or past the end. -/
theorem exists_boundary (cs : List Char) (n : Nat) :
    ∃ before after, cs = before ++ after ∧ byteLength before ≤ n ∧
      ∀ c ∈ after.head?, n < byteLength before + c.utf8Size := by
  induction cs generalizing n with
  | nil => exact ⟨[], [], rfl, Nat.zero_le n, fun _ h => nomatch h⟩
  | cons c cs ih =>
    by_cases hc : c.utf8Size ≤ n
    · obtain ⟨before, after, rfl, hle, hlt⟩ := ih (n - c.utf8Size)
      refine ⟨c :: before, after, rfl, ?_, fun d hd => ?_⟩
      · rw [byteLength]
        omega
      · have := hlt d hd
        rw [byteLength]
        omega
    · refine ⟨[], c :: cs, rfl, Nat.zero_le n, fun d hd => ?_⟩
      obtain rfl : c = d := Option.some.inj hd
      rw [byteLength, Nat.zero_add]
      exact Nat.lt_of_not_le hc

/-- No boundary lies inside a character. -/
theorem isGreatest_byteLength (hle : byteLength before ≤ n)
    (hlt : ∀ c ∈ after.head?, n < byteLength before + c.utf8Size) :
    IsGreatest {q | IsBoundary (before ++ after) q ∧ q ≤ n} (byteLength before) := by
  refine ⟨⟨⟨before, List.prefix_append _ _, rfl⟩, hle⟩, ?_⟩
  rintro _ ⟨⟨word, hword, rfl⟩, hq⟩
  by_contra hbehind
  rw [Nat.not_le] at hbehind
  cases after with
  | nil =>
    rw [List.append_nil] at hword
    exact absurd hbehind (Nat.not_lt_of_le (byteLength_le_of_isPrefix hword))
  | cons c after =>
    have hwhole : before ++ [c] <+: word := by
      refine isPrefix_of_byteLength_lt ?_ hword hbehind
      rw [List.append_cons before c after]
      exact List.prefix_append _ _
    have hsize := byteLength_le_of_isPrefix hwhole
    rw [byteLength_append, byteLength, byteLength] at hsize
    have := hlt c rfl
    omega

/-- Past the end of the text there is no boundary. -/
theorem isGreatest_min (h : IsGreatest {q | IsBoundary cs q ∧ q ≤ n} q) :
    IsGreatest {q | IsBoundary cs q ∧ q ≤ min n (byteLength cs)} q :=
  ⟨⟨h.1.1, Nat.le_min.2 ⟨h.1.2, h.1.1.le_byteLength⟩⟩,
    fun _ hr => h.2 ⟨hr.1, hr.2.trans (Nat.min_le_left _ _)⟩⟩

/-- The characters from byte `m` up to byte `n`, unless one of the two is inside a character or past
the end, or `n` lies before `m`. -/
def slice? (cs : List Char) (m n : Nat) : Option (List Char) :=
  (splitAtByte? cs n).bind fun parts => (splitAtByte? parts.1 m).map Prod.snd

theorem slice?_append (before cs after : List Char) :
    slice? (before ++ (cs ++ after)) (byteLength before) (byteLength (before ++ cs)) = some cs := by
  rw [slice?, ← List.append_assoc, splitAtByte?_append, Option.bind_some, splitAtByte?_append]
  rfl

/-- Step back byte by byte until a boundary is reached, but not before the first byte. -/
def stepBack? (cs : List Char) (n : Nat) : Option Nat :=
  if (splitAtByte? cs n).isSome then some n
  else
    match n with
    | 0 => none
    | n + 1 => stepBack? cs n

/-- **Stepping back ends at the last boundary.** -/
theorem stepBack?_eq_of_isGreatest (h : IsGreatest {q | IsBoundary cs q ∧ q ≤ n} q) :
    stepBack? cs n = some q := by
  induction n with
  | zero =>
    rw [stepBack?, if_pos (isSome_splitAtByte?_iff.2 (isBoundary_zero cs)),
      Nat.le_zero.1 h.1.2]
  | succ n ih =>
    by_cases hn : IsBoundary cs (n + 1)
    · rw [stepBack?, if_pos (isSome_splitAtByte?_iff.2 hn),
        Nat.le_antisymm h.1.2 (h.2 ⟨hn, Nat.le_refl _⟩)]
    · have hne : q ≠ n + 1 := fun heq => hn (heq ▸ h.1.1)
      rw [stepBack?, if_neg (mt isSome_splitAtByte?_iff.1 hn)]
      exact ih ⟨⟨h.1.1, Nat.le_of_lt_succ (Nat.lt_of_le_of_ne h.1.2 hne)⟩,
        fun _ hr => h.2 ⟨hr.1, Nat.le_succ_of_le hr.2⟩⟩

end Text

/-! ## The conversion, step by step -/

namespace LineIndex

/-- The line that holds a byte offset, unless the search ends before the first line. -/
def lineOf? (index : LineIndex) (offset : Nat) : Option Nat :=
  match Search.run (fun start => compare start offset) index.starts with
  | .found line => some line
  | .missing 0 => none
  | .missing (line + 1) => some line

/-- The position of a byte offset, unless the search ends before the first line, the line is not in
the table, no boundary lies at or before the offset, or the line does not start at a boundary that
lies at or before that one. -/
def positionOf? (index : LineIndex) (text : List Char) (offset : Nat) : Option Position := do
  let offset := min offset (byteLength text)
  let line ← index.lineOf? offset
  let lineStart ← index.starts[line]?
  let boundary ← Text.stepBack? text offset
  let begun ← Text.slice? text lineStart boundary
  return ⟨line, unitLength begun⟩

/-- **The search never ends before the first line**, which starts at the first byte. -/
theorem lineOf?_ofText (text : List Char) (offset : Nat) :
    (ofText text).lineOf? offset = some ((ofText text).lineOf offset) := by
  rw [lineOf?, lineOf]
  cases hrun : Search.run (fun start => compare start offset) (ofText text).starts with
  | found line => rfl
  | missing line =>
    cases line with
    | zero =>
      obtain ⟨-, hbehind⟩ :=
        Search.compare_of_run_eq_missing (sorted_starts (pairwise_starts text)) hrun
      have hfirst : compare 0 offset = .gt := hbehind 0 (Nat.succ_pos _) (Nat.le_refl 0)
      exact absurd (Nat.compare_eq_gt.1 hfirst) (Nat.not_lt_zero offset)
    | succ line => rfl

/-- The position of an offset is the one behind the text up to the last boundary. -/
theorem positionOf_eq_behind (hle : byteLength before ≤ n)
    (hlt : ∀ c ∈ after.head?, n < byteLength before + c.utf8Size) :
    (ofText (before ++ after)).positionOf (before ++ after) n = Position.behind before := by
  obtain ⟨front, line, rfl, h⟩ := exists_isLine before
  rw [List.append_assoc, h.positionOf_of_le hle hlt, h.behind_eq]

/-- **No step fails**: the line that is found from the offset itself starts at or before the
boundary that is found by stepping back. -/
theorem positionOf?_eq_behind
    (h : IsGreatest {q | Text.IsBoundary (before ++ after) q ∧
      q ≤ min n (byteLength (before ++ after))} (byteLength before))
    (hlt : ∀ c ∈ after.head?, n < byteLength before + c.utf8Size) :
    (ofText (before ++ after)).positionOf? (before ++ after) n = some (Position.behind before) := by
  obtain ⟨front, line, rfl, hline⟩ := exists_isLine before
  have hboundary := Text.stepBack?_eq_of_isGreatest h
  have hle := h.1.2
  rw [List.append_assoc] at hboundary hle ⊢
  have hfound := hline.lineOf hle fun c hc => Nat.lt_of_le_of_lt (Nat.min_le_left _ _) (hlt c hc)
  simp only [positionOf?, lineOf?_ofText, hfound, hline.getElem?_starts, hboundary,
    Text.slice?_append, Option.bind_eq_bind, Option.bind_some, hline.behind_eq]
  rfl

/-- Every offset has the position of the last boundary at or before it. -/
theorem exists_positionOf_eq_behind (text : List Char) (offset : Nat) :
    ∃ before, before <+: text ∧
      IsGreatest {q | Text.IsBoundary text q ∧ q ≤ min offset (byteLength text)}
        (byteLength before) ∧
      (ofText text).positionOf? text offset = some (Position.behind before) ∧
      (ofText text).positionOf text offset = Position.behind before := by
  obtain ⟨before, after, rfl, hle, hlt⟩ := Text.exists_boundary text offset
  have hlast := Text.isGreatest_min (Text.isGreatest_byteLength hle hlt)
  exact ⟨before, List.prefix_append before after, hlast, positionOf?_eq_behind hlast hlt,
    positionOf_eq_behind hle hlt⟩

/-- **An offset further on has no earlier position.** -/
theorem monotone_positionOf (text : List Char) : Monotone ((ofText text).positionOf text) := by
  intro m n hmn
  obtain ⟨before, hpre, hlast, -, hm⟩ := exists_positionOf_eq_behind text m
  obtain ⟨before', hpre', hlast', -, hn⟩ := exists_positionOf_eq_behind text n
  have hoffset : min m (byteLength text) ≤ min n (byteLength text) :=
    Nat.le_min.2 ⟨(Nat.min_le_left _ _).trans hmn, Nat.min_le_right _ _⟩
  have hbytes : byteLength before ≤ byteLength before' :=
    hlast'.2 ⟨hlast.1.1, hlast.1.2.trans hoffset⟩
  rw [hm, hn]
  exact Position.behind_le_of_isPrefix (Text.isPrefix_of_byteLength_le hpre hpre' hbytes)

/-- **The position of an offset is found by counting**, wherever the offset lies.  With `q` the last
boundary at or before it, the line is the number of line feeds before `q`, and the column the width
of what lies between the last of them and `q`.  Every step of the conversion succeeds, the position
is no larger than the text, and an offset further on has no earlier position. -/
theorem positionOf_exact (text : List Char) :
    (∀ offset, (ofText text).lineOf? offset = some ((ofText text).lineOf offset)) ∧
    (∀ offset, ∃ before, before <+: text ∧
      IsGreatest {q | Text.IsBoundary text q ∧ q ≤ min offset (byteLength text)}
        (byteLength before) ∧
      (ofText text).positionOf? text offset = some (Position.behind before) ∧
      (ofText text).positionOf text offset = Position.behind before ∧
      (Position.behind before).line + (Position.behind before).column ≤ byteLength text) ∧
    Monotone ((ofText text).positionOf text) := by
  refine ⟨lineOf?_ofText text, fun offset => ?_, monotone_positionOf text⟩
  obtain ⟨before, hpre, hlast, hchecked, hposition⟩ := exists_positionOf_eq_behind text offset
  refine ⟨before, hpre, hlast, hchecked, hposition, ?_⟩
  calc (Position.behind before).line + (Position.behind before).column
      ≤ byteLength before := Position.line_add_column_behind_le before
    _ ≤ byteLength text := Text.byteLength_le_of_isPrefix hpre

end LineIndex
end EmojiLint
