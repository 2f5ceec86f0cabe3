import EmojiLint.Proofs.Text.Positions

/-!
# The offset of every position

A position may name a line that the text does not have, a column past the end of its line, or one
between the two units of a character.  Its offset is the first boundary of its line whose column is
large enough, the end of the line when there is none, and the end of the text when there is no such
line.

## What is here

* `Position.ReachedAt` — the boundaries of a line at which a position may be reached.
* `isLeast_offsetOf`, `offsetOf_of_lt` — the offset is the first of them, or the end of the text.
* `monotone_offsetOf` — a position further on has no earlier offset, on whichever lines they are.
* `offsetOf?`, `Span.ofBounds?` — the conversions with every step that could fail.
* `offsetOf_exact` — no step fails, the offset is the one described, and it leads back to exactly
  those positions that some boundary has.
-/

set_option autoImplicit false

namespace EmojiLint

open Text (byteLength unitLength)

variable {before after front line rest text : List Char} {n column : Nat}

/-- The difference of two numbers, unless the second is larger. -/
def sub? (m n : Nat) : Option Nat :=
  if n ≤ m then some (m - n) else none

/-- The span between two offsets, unless the second lies before the first. -/
def Span.ofBounds? (start stop : Nat) : Option Span :=
  (sub? stop start).map (Span.mk start)

/-- A boundary on the line of a position, its line feed excluded, whose column is at least the one
of the position or which is the end of the line. -/
def Position.ReachedAt (p : Position) (text : List Char) (q : Nat) : Prop :=
  ∃ before after, text = before ++ after ∧ byteLength before = q ∧
    (Position.behind before).line = p.line ∧
    (p.column ≤ (Position.behind before).column ∨ ∀ c ∈ after.head?, c = '\n')

namespace LineIndex

/-! ## Columns of a line -/

/-- Counting columns stops at a boundary of the line. -/
theorem exists_bytesToColumn_eq (rest : List Char) (column : Nat) :
    ∃ line after, rest = line ++ after ∧ '\n' ∉ line ∧
      byteLength line = bytesToColumn rest column ∧
      (column ≤ unitLength line ∨ ∀ c ∈ after.head?, c = '\n') := by
  induction rest generalizing column with
  | nil => exact ⟨[], [], rfl, List.not_mem_nil, rfl, Or.inr fun _ h => nomatch h⟩
  | cons c rest ih =>
    rw [bytesToColumn]
    split
    next hstop =>
      refine ⟨[], c :: rest, rfl, List.not_mem_nil, rfl, hstop.imp Nat.le_of_eq fun hc d hd => ?_⟩
      exact Option.some.inj hd ▸ hc
    next hgo =>
      obtain ⟨hzero, hc⟩ := not_or.1 hgo
      obtain ⟨line, after, rfl, hline, hbytes, hreach⟩ := ih (column - Text.units c)
      refine ⟨c :: line, after, rfl, ?_, ?_, hreach.imp_left fun hle => ?_⟩
      · rw [List.mem_cons, not_or]
        exact ⟨fun h => hc h.symm, hline⟩
      · rw [byteLength, hbytes]
      · rw [unitLength]
        exact Nat.sub_le_iff_le_add'.1 hle

/-- Counting columns stops at the first boundary that may stop it. -/
theorem bytesToColumn_append_le (hline : '\n' ∉ line)
    (hreach : column ≤ unitLength line ∨ ∀ c ∈ after.head?, c = '\n') :
    bytesToColumn (line ++ after) column ≤ byteLength line := by
  induction line generalizing column with
  | nil =>
    cases after with
    | nil => exact Nat.le_refl 0
    | cons c after =>
      have hstop : column = 0 ∨ c = '\n' := hreach.imp Nat.le_zero.1 fun h => h c rfl
      rw [List.nil_append, bytesToColumn, if_pos hstop]
      exact Nat.le_refl 0
  | cons c line ih =>
    rw [List.mem_cons, not_or] at hline
    rw [List.cons_append, bytesToColumn, byteLength]
    split
    next => exact Nat.zero_le _
    next =>
      refine Nat.add_le_add_left (ih hline.2 (hreach.imp_left fun hle => ?_)) _
      rw [unitLength] at hle
      exact Nat.sub_le_iff_le_add'.2 hle

/-- What follows the line does not count. -/
theorem bytesToColumn_append_of_ended (hended : ∀ c ∈ after.head?, c = '\n') :
    bytesToColumn (line ++ after) column = bytesToColumn line column := by
  induction line generalizing column with
  | nil =>
    cases after with
    | nil => rfl
    | cons c after => exact if_pos (Or.inr (hended c rfl))
  | cons c line ih => rw [List.cons_append, bytesToColumn, bytesToColumn, ih]

/-! ## The line of a position -/

/-- A line that the text has starts behind lines that are over. -/
theorem exists_line (h : n ≤ text.count '\n') :
    ∃ front rest, text = front ++ rest ∧ front.count '\n' = n ∧ IsLine front [] := by
  induction text using List.reverseRecOn with
  | nil => exact ⟨[], [], rfl, (Nat.le_zero.1 h).symm, fun _ h => (nomatch h), List.not_mem_nil⟩
  | append_singleton text c ih =>
    by_cases hn : n ≤ text.count '\n'
    · obtain ⟨front, rest, rfl, hcount, hline⟩ := ih hn
      exact ⟨front, rest ++ [c], List.append_assoc _ _ _, hcount, hline⟩
    · have hc : c = '\n' := by
        by_contra hc
        rw [count_concat_of_ne hc] at h
        exact hn h
      rw [hc, count_concat_lineFeed] at h
      rw [hc]
      refine ⟨text ++ ['\n'], [], (List.append_nil _).symm, ?_, isLine_concat_lineFeed text⟩
      rw [count_concat_lineFeed]
      omega

/-- A line reaches up to its line feed or the end of the text. -/
theorem exists_ended (rest : List Char) :
    ∃ line after, rest = line ++ after ∧ '\n' ∉ line ∧ ∀ c ∈ after.head?, c = '\n' := by
  refine ⟨rest.takeWhile (· != '\n'), rest.dropWhile (· != '\n'),
    List.takeWhile_append_dropWhile.symm, fun h => ?_, fun c hc => ?_⟩
  · exact absurd (List.mem_takeWhile_imp h) (by decide)
  · by_contra hne
    have hfirst := List.head?_dropWhile_not (· != '\n') rest
    rw [hc] at hfirst
    exact hne (by simpa using hfirst)

/-- A beginning of a text with as many line feeds as the lines that are over goes beyond them. -/
theorem IsLine.isPrefix_of_count_le (h : IsLine front []) (hfront : front <+: text)
    (hbefore : before <+: text) (hcount : front.count '\n' ≤ before.count '\n') :
    front <+: before := by
  rcases List.prefix_or_prefix_of_prefix hfront hbefore with hpre | ⟨ds, rfl⟩
  · exact hpre
  · rcases List.eq_nil_or_concat ds with rfl | ⟨ds, c, rfl⟩
    · rw [List.append_nil]
    · rw [List.concat_eq_append, ← List.append_assoc] at h hcount
      obtain rfl : c = '\n' := h.ended c List.getLast?_concat
      rw [count_concat_lineFeed] at hcount
      have hsub := (List.sublist_append_left before ds).count_le '\n'
      omega

/-- A text has one line more than it has line feeds. -/
theorem getElem?_starts_of_lt (h : text.count '\n' < n) : (ofText text).starts[n]? = none := by
  rw [Array.getElem?_eq_none_iff, ofText, List.size_toArray, List.length_cons, length_startsAfter]
  exact h

/-- **A line that the text does not have stands for its end.** -/
theorem offsetOf_of_lt {p : Position} (h : text.count '\n' < p.line) :
    (ofText text).offsetOf text p = byteLength text := by
  rw [LineIndex.offsetOf, getElem?_starts_of_lt h]

/-- **Otherwise the offset is the first boundary of the line that reaches the column**, or the end
of the line. -/
theorem isLeast_offsetOf {p : Position} (h : p.line ≤ text.count '\n') :
    IsLeast {q | p.ReachedAt text q} ((ofText text).offsetOf text p) := by
  obtain ⟨number, column⟩ := p
  obtain ⟨front, rest, rfl, rfl, hfront⟩ := exists_line h
  have hoffset := hfront.offsetOf_eq rest column
  rw [List.nil_append] at hoffset
  rw [hoffset]
  constructor
  · obtain ⟨line, after, rfl, hbegun, hbytes, hreach⟩ := exists_bytesToColumn_eq rest column
    have hline : IsLine front line := ⟨hfront.ended, hbegun⟩
    refine ⟨front ++ line, after, (List.append_assoc _ _ _).symm, ?_, ?_⟩
    · rw [Text.byteLength_append, hbytes]
    · rw [hline.behind_eq]
      exact ⟨rfl, hreach⟩
  · rintro _ ⟨before, after, htext, rfl, hcount, hreach⟩
    have hbefore : before <+: front ++ rest := ⟨after, htext.symm⟩
    obtain ⟨line, rfl⟩ := hfront.isPrefix_of_count_le (List.prefix_append _ _) hbefore
      (Nat.le_of_eq hcount.symm)
    rw [List.append_assoc, List.append_cancel_left_eq] at htext
    subst htext
    have hbegun : '\n' ∉ line := by
      rw [Position.line_behind, List.count_append] at hcount
      exact List.count_eq_zero.1 (Nat.add_eq_left.1 hcount)
    have hline : IsLine front line := ⟨hfront.ended, hbegun⟩
    rw [hline.behind_eq] at hreach
    rw [Text.byteLength_append]
    exact Nat.add_le_add_left (bytesToColumn_append_le hbegun hreach) _

/-- A column between the two units of a character stands for the boundary behind it. -/
example : (ofText "a😀b".toList).offsetOf "a😀b".toList ⟨0, 2⟩ = 5 := by
  decide

theorem isBoundary_offsetOf (text : List Char) (p : Position) :
    Text.IsBoundary text ((ofText text).offsetOf text p) := by
  rcases Nat.lt_or_ge (text.count '\n') p.line with h | h
  · rw [offsetOf_of_lt h]
    exact Text.isBoundary_byteLength text
  · obtain ⟨before, after, rfl, hbytes, -⟩ := (isLeast_offsetOf h).1
    exact ⟨before, List.prefix_append _ _, hbytes⟩

/-! ## Offsets in order -/

/-- Every boundary of a line lies before every boundary of a later one. -/
theorem byteLength_le_of_count_lt (hbefore : before <+: text) (hfront : front <+: text)
    (h : before.count '\n' < front.count '\n') : byteLength before ≤ byteLength front := by
  refine Text.byteLength_le_of_isPrefix ?_
  rcases List.prefix_or_prefix_of_prefix hbefore hfront with hpre | hpre
  · exact hpre
  · exact absurd h (Nat.not_lt_of_le (hpre.sublist.count_le '\n'))

/-- **A position further on has no earlier offset.** -/
theorem monotone_offsetOf (text : List Char) : Monotone ((ofText text).offsetOf text) := by
  intro p q hpq
  rcases Nat.lt_or_ge (text.count '\n') q.line with hq | hq
  · rw [offsetOf_of_lt hq]
    exact (isBoundary_offsetOf text p).le_byteLength
  · obtain ⟨before', after', htext', hbytes', hline', hreach'⟩ := (isLeast_offsetOf hq).1
    rcases Position.le_iff.1 hpq with hlt | ⟨heq, hle⟩
    · obtain ⟨before, after, htext, hbytes, hline, -⟩ :=
        (isLeast_offsetOf (hlt.le.trans hq)).1
      rw [← hbytes, ← hbytes']
      refine byteLength_le_of_count_lt ⟨after, htext.symm⟩ ⟨after', htext'.symm⟩ ?_
      rw [← Position.line_behind, ← Position.line_behind, hline, hline']
      exact hlt
    · exact (isLeast_offsetOf (heq.le.trans hq)).2
        ⟨before', after', htext', hbytes', hline'.trans heq.symm, hreach'.imp_left hle.trans⟩

/-! ## The conversion, step by step -/

/-- The end of a line: one byte before the next one, or the end of the text. -/
def lineStop? (index : LineIndex) (text : List Char) (line : Nat) : Option Nat :=
  match index.starts[line + 1]? with
  | none => some (byteLength text)
  | some next => sub? next 1

/-- The byte offset of a position, unless the next line starts at the first byte, or the line is not
between two boundaries of the text. -/
def offsetOf? (index : LineIndex) (text : List Char) (position : Position) : Option Nat :=
  match index.starts[position.line]? with
  | none => some (byteLength text)
  | some lineStart => do
    let lineStop ← index.lineStop? text position.line
    let line ← Text.slice? text lineStart lineStop
    return lineStart + bytesToColumn line position.column

/-- The line that has begun ends before the next start in the table, or at the end of the text. -/
theorem IsLine.lineStop?_eq (h : IsLine front line) (hended : ∀ c ∈ after.head?, c = '\n') :
    (ofText (front ++ (line ++ after))).lineStop? (front ++ (line ++ after)) (front.count '\n') =
      some (byteLength (front ++ line)) := by
  rw [lineStop?]
  cases after with
  | nil =>
    have hcount : (front ++ (line ++ [])).count '\n' = front.count '\n' := by
      rw [List.append_nil, List.count_append, List.count_eq_zero.2 h.begun]
      rfl
    rw [getElem?_starts_of_lt (Nat.lt_succ_of_le hcount.le), List.append_nil]
  | cons c after =>
    obtain rfl : c = '\n' := hended c rfl
    have hstart := (isLine_concat_lineFeed (front ++ line)).getElem?_starts after
    have hcount : (front ++ line ++ ['\n']).count '\n' = front.count '\n' + 1 := by
      rw [count_concat_lineFeed, List.count_append, List.count_eq_zero.2 h.begun, Nat.add_zero]
    have hbytes : byteLength (front ++ line ++ ['\n']) = byteLength (front ++ line) + 1 := by
      rw [Text.byteLength_append]
      rfl
    rw [hcount, hbytes, List.nil_append, List.append_assoc, List.append_assoc,
      List.singleton_append] at hstart
    simp only [hstart]
    exact if_pos (Nat.le_add_left 1 _)

/-- **No step fails.** -/
theorem offsetOf?_ofText (text : List Char) (p : Position) :
    (ofText text).offsetOf? text p = some ((ofText text).offsetOf text p) := by
  rcases Nat.lt_or_ge (text.count '\n') p.line with h | h
  · rw [offsetOf_of_lt h, offsetOf?, getElem?_starts_of_lt h]
  · obtain ⟨number, column⟩ := p
    obtain ⟨front, rest, rfl, rfl, hfront⟩ := exists_line h
    obtain ⟨line, after, rfl, hbegun, hended⟩ := exists_ended rest
    have hline : IsLine front line := ⟨hfront.ended, hbegun⟩
    rw [hline.offsetOf_eq]
    simp only [offsetOf?, hline.getElem?_starts, hline.lineStop?_eq hended, Text.slice?_append,
      Option.bind_eq_bind, Option.bind_some, bytesToColumn_append_of_ended hended]
    rfl

/-! ## There and back -/

/-- **The positions that lead to an offset and back are those of the boundaries.** -/
theorem positionOf_offsetOf_eq_iff {p : Position} :
    (ofText text).positionOf text ((ofText text).offsetOf text p) = p ↔
      ∃ before, before <+: text ∧ Position.behind before = p := by
  constructor
  · intro h
    obtain ⟨before, hpre, -, -, hposition⟩ :=
      exists_positionOf_eq_behind text ((ofText text).offsetOf text p)
    exact ⟨before, hpre, hposition.symm.trans h⟩
  · rintro ⟨before, ⟨after, rfl⟩, rfl⟩
    have hposition : (ofText (before ++ after)).positionOf (before ++ after) (byteLength before) =
        Position.behind before :=
      positionOf_eq_behind (Nat.le_refl _) fun c _ => Nat.lt_add_of_pos_right (Char.utf8Size_pos c)
    have hoffset := offsetOf_positionOf before after
    rw [hposition] at hoffset
    rw [hoffset, hposition]

/-- **The offset of a position**, whatever it names.  It is a boundary of the text: its end when the
text does not have the line, and otherwise the first boundary of the line, its line feed excluded,
whose column is at least the one of the position, or the end of the line when there is none.  Every
step of the conversion succeeds.  A position further on has no earlier offset, so an extent that
does not end before it starts has a span.  And the positions that are found again from their offsets
are those of the boundaries. -/
theorem offsetOf_exact (text : List Char) :
    (∀ p, Text.IsBoundary text ((ofText text).offsetOf text p) ∧
      (ofText text).offsetOf text p ≤ byteLength text ∧
      (ofText text).offsetOf? text p = some ((ofText text).offsetOf text p)) ∧
    (∀ p : Position,
      text.count '\n' < p.line ∧ (ofText text).offsetOf text p = byteLength text ∨
      p.line ≤ text.count '\n' ∧
        IsLeast {q | p.ReachedAt text q} ((ofText text).offsetOf text p)) ∧
    Monotone ((ofText text).offsetOf text) ∧
    (∀ extent : Extent, extent.start ≤ extent.stop →
      Span.ofBounds? ((ofText text).offsetOf text extent.start)
        ((ofText text).offsetOf text extent.stop) = some ((ofText text).spanOf text extent)) ∧
    (∀ p, (ofText text).positionOf text ((ofText text).offsetOf text p) = p ↔
      ∃ before, before <+: text ∧ Position.behind before = p) := by
  refine ⟨fun p => ?_, fun p => ?_, monotone_offsetOf text, fun extent hordered => ?_,
    fun p => positionOf_offsetOf_eq_iff⟩
  · have hboundary := isBoundary_offsetOf text p
    exact ⟨hboundary, hboundary.le_byteLength, offsetOf?_ofText text p⟩
  · rcases Nat.lt_or_ge (text.count '\n') p.line with h | h
    · exact Or.inl ⟨h, offsetOf_of_lt h⟩
    · exact Or.inr ⟨h, isLeast_offsetOf h⟩
  · rw [Span.ofBounds?, sub?, if_pos (monotone_offsetOf text hordered)]
    rfl

end LineIndex
end EmojiLint
