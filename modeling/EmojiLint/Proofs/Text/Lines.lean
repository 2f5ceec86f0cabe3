import EmojiLint.Proofs.Search
import EmojiLint.Proofs.Text.Boundary
import EmojiLint.Text.Lines

/-!
# There and back between offsets and positions

Every offset between two characters has a position of its own, from which the offset is found
again.  A place in a text is given by what stands before it, in two parts: the lines that are over
(`front`) and the begun one (`line`).  The first part decides the line number and the second one the
column.

* `IsLine` — the two parts, `exists_isLine` — they always exist.
* `lineOf_eq` — what the search in the table of line starts finds.
* `IsLine.positionOf`, `IsLine.offsetOf` — the two conversions at a place; an offset inside the
  character behind it has the same position (`IsLine.positionOf_of_le`).
* `offsetOf_positionOf` — hence the one undoes the other.
* `positionOf_append_word` — a word without a line feed ends on its line, as many columns further as
  it has UTF-16 units.
-/

set_option autoImplicit false

namespace EmojiLint
namespace LineIndex

open Text (byteLength unitLength)

variable {cs front line after : List Char} {offset start : Nat}

/-! ## Where lines start -/

theorem startsAfter_append (offset : Nat) (xs ys : List Char) :
    startsAfter offset (xs ++ ys) =
      startsAfter offset xs ++ startsAfter (offset + byteLength xs) ys := by
  induction xs generalizing offset with
  | nil => rfl
  | cons c xs ih =>
    simp only [List.cons_append, startsAfter, ih, byteLength, ← Nat.add_assoc]
    split <;> rfl

theorem length_startsAfter (offset : Nat) (cs : List Char) :
    (startsAfter offset cs).length = cs.count '\n' := by
  induction cs generalizing offset with
  | nil => rfl
  | cons c cs ih =>
    by_cases hc : c = '\n'
    · simp [startsAfter, hc, ih]
    · simp [startsAfter, hc, ih]

theorem count_concat_lineFeed (cs : List Char) :
    (cs ++ ['\n']).count '\n' = cs.count '\n' + 1 :=
  List.count_append

theorem count_concat_of_ne {c : Char} (hc : c ≠ '\n') (cs : List Char) :
    (cs ++ [c]).count '\n' = cs.count '\n' := by
  rw [List.count_append, List.count_eq_zero.2 fun h => hc (List.mem_singleton.1 h).symm]
  rfl

theorem startsAfter_of_notMem (h : '\n' ∉ cs) : startsAfter offset cs = [] := by
  rw [← List.length_eq_zero_iff, length_startsAfter, List.count_eq_zero]
  exact h

/-- A line starts behind the first character at the earliest. -/
theorem add_le_of_mem_startsAfter {c : Char} (h : start ∈ startsAfter offset (c :: cs)) :
    offset + c.utf8Size ≤ start := by
  induction cs generalizing offset c with
  | nil =>
    rw [startsAfter] at h
    split at h
    · exact (List.mem_singleton.1 h).ge
    · cases h
  | cons d cs ih =>
    have hlater : start ∈ startsAfter (offset + c.utf8Size) (d :: cs) →
        offset + c.utf8Size ≤ start := fun h => Nat.le_trans (Nat.le_add_right _ _) (ih h)
    rw [startsAfter] at h
    split at h
    · rcases List.mem_cons.1 h with rfl | h
      · exact Nat.le_refl _
      · exact hlater h
    · exact hlater h

/-- A line starts behind the line feed before it. -/
theorem lt_of_mem_startsAfter (h : start ∈ startsAfter offset cs) : offset < start := by
  cases cs with
  | nil => cases h
  | cons c cs =>
    exact Nat.lt_of_lt_of_le (Nat.lt_add_of_pos_right (Char.utf8Size_pos c))
      (add_le_of_mem_startsAfter h)

theorem pairwise_startsAfter (offset : Nat) (cs : List Char) :
    (startsAfter offset cs).Pairwise (· < ·) := by
  induction cs generalizing offset with
  | nil => exact List.Pairwise.nil
  | cons c cs ih =>
    rw [startsAfter]
    split
    · exact (ih _).cons fun _ hmem => lt_of_mem_startsAfter hmem
    · exact ih _

/-- **Lines start one behind the other.** -/
theorem pairwise_starts (text : List Char) : (ofText text).starts.toList.Pairwise (· < ·) :=
  (pairwise_startsAfter 0 text).cons fun _ hmem => lt_of_mem_startsAfter hmem

/-! ## The line of an offset -/

theorem sorted_starts {index : LineIndex} (h : index.starts.toList.Pairwise (· < ·)) :
    Search.Sorted (fun start => compare start offset) index.starts := by
  have hle : ∀ (i j : Nat) (hj : j < index.starts.size) (hij : i ≤ j),
      index.starts[i] ≤ index.starts[j] := by
    intro i j hj hij
    rcases Nat.eq_or_lt_of_le hij with rfl | hlt
    · exact Nat.le_refl _
    · exact Nat.le_of_lt (List.pairwise_iff_getElem.1 h i j (Nat.lt_trans hlt hj) hj hlt)
  refine ⟨fun i j hj hij hlt => ?_, fun i j hj hij hgt => ?_⟩
  · rw [Nat.compare_eq_lt] at hlt ⊢
    exact Nat.lt_of_le_of_lt (hle i j hj hij) hlt
  · rw [Nat.compare_eq_gt] at hgt ⊢
    exact Nat.lt_of_lt_of_le hgt (hle i j hj hij)

/-- **The line of an offset is the last one that starts at or before it.** -/
theorem lineOf_eq {index : LineIndex} (h : index.starts.toList.Pairwise (· < ·)) {n : Nat}
    (hn : n < index.starts.size) (hle : index.starts[n] ≤ offset)
    (hlt : ∀ (j : Nat) (hj : j < index.starts.size), n < j → offset < index.starts[j]) :
    index.lineOf offset = n := by
  rw [lineOf]
  cases hrun : Search.run (fun start => compare start offset) index.starts with
  | found i =>
    obtain ⟨hi, heq⟩ := Search.exists_of_between_eq_found hrun
    rw [Nat.compare_eq_eq] at heq
    rcases Nat.lt_trichotomy i n with hin | rfl | hni
    · have := List.pairwise_iff_getElem.1 h i n hi hn hin
      simp only [Array.getElem_toList] at this
      omega
    · rfl
    · have := hlt i hi hni
      omega
  | missing i =>
    obtain ⟨hbefore, hbehind⟩ := Search.compare_of_run_eq_missing (sorted_starts h) hrun
    have hsize := Search.le_size_of_run_eq_missing hrun
    have hni : n < i := by
      by_contra hin
      have := Nat.compare_eq_gt.1 (hbehind n hn (Nat.le_of_not_lt hin))
      omega
    have hin : i ≤ n + 1 := by
      by_contra hni'
      have := Nat.compare_eq_lt.1 (hbefore (n + 1) (by omega) (by omega))
      have := hlt (n + 1) (by omega) (Nat.lt_succ_self n)
      omega
    show i - 1 = n
    omega

/-! ## Places -/

/-- What stands before a place: the lines that are over, each with its line feed, and the line that
has begun. -/
structure IsLine (front line : List Char) : Prop where
  ended : ∀ c ∈ front.getLast?, c = '\n'
  begun : '\n' ∉ line

/-- Behind a line feed a line begins. -/
theorem isLine_concat_lineFeed (cs : List Char) : IsLine (cs ++ ['\n']) [] := by
  refine ⟨fun c hc => ?_, List.not_mem_nil⟩
  rw [List.getLast?_concat] at hc
  exact (Option.some.inj hc).symm

theorem exists_isLine (cs : List Char) : ∃ front line, cs = front ++ line ∧ IsLine front line := by
  induction cs using List.reverseRecOn with
  | nil => exact ⟨[], [], rfl, fun _ h => (nomatch h), List.not_mem_nil⟩
  | append_singleton cs c ih =>
    by_cases hc : c = '\n'
    · rw [hc]
      exact ⟨cs ++ ['\n'], [], (List.append_nil _).symm, isLine_concat_lineFeed cs⟩
    · obtain ⟨front, line, rfl, h⟩ := ih
      refine ⟨front, line ++ [c], List.append_assoc _ _ _, h.ended, ?_⟩
      rw [List.mem_append, List.mem_singleton]
      rintro (hmem | heq)
      · exact h.begun hmem
      · exact hc heq.symm

namespace IsLine

/-- The lines that start in the lines that are over and right behind them. -/
theorem starts_eq (h : IsLine front line) (after : List Char) :
    (ofText (front ++ (line ++ after))).starts.toList =
      0 :: startsAfter 0 front ++ startsAfter (byteLength (front ++ line)) after := by
  show 0 :: startsAfter 0 (front ++ (line ++ after)) = _
  rw [startsAfter_append, startsAfter_append, startsAfter_of_notMem h.begun, List.nil_append,
    Nat.zero_add, Text.byteLength_append]
  rfl

/-- The line that has begun started right behind the lines that are over. -/
theorem getElem?_starts (h : IsLine front line) (after : List Char) :
    (ofText (front ++ (line ++ after))).starts[front.count '\n']? = some (byteLength front) := by
  rw [← Array.getElem?_toList, h.starts_eq, List.getElem?_append_left (by
    rw [List.length_cons, length_startsAfter]
    exact Nat.lt_succ_self _)]
  rcases List.eq_nil_or_concat front with rfl | ⟨lines, c, rfl⟩
  · rfl
  · rw [List.concat_eq_append] at h ⊢
    obtain rfl : c = '\n' := h.ended c List.getLast?_concat
    have hcount : (lines ++ ['\n']).count '\n' = (startsAfter 0 lines).length + 1 := by
      rw [count_concat_lineFeed, length_startsAfter]
    have hlast : startsAfter (0 + byteLength lines) ['\n'] = [byteLength (lines ++ ['\n'])] := by
      rw [Text.byteLength_append, Nat.zero_add]
      rfl
    rw [hcount, List.getElem?_cons_succ, startsAfter_append, hlast, List.getElem?_concat_length]

/-- The line of an offset at a place or inside the character behind it. -/
theorem lineOf (h : IsLine front line) (hle : byteLength (front ++ line) ≤ offset)
    (hlt : ∀ c ∈ after.head?, offset < byteLength (front ++ line) + c.utf8Size) :
    (ofText (front ++ (line ++ after))).lineOf offset = front.count '\n' := by
  obtain ⟨hn, hstart⟩ := Array.getElem?_eq_some_iff.1 (h.getElem?_starts after)
  refine lineOf_eq (pairwise_starts _) hn ?_ fun j hj hnj => ?_
  · rw [hstart]
    rw [Text.byteLength_append] at hle
    exact Nat.le_trans (Nat.le_add_right _ _) hle
  · -- The lines that start later start in what follows the place.
    have hover : (0 :: startsAfter 0 front).length ≤ j := by
      rw [List.length_cons, length_startsAfter]
      exact hnj
    have hmem : (ofText (front ++ (line ++ after))).starts[j] ∈
        startsAfter (byteLength (front ++ line)) after := by
      refine List.mem_of_getElem? (i := j - (0 :: startsAfter 0 front).length) ?_
      rw [← List.getElem?_append_right hover, ← h.starts_eq, Array.getElem?_toList,
        Array.getElem?_eq_getElem hj]
    cases after with
    | nil => cases hmem
    | cons c after => exact Nat.lt_of_lt_of_le (hlt c rfl) (add_le_of_mem_startsAfter hmem)

/-- **The position of an offset at a place or inside the character behind it**: the number of lines
that are over, and the width of the one that has begun. -/
theorem positionOf_of_le (h : IsLine front line) (hle : byteLength (front ++ line) ≤ offset)
    (hlt : ∀ c ∈ after.head?, offset < byteLength (front ++ line) + c.utf8Size) :
    (ofText (front ++ (line ++ after))).positionOf (front ++ (line ++ after)) offset =
      ⟨front.count '\n', unitLength line⟩ := by
  have hmin : byteLength (front ++ line) ≤
      min offset (byteLength (front ++ (line ++ after))) := by
    rw [← List.append_assoc, Text.byteLength_append (front ++ line)]
    exact Nat.le_min.2 ⟨hle, Nat.le_add_right _ _⟩
  have hlt' : ∀ c ∈ after.head?, min offset (byteLength (front ++ (line ++ after))) <
      byteLength (front ++ line) + c.utf8Size := fun c hc =>
    Nat.lt_of_le_of_lt (Nat.min_le_left _ _) (hlt c hc)
  simp only [LineIndex.positionOf, h.lineOf hmin hlt', h.getElem?_starts, Option.getD_some,
    Text.dropBytes_append]
  have hlength : byteLength (front ++ line) = byteLength front + byteLength line :=
    Text.byteLength_append front line
  rw [hlength] at hmin hlt'
  rw [Text.takeBytes_append_of_lt (Nat.le_sub_of_add_le' hmin) fun c hc => by
    have := hlt' c hc
    omega]

/-- **The position of a place.** -/
theorem positionOf (h : IsLine front line) (after : List Char) :
    (ofText (front ++ (line ++ after))).positionOf (front ++ (line ++ after))
      (byteLength (front ++ line)) = ⟨front.count '\n', unitLength line⟩ :=
  h.positionOf_of_le (Nat.le_refl _) fun c _ => Nat.lt_add_of_pos_right (Char.utf8Size_pos c)

end IsLine

theorem units_pos (c : Char) : 0 < Text.units c := by
  rw [Text.units]
  split
  · exact Nat.one_pos
  · exact Nat.two_pos

/-- A character beyond the Basic Multilingual Plane takes four bytes. -/
theorem utf8Size_of_le {c : Char} (h : 0x10000 ≤ c.toNat) : c.utf8Size = 4 := by
  have hlarge (n : UInt32) (hn : n.toNat < 0x10000) : ¬ c.val ≤ n := fun hle =>
    Nat.not_lt_of_le h (Nat.lt_of_le_of_lt (UInt32.le_iff_toNat_le.1 hle) hn)
  rw [Char.utf8Size, if_neg (hlarge _ (by decide)), if_neg (hlarge _ (by decide)),
    if_neg (hlarge _ (by decide))]

theorem units_le_utf8Size (c : Char) : Text.units c ≤ c.utf8Size := by
  rw [Text.units]
  split
  next => exact Char.utf8Size_pos c
  next h =>
    rw [utf8Size_of_le (Nat.le_of_not_lt h)]
    decide

/-- In a line, as many bytes lie before a column as the characters before it take. -/
theorem bytesToColumn_append (h : '\n' ∉ line) (after : List Char) :
    bytesToColumn (line ++ after) (unitLength line) = byteLength line := by
  induction line with
  | nil =>
    cases after with
    | nil => rfl
    | cons c cs => exact if_pos (Or.inl rfl)
  | cons c line ih =>
    rw [List.mem_cons, not_or] at h
    have hpos := units_pos c
    rw [List.cons_append, bytesToColumn, if_neg, unitLength, Nat.add_sub_cancel_left, ih h.2,
      byteLength]
    rintro (hzero | rfl)
    · rw [unitLength] at hzero
      omega
    · exact h.1 rfl

/-- The offset of a column of the line that has begun. -/
theorem IsLine.offsetOf_eq (h : IsLine front line) (after : List Char) (column : Nat) :
    (ofText (front ++ (line ++ after))).offsetOf (front ++ (line ++ after))
      ⟨front.count '\n', column⟩ = byteLength front + bytesToColumn (line ++ after) column := by
  simp only [LineIndex.offsetOf, h.getElem?_starts, Text.dropBytes_append]

/-- **The offset of a place**, found from its position. -/
theorem IsLine.offsetOf (h : IsLine front line) (after : List Char) :
    (ofText (front ++ (line ++ after))).offsetOf (front ++ (line ++ after))
      ⟨front.count '\n', unitLength line⟩ = byteLength (front ++ line) := by
  rw [h.offsetOf_eq, bytesToColumn_append h.begun, Text.byteLength_append]

/-- **An offset between two characters is found again from its position.** -/
theorem offsetOf_positionOf (before after : List Char) :
    (ofText (before ++ after)).offsetOf (before ++ after)
      ((ofText (before ++ after)).positionOf (before ++ after) (byteLength before)) =
      byteLength before := by
  obtain ⟨front, line, rfl, h⟩ := exists_isLine before
  rw [List.append_assoc, h.positionOf, h.offsetOf]

/-! ## Words -/

/-- The position behind a word that holds no line feed. -/
theorem positionOf_append_word {word : List Char} (hword : '\n' ∉ word) (before after : List Char) :
    let text := before ++ (word ++ after)
    (ofText text).positionOf text (byteLength (before ++ word)) =
      ⟨((ofText text).positionOf text (byteLength before)).line,
        ((ofText text).positionOf text (byteLength before)).column + unitLength word⟩ := by
  obtain ⟨front, line, rfl, h⟩ := exists_isLine before
  have hbehind : IsLine front (line ++ word) :=
    ⟨h.ended, fun hmem => (List.mem_append.1 hmem).elim h.begun hword⟩
  have hpos := hbehind.positionOf after
  rw [List.append_assoc, Text.unitLength_append] at hpos
  simp only [List.append_assoc, h.positionOf, hpos]

end LineIndex
end EmojiLint
