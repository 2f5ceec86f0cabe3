import EmojiLint.Ignore.Basic
import EmojiLint.Proofs.Ignore.Regions
import EmojiLint.Proofs.Text.Ascii

/-!
# Comments behind a hash sign

In some languages a hash sign begins a comment, which ends with its line, and nothing else begins
one.  As long as strings are not ignored, quotes and backslashes mean nothing there, so no scanner
is needed to say what is ignored: all that stands behind the first hash sign of its line.

* `HasHashOnly`, `hasHashOnly_iff` — the languages that this is about.
* `BehindHash` — what is ignored, said for one byte of a text.
* `covers_regionsFrom_of_hash` — what the scanner finds, from every state that it can be in.
* `behindHash_append` — a line is ignored as it is by itself.
* `contains_ignoredRanges_iff_behindHash` — both together.
-/

set_option autoImplicit false

namespace EmojiLint
namespace Ignore

/-- The byte of a hash sign. -/
def hash : UInt8 := 0x23

/-- A hash sign is all that opens a comment. -/
def Markers.HasHashOnly (markers : Markers) : Prop :=
  markers.line = ["#"] ∧ markers.block = []

instance (markers : Markers) : Decidable markers.HasHashOnly :=
  inferInstanceAs (Decidable (_ ∧ _))

/-- The languages in which a hash sign is all that opens a comment. -/
def hashLanguages : List String :=
  ["python", "shellscript", "bash", "sh", "yaml", "toml", "ruby"]

/-- **In which languages a hash sign is all that opens a comment.** -/
theorem hasHashOnly_iff {language : String} :
    (Markers.ofLanguage language).HasHashOnly ↔ Text.lowercase language ∈ hashLanguages := by
  rw [Markers.ofLanguage]
  generalize Text.lowercase language = id
  constructor
  · intro h
    have htable : ∀ entry ∈ Markers.table, entry.2.HasHashOnly →
        ∀ id ∈ entry.1, id ∈ hashLanguages := by decide
    split at h
    · next entry hfind =>
      have hid := List.find?_some hfind
      exact htable entry (List.mem_of_find?_eq_some hfind) h id (List.contains_iff_mem.1 hid)
    · exact absurd h (by decide)
  · intro h
    simp only [hashLanguages, List.mem_cons, List.not_mem_nil, or_false] at h
    rcases h with rfl | rfl | rfl | rfl | rfl | rfl | rfl <;> decide

/-- No Markdown document is written in one of these languages. -/
theorem isMarkdown_eq_false_of_hasHashOnly {language : String}
    (h : (Markers.ofLanguage language).HasHashOnly) : isMarkdown language = false := by
  have hlanguages : ∀ id ∈ hashLanguages, (id == "markdown" || id == "mdx") = false := by decide
  exact hlanguages _ (hasHashOnly_iff.1 h)

/-! ## What is ignored -/

/-- The first line of a text reaches behind an offset. -/
def OnFirstLine (text : List UInt8) (offset : Nat) : Prop :=
  offset < text.length ∧ ∀ i ≤ offset, text[i]? ≠ some lineFeed

/-- A byte of a text that is no line feed and has a hash sign before it on its line, or is one. -/
def BehindHash (text : List UInt8) (offset : Nat) : Prop :=
  offset < text.length ∧ text[offset]? ≠ some lineFeed ∧
    ∃ i ≤ offset, text[i]? = some hash ∧ ∀ j, i ≤ j → j < offset → text[j]? ≠ some lineFeed

section Lines

variable {text rest : List UInt8} {b : UInt8} {offset : Nat}

/-- A hash sign, and what follows it on its line. -/
theorem behindHash_iff_drop :
    BehindHash text offset ↔
      ∃ i ≤ offset, text[i]? = some hash ∧ OnFirstLine (text.drop i) (offset - i) := by
  constructor
  · rintro ⟨hlt, hself, i, hle, hhash, hline⟩
    refine ⟨i, hle, hhash, by rw [List.length_drop]; omega, fun j hj => ?_⟩
    rw [List.getElem?_drop]
    rcases Nat.lt_or_ge (i + j) offset with hbefore | hat
    · exact hline (i + j) (Nat.le_add_right i j) hbefore
    · rwa [show i + j = offset by omega]
  · rintro ⟨i, hle, hhash, hlt, hline⟩
    have hbefore : ∀ j, i ≤ j → j ≤ offset → text[j]? ≠ some lineFeed := by
      intro j hij hj
      have := hline (j - i) (by omega)
      rwa [List.getElem?_drop, Nat.add_sub_cancel' hij] at this
    rw [List.length_drop] at hlt
    exact ⟨by omega, hbefore offset hle (Nat.le_refl _), i, hle, hhash,
      fun j hij hj => hbefore j hij (Nat.le_of_lt hj)⟩

theorem onFirstLine_cons_zero : OnFirstLine (b :: rest) 0 ↔ b ≠ lineFeed := by
  simp [OnFirstLine]

theorem onFirstLine_cons_succ :
    OnFirstLine (b :: rest) (offset + 1) ↔ b ≠ lineFeed ∧ OnFirstLine rest offset := by
  simp only [OnFirstLine, List.length_cons, Nat.add_lt_add_iff_right]
  constructor
  · rintro ⟨hlt, hline⟩
    refine ⟨by simpa using hline 0 (Nat.zero_le _), hlt, fun i hi => ?_⟩
    simpa using hline (i + 1) (Nat.succ_le_succ hi)
  · rintro ⟨hb, hlt, hline⟩
    refine ⟨hlt, fun i hi => ?_⟩
    cases i with
    | zero => simpa using hb
    | succ i => simpa using hline i (Nat.le_of_succ_le_succ hi)

theorem behindHash_cons_zero : BehindHash (b :: rest) 0 ↔ b = hash := by
  simp only [behindHash_iff_drop, Nat.le_zero, exists_eq_left, List.getElem?_cons_zero,
    Option.some_inj, List.drop_zero, onFirstLine_cons_zero, Nat.sub_zero, and_iff_left_iff_imp]
  rintro rfl
  decide

theorem behindHash_cons_succ :
    BehindHash (b :: rest) (offset + 1) ↔
      (b = hash ∧ OnFirstLine rest offset) ∨ BehindHash rest offset := by
  simp only [behindHash_iff_drop]
  constructor
  · rintro ⟨i, hle, hhash, hline⟩
    cases i with
    | zero => exact Or.inl ⟨by simpa using hhash, (onFirstLine_cons_succ.1 hline).2⟩
    | succ i =>
      refine Or.inr ⟨i, Nat.le_of_succ_le_succ hle, by simpa using hhash, ?_⟩
      rwa [Nat.add_sub_add_right] at hline
  · rintro (⟨rfl, hline⟩ | ⟨i, hle, hhash, hline⟩)
    · exact ⟨0, Nat.zero_le _, rfl, onFirstLine_cons_succ.2 ⟨by decide, hline⟩⟩
    · refine ⟨i + 1, Nat.succ_le_succ hle, by simpa using hhash, ?_⟩
      rwa [Nat.add_sub_add_right]

/-- The first line seen from a cursor, and from one byte further on. -/
theorem onFirstLine_cons {pos : Nat} (hb : b ≠ lineFeed) :
    pos ≤ offset ∧ OnFirstLine (b :: rest) (offset - pos) ↔
      offset = pos ∨ (pos + 1 ≤ offset ∧ OnFirstLine rest (offset - (pos + 1))) := by
  rcases Nat.lt_trichotomy offset pos with hlt | rfl | hlt
  · exact iff_of_false (by omega) (by omega)
  · simp [onFirstLine_cons_zero, hb]
  · obtain ⟨n, rfl⟩ := Nat.exists_eq_add_of_le hlt
    rw [show pos.succ + n - pos = n + 1 by omega, onFirstLine_cons_succ]
    simp [hb, show pos.succ + n ≠ pos by omega, show pos ≤ pos.succ + n by omega]

/-- What is ignored seen from a cursor, and from one byte further on. -/
theorem behindHash_cons {pos : Nat} :
    pos ≤ offset ∧ BehindHash (b :: rest) (offset - pos) ↔
      (b = hash ∧ (offset = pos ∨ (pos + 1 ≤ offset ∧ OnFirstLine rest (offset - (pos + 1))))) ∨
        (pos + 1 ≤ offset ∧ BehindHash rest (offset - (pos + 1))) := by
  rcases Nat.lt_trichotomy offset pos with hlt | rfl | hlt
  · exact iff_of_false (by omega) (by omega)
  · simp only [Nat.sub_self, behindHash_cons_zero, Nat.not_succ_le_self, Nat.le_refl, true_and,
      false_and, or_false, and_true]
  · obtain ⟨n, rfl⟩ := Nat.exists_eq_add_of_le hlt
    rw [show pos.succ + n - pos = n + 1 by omega, behindHash_cons_succ]
    simp [show pos.succ + n ≠ pos by omega, show pos ≤ pos.succ + n by omega]

theorem not_onFirstLine_lineFeed : ¬ OnFirstLine (lineFeed :: rest) offset :=
  fun h => h.2 0 (Nat.zero_le offset) rfl

theorem not_onFirstLine_nil : ¬ OnFirstLine [] offset :=
  fun h => absurd h.1 (Nat.not_lt_zero offset)

theorem not_behindHash_nil : ¬ BehindHash [] offset :=
  fun h => absurd h.1 (Nat.not_lt_zero offset)

end Lines

/-! ## What the scanner finds -/

section Runs

variable {markers : Markers} {flags : Flags} (hmarkers : markers.HasHashOnly)
  (hcomments : flags.comments = true) (hstrings : flags.strings = false)
include hmarkers hcomments hstrings

/-- A hash sign opens a comment, and nothing else opens anything. -/
theorem open?_of_hash (b : UInt8) (rest : List UInt8) :
    open? markers flags (b :: rest) = if b = hash then some (.lineComment, 1) else none := by
  have hlength : (markerBytes "#").length = 1 := by decide
  have hopens : opensWith (markerBytes "#") (b :: rest) = (hash == b) := by
    rw [show markerBytes "#" = [hash] by decide]
    simp [opensWith, List.isPrefixOf]
  have hcomment : openComment? markers (b :: rest) =
      if b = hash then some (.lineComment, 1) else none := by
    rw [openComment?, hmarkers.1, hmarkers.2, List.find?_nil, List.find?_cons, hopens]
    by_cases hb : b = hash
    · simp [hb, hlength]
    · simp [hb, beq_eq_false_iff_ne.2 (Ne.symm hb)]
  simp [open?, hcomments, hstrings, hcomment]

/-- **What the scanner finds in code and in a comment.**  In a comment the rest of the line is
ignored too. -/
theorem covers_regionsFrom_of_hash (rest : List UInt8) {pos size : Nat}
    (hsize : pos + rest.length = size) (offset : Nat) :
    (Covers (regionsFrom markers flags size ⟨.code, pos, rest⟩) offset ↔
      pos ≤ offset ∧ BehindHash rest (offset - pos)) ∧
    ∀ start ≤ pos, (Covers (regionsFrom markers flags size ⟨.inside .lineComment start, pos, rest⟩)
        offset ↔ (start ≤ offset ∧ offset < pos) ∨
      pos ≤ offset ∧ (OnFirstLine rest (offset - pos) ∨ BehindHash rest (offset - pos))) := by
  induction rest generalizing pos with
  | nil =>
    obtain rfl : pos = size := hsize
    simp [regionsFrom_nil, State.remainder, covers_cons, not_covers_nil, not_behindHash_nil,
      not_onFirstLine_nil]
  | cons b rest ih =>
    have hopen := open?_of_hash hmarkers hcomments hstrings b rest
    have hnext : pos + 1 + rest.length = size := by
      rw [← hsize, List.length_cons, Nat.add_assoc, Nat.add_comm 1]
    obtain ⟨hcode, hinside⟩ := ih hnext
    have hne : b :: rest ≠ [] := List.cons_ne_nil b rest
    have hfst : Covers (regionsFrom markers flags size ⟨.code, pos, b :: rest⟩) offset ↔
        pos ≤ offset ∧ BehindHash (b :: rest) (offset - pos) := by
      rw [behindHash_cons]
      by_cases hb : b = hash
      · rw [if_pos hb] at hopen
        rw [regionsFrom_code_of_open hne hopen, List.drop_one, List.tail_cons,
          hinside pos (Nat.le_succ pos), and_or_left, ← or_assoc]
        simp only [hb, true_and]
        refine or_congr_left (or_congr_left ?_)
        omega
      · rw [if_neg hb] at hopen
        rw [regionsFrom_code_of_none hopen, hcode]
        simp only [hb, false_and, false_or]
    refine ⟨hfst, fun start hstart => ?_⟩
    by_cases hb : b = lineFeed
    · subst hb
      have hclose : Region.lineComment.advance (lineFeed :: rest) = .close 0 :=
        advance_lineComment_of_lineFeed rest
      rw [regionsFrom_of_close hne hclose, covers_cons, Nat.add_zero, List.drop_zero, hfst]
      simp only [not_onFirstLine_lineFeed, false_or]
    · have hquiet : Region.lineComment.actsAt (b :: rest) = false := by
        simpa [Region.actsAt] using hb
      rw [regionsFrom_skip hquiet, hinside start (Nat.le_succ_of_le hstart), and_or_left,
        and_or_left, onFirstLine_cons hb, behindHash_cons]
      -- What a hash sign ignores here is ignored by the comment anyway.
      grind

end Runs

/-! ## Line by line -/

/-- **A line is ignored as it is by itself**, whatever stands in the lines before it and behind. -/
theorem behindHash_append {before row after : List UInt8} {n : Nat}
    (hbefore : ∀ b ∈ before.getLast?, b = lineFeed) (hn : n < row.length) :
    BehindHash (before ++ (row ++ after)) (before.length + n) ↔ BehindHash row n := by
  have hrow : ∀ i ≤ n, (before ++ (row ++ after))[before.length + i]? = row[i]? := by
    intro i hi
    rw [List.getElem?_append_right (Nat.le_add_right _ i), Nat.add_sub_cancel_left,
      List.getElem?_append_left (by omega)]
  rw [BehindHash, BehindHash, hrow n (Nat.le_refl n)]
  refine and_congr (iff_of_true ?_ hn) (and_congr_right fun _ => ?_)
  · rw [List.length_append, List.length_append]
    omega
  constructor
  · rintro ⟨i, hle, hhash, hclear⟩
    -- A hash sign further up would have the line feed before the line behind it.
    have hi : before.length ≤ i := by
      by_contra hlt
      have hne : before ≠ [] := List.length_pos_iff.1 (by omega)
      have hlast := List.getLast?_eq_some_getLast hne
      refine hclear (before.length - 1) (by omega) (by omega) ?_
      rw [List.getElem?_append_left (by omega), ← List.getLast?_eq_getElem?, hlast,
        hbefore _ hlast]
    obtain ⟨k, rfl⟩ := Nat.exists_eq_add_of_le hi
    refine ⟨k, by omega, hrow k (by omega) ▸ hhash, fun j hkj hj => ?_⟩
    rw [← hrow j (Nat.le_of_lt hj)]
    exact hclear _ (by omega) (by omega)
  · rintro ⟨i, hle, hhash, hclear⟩
    refine ⟨before.length + i, by omega, (hrow i hle).trans hhash, fun j hij hj => ?_⟩
    obtain ⟨k, rfl⟩ := Nat.exists_eq_add_of_le (Nat.le_trans (Nat.le_add_right _ i) hij)
    rw [hrow k (by omega)]
    exact hclear k (by omega) (by omega)

/-- **What is ignored where a hash sign is all that opens a comment.**  This is so in seven
languages, in whatever case their names are written.  With comments ignored and strings not, an
offset is ignored exactly when it lies in the text, its byte is no line feed, and there is a hash
sign at or before it on its line.  So every line is ignored as it is by itself. -/
theorem contains_ignoredRanges_iff_behindHash :
    (∀ language : String, (Markers.ofLanguage language).HasHashOnly ↔
      Text.lowercase language ∈ hashLanguages) ∧
    ∀ (language : String) (flags : Flags), (Markers.ofLanguage language).HasHashOnly →
      flags.comments = true → flags.strings = false →
      (∀ (text : String) (offset : Nat),
        (ignoredRanges text language flags).contains offset = true ↔
          BehindHash (Text.bytes text.toList) offset) ∧
      ∀ (before line after : String) (n : Nat), (∀ c ∈ before.toList.getLast?, c = '\n') →
        n < Text.byteLength line.toList →
        (ignoredRanges (before ++ (line ++ after)) language flags).contains
            (Text.byteLength before.toList + n) =
          (ignoredRanges line language flags).contains n := by
  refine ⟨fun language => hasHashOnly_iff, fun language flags hhash hcomments hstrings => ?_⟩
  have hcontains : ∀ (text : String) (offset : Nat),
      (ignoredRanges text language flags).contains offset = true ↔
        BehindHash (Text.bytes text.toList) offset := by
    intro text offset
    have hcovers := (covers_regionsFrom_of_hash hhash hcomments hstrings
      (Text.bytes text.toList) (Nat.zero_add _) offset).1
    simp only [Nat.zero_le, true_and, Nat.sub_zero] at hcovers
    rw [ignoredRanges, isMarkdown_eq_false_of_hasHashOnly hhash, hcomments]
    simp only [Bool.false_eq_true, if_false, Bool.not_true, Bool.false_and]
    rw [contains_merge_iff forward_regions]
    exact hcovers
  refine ⟨hcontains, fun before line after n hbefore hn => ?_⟩
  rw [Bool.eq_iff_iff, hcontains, hcontains, String.toList_append, String.toList_append,
    Text.bytes_append, Text.bytes_append, ← Text.length_bytes]
  refine behindHash_append (fun b hb => ?_) (Text.length_bytes line.toList ▸ hn)
  cases hlast : before.toList.getLast? with
  | none =>
    rw [List.getLast?_eq_none_iff.1 hlast] at hb
    cases hb
  | some c =>
    obtain rfl := hbefore c hlast
    rw [Text.getLast?_bytes_of_isAscii rfl hlast, Option.mem_some] at hb
    exact hb.symm

/-- Behind a string that is not closed, a quote and an escape, as in that line alone. -/
theorem contains_ignoredRanges_iff_behindHash_quoted :
    (Markers.ofLanguage "Python").HasHashOnly ∧
    (ignoredRanges "'''\n\"\\ #😀'\n" "Python" ⟨true, false, true⟩).contains 8 = true ∧
    (ignoredRanges "'''\n\"\\ #😀'\n" "Python" ⟨true, false, true⟩).contains 13 = false := by
  have hhash : (Markers.ofLanguage "Python").HasHashOnly :=
    (contains_ignoredRanges_iff_behindHash.1 "Python").2 (by decide)
  obtain ⟨hcontains, -⟩ :=
    contains_ignoredRanges_iff_behindHash.2 "Python" ⟨true, false, true⟩ hhash rfl rfl
  refine ⟨hhash, (hcontains _ _).2 ⟨by decide, by decide, 7, by decide, by decide, ?_⟩,
    Bool.eq_false_iff.2 fun h => ((hcontains _ _).1 h).2.1 (by decide)⟩
  intro j hij hj
  obtain rfl : j = 7 := by omega
  decide

end Ignore
end EmojiLint
